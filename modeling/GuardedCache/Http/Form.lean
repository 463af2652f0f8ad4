import GuardedCache.Json.Reader
import GuardedCache.Text.Utf8

/-!
# Form data

The pairs of names and values in a query string of the form
`name=value&name=value`.  A plus is a space, a percent sign with two
hexadecimal digits is a byte, and any other percent sign stands for itself.
-/

namespace GuardedCache.Http

open Text

/-- The bytes of an encoded text. -/
def formBytes : List UInt8 → List UInt8
  | [] => []
  | [byte] => [if byte = 43 then 32 else byte]
  | [byte, last] => (if byte = 43 then 32 else byte) :: formBytes [last]
  | byte :: high :: low :: rest =>
    if byte = 37 then
      match Json.hexValue? (Char.ofNat high.toNat), Json.hexValue? (Char.ofNat low.toNat) with
      | some h, some l => UInt8.ofNat (h * 16 + l) :: formBytes rest
      | _, _ => byte :: formBytes (high :: low :: rest)
    else (if byte = 43 then 32 else byte) :: formBytes (high :: low :: rest)

/-- The text that an encoded text stands for. -/
def formDecode (text : List Char) : String :=
  Utf8.decodeLossy (formBytes (String.ofList text).toUTF8.toList)

/-- A text cut at every occurrence of a character. -/
def splitAll (mark : Char) : List Char → List (List Char)
  | [] => [[]]
  | c :: rest =>
    if c = mark then [] :: splitAll mark rest
    else
      match splitAll mark rest with
      | [] => [[c]]
      | part :: parts => (c :: part) :: parts

/-- A text cut at the first occurrence of a character. -/
def splitFirst (mark : Char) (text : List Char) : List Char × Option (List Char) :=
  match text.dropWhile (· ≠ mark) with
  | [] => (text, none)
  | _ :: rest => (text.takeWhile (· ≠ mark), some rest)

/-- A decoded pair; without an equals sign the value is empty. -/
def formPair (part : List Char) : String × String :=
  let (name, value) := splitFirst '=' part
  (formDecode name, formDecode (value.getD []))

/-- The pairs of a query string. -/
def formPairs (query : String) : List (String × String) :=
  ((splitAll '&' query.toList).filter (· ≠ [])).map formPair

end GuardedCache.Http
