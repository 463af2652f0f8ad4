import GuardedCache.Json.Value
import GuardedCache.Text.Decimal

/-!
# Writing JSON

The compact text of a value.  In strings a quote, a backslash and the
characters below U+0020 are escaped and all others stand for themselves.  A
string without a text is written as a lone surrogate, so that it stays one
when it is read.
-/

namespace GuardedCache.Json

/-- The hexadecimal digit, in lower case, of a number below 16. -/
def hexDigit (value : Nat) : Char :=
  if value < 10 then Char.ofNat (48 + value) else Char.ofNat (87 + value)

/-- The escape of a code unit by its four hexadecimal digits. -/
def unicodeEscape (unit : Nat) : List Char :=
  ['\\', 'u', hexDigit (unit / 4096 % 16), hexDigit (unit / 256 % 16),
    hexDigit (unit / 16 % 16), hexDigit (unit % 16)]

/-- A character as it stands inside a string. -/
def escape (c : Char) : List Char :=
  if c = '\x22' then ['\\', '\x22']
  else if c = '\\' then ['\\', '\\']
  else if c = '\x08' then ['\\', 'b']
  else if c = '\t' then ['\\', 't']
  else if c = '\n' then ['\\', 'n']
  else if c = '\x0c' then ['\\', 'f']
  else if c = '\r' then ['\\', 'r']
  else if c.toNat < 0x20 then unicodeEscape c.toNat
  else [c]

/-- The characters of a string between its quotes, and the closing quote. -/
def stringTail (text : List Char) : List Char :=
  text.flatMap escape ++ ['\x22']

/-- A string. -/
def stringChars : Text → List Char
  | some text => '\x22' :: stringTail text.toList
  | none => '\x22' :: (unicodeEscape 0xD800 ++ ['\x22'])

mutual

/-- The compact text of a value, as characters. -/
def Value.chars : Value → List Char
  | .null => ['n', 'u', 'l', 'l']
  | .bool true => ['t', 'r', 'u', 'e']
  | .bool false => ['f', 'a', 'l', 's', 'e']
  | .number digits => digits.toList
  | .string text => stringChars text
  | .array items => '[' :: itemsChars items
  | .object members => '\x7b' :: membersChars members

/-- The items of an array and its closing bracket. -/
def itemsChars : List Value → List Char
  | [] => [']']
  | item :: rest => item.chars ++ moreItemsChars rest

/-- The items of an array after the first one and its closing bracket. -/
def moreItemsChars : List Value → List Char
  | [] => [']']
  | item :: rest => ',' :: (item.chars ++ moreItemsChars rest)

/-- The members of an object and its closing brace. -/
def membersChars : List (Text × Value) → List Char
  | [] => ['\x7d']
  | (name, value) :: rest =>
    stringChars name ++ ':' :: (value.chars ++ moreMembersChars rest)

/-- The members of an object after the first one and its closing brace. -/
def moreMembersChars : List (Text × Value) → List Char
  | [] => ['\x7d']
  | (name, value) :: rest =>
    ',' :: (stringChars name ++ ':' :: (value.chars ++ moreMembersChars rest))

end

/-- The compact text of a value. -/
def Value.write (value : Value) : String :=
  String.ofList value.chars

end GuardedCache.Json
