import GuardedCache.Json.Reader
import GuardedCache.Text.Decimal
import GuardedCache.Yaml.Source
import GuardedCache.Yaml.Token

/-!
# Anchors, tags and directives

The tokens that start with `&`, `*`, `!` or `%`.
-/

namespace GuardedCache.Yaml

/-- A token with what follows it. -/
abbrev Read := Token × Source

/-- The name of an anchor and what follows it, which must not be part of a
word. -/
def anchorName (s : Source) : Option (String × Source) :=
  match spanOf isWordChar s with
  | ([], _) => none
  | (name, rest) =>
    if startsApart rest || "?:,]\x7d%@\x60".toList.any (startsWith · rest) then
      some (String.ofList name, rest)
    else none

/-- Whether a character may stand in a tag.  Three more may between angle
brackets. -/
def isTagChar (bracketed : Bool) (c : Char) : Bool :=
  isWordChar c || ";/?:@&=+$.!~*'()".toList.contains c ||
    (bracketed && ",[]".toList.contains c)

/-- How many bytes follow the first byte of an encoded character. -/
def followers? (byte : Nat) : Option Nat :=
  if byte < 0x80 then some 0
  else if 0xC0 ≤ byte ∧ byte < 0xE0 then some 1
  else if 0xE0 ≤ byte ∧ byte < 0xF0 then some 2
  else if 0xF0 ≤ byte ∧ byte < 0xF8 then some 3
  else none

/-- The bytes of a tag and what follows them.  A byte may be written as a
percent sign and two hexadecimal digits; `missing` bytes of a character that is
written so must follow. -/
def tagBytes (bracketed : Bool) : (missing : Nat) → Source → Option (TagBytes × Source)
  | 0, [] => some ([], [])
  | _, [] => none
  | missing, p :: rest =>
    if p.char = '%' then
      match rest with
      | high :: low :: more => do
        let byte := (← Json.hexValue? high.char) * 16 + (← Json.hexValue? low.char)
        let missing ← match missing with
          | 0 => followers? byte
          | missing + 1 => if 0x80 ≤ byte ∧ byte < 0xC0 then some missing else none
        let (bytes, more) ← tagBytes bracketed missing more
        return (UInt8.ofNat byte :: bytes, more)
      | _ => none
    else if missing ≠ 0 then none
    else if isTagChar bracketed p.char then do
      let (bytes, rest) ← tagBytes bracketed 0 rest
      return (UInt8.ofNat p.char.toNat :: bytes, rest)
    else some ([], p :: rest)

/-- The part of a tag that counts, which ends before a zero byte. -/
def significant (bytes : TagBytes) : TagBytes :=
  bytes.takeWhile (· ≠ 0)

/-- A handle after its first exclamation mark: a word and perhaps another
exclamation mark. -/
def handleRest (s : Source) : List Char × Bool × Source :=
  let (word, rest) := spanOf isWordChar s
  match rest with
  | [] => (word, false, [])
  | p :: more => if p.char = '!' then (word, true, more) else (word, false, rest)

/-- A tag after its exclamation mark, without the check of what follows. -/
def tagParts (s : Source) : Option Read :=
  match s with
  | p :: rest =>
    if p.char = '<' then do
      let (suffix, rest) ← tagBytes true 0 rest
      match suffix, rest with
      | [], _ => none
      | _, [] => none
      | suffix, q :: rest =>
        if q.char = '>' then some (.tag "" (significant suffix), rest) else none
    else
      let (word, closed, rest) := handleRest s
      let name := word.map fun c => UInt8.ofNat c.toNat
      if closed then do
        let (suffix, rest) ← tagBytes false 0 rest
        if suffix = [] then none
        else some (.tag (String.ofList ('!' :: word ++ ['!'])) (significant suffix), rest)
      else do
        let (suffix, rest) ← tagBytes false 0 rest
        match significant (name ++ suffix) with
        | [] => some (.tag "" [33], rest)
        | suffix => some (.tag "!" suffix, rest)
  | [] => some (.tag "" [33], [])

/-- A tag after its exclamation mark.  It must stand apart from what follows;
inside brackets a comma may follow directly. -/
def tag (inFlow : Bool) (s : Source) : Option Read := do
  let (token, rest) ← tagParts s
  if startsApart rest || (inFlow && startsWith ',' rest) then some (token, rest) else none

/-- A number of one to nine digits. -/
def versionNumber (s : Source) : Option (Nat × Source) :=
  match spanOf Text.Decimal.isDigit s with
  | ([], _) => none
  | (digits, rest) =>
    if digits.length ≤ 9 then some (Text.Decimal.value digits, rest) else none

/-- The rest of a version directive. -/
def versionDirective (s : Source) : Option Read := do
  let (major, rest) ← versionNumber (skipBlanks s)
  match rest with
  | [] => none
  | p :: rest =>
    if p.char = '.' then do
      let (minor, rest) ← versionNumber rest
      some (.version major minor, rest)
    else none

/-- The rest of a directive that defines a tag handle. -/
def handleDirective (s : Source) : Option Read :=
  match skipBlanks s with
  | [] => none
  | p :: rest =>
    if p.char = '!' then
      let (word, closed, rest) := handleRest rest
      if (closed || word = []) && rest.head?.any fun p => isBlank p.char then do
        let (stem, rest) ← tagBytes true 0 (skipBlanks rest)
        let name := '!' :: word ++ (if closed then ['!'] else [])
        if stem ≠ [] ∧ startsApart rest then
          some (.handle (String.ofList name) (significant stem), rest)
        else none
      else none
    else none

/-- A directive after its percent sign. -/
def directive (s : Source) : Option Read := do
  let (name, rest) := spanOf isWordChar s
  if ¬ startsApart rest then none
  let (token, rest) ←
    if name = "YAML".toList then versionDirective rest
    else if name = "TAG".toList then handleDirective rest
    else none
  return (token, ← endLine? rest)

end GuardedCache.Yaml
