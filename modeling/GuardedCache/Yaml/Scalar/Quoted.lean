import GuardedCache.Json.Reader
import GuardedCache.Yaml.Scalar.Plain

/-!
# Quoted scalars

Between single quotes a quote is written twice and nothing else is special.
Between double quotes a backslash starts an escape; before a line break it
joins the lines without a space.  Other lines are folded.
-/

namespace GuardedCache.Yaml

/-- The character that an escape of one letter stands for. -/
def letterEscape? (letter : Char) : Option Char :=
  if letter = '0' then some '\x00'
  else if letter = 'a' then some '\x07'
  else if letter = 'b' then some '\x08'
  else if letter = 't' ∨ letter = '\t' then some '\t'
  else if letter = 'n' then some '\n'
  else if letter = 'v' then some '\x0b'
  else if letter = 'f' then some '\x0c'
  else if letter = 'r' then some '\r'
  else if letter = 'e' then some '\x1b'
  else if letter = ' ' ∨ letter = '\x22' ∨ letter = '/' ∨ letter = '\\' then some letter
  else if letter = 'N' then some '\u0085'
  else if letter = '_' then some '\u00a0'
  else if letter = 'L' then some '\u2028'
  else if letter = 'P' then some '\u2029'
  else none

/-- How many hexadecimal digits follow the letter of a numeric escape. -/
def escapeWidth (letter : Char) : Nat :=
  if letter = 'x' then 2
  else if letter = 'u' then 4
  else if letter = 'U' then 8
  else 0

/-- The character with a code point, unless there is none. -/
def charOf? (code : Nat) : Option Char :=
  if code < 0xD800 ∨ 0xDFFF < code ∧ code ≤ 0x10FFFF then some (Char.ofNat code) else none

/-- What was read last inside double quotes. -/
inductive Pending where
  /-- Blanks and line breaks, backwards, perhaps after an escaped break. -/
  | gap (afterEscape : Bool) (chars : List Char)
  | backslash
  /-- A numeric escape that lacks some digits. -/
  | digits (missing code : Nat)

/-- The rest of a scalar in double quotes, up to its closing quote. -/
def doubleQuotedFrom : Pending → Source → Option Lexeme
  | _, [] => none
  | .gap afterEscape chars, p :: rest =>
    if isGapChar p.char then doubleQuotedFrom (.gap afterEscape (p.char :: chars)) rest
    else if startsDocument (p :: rest) then none
    else
      let gap := if afterEscape then foldEscaped chars.reverse else foldGap chars.reverse
      if p.char = '\x22' then some { text := gap, rest }
      else if p.char = '\\' then (doubleQuotedFrom .backslash rest).map (·.prepend gap)
      else
        (doubleQuotedFrom (.gap false []) rest).map (·.prepend (gap ++ [p.char]))
  | .backslash, p :: rest =>
    if isBreak p.char then doubleQuotedFrom (.gap true []) rest
    else if 0 < escapeWidth p.char then
      doubleQuotedFrom (.digits (escapeWidth p.char) 0) rest
    else do
      let c ← letterEscape? p.char
      return (← doubleQuotedFrom (.gap false []) rest).prepend [c]
  | .digits missing code, p :: rest => do
    let code := code * 16 + (← Json.hexValue? p.char)
    if missing ≤ 1 then
      let c ← charOf? code
      return (← doubleQuotedFrom (.gap false []) rest).prepend [c]
    else doubleQuotedFrom (.digits (missing - 1) code) rest

/-- The rest of a scalar in single quotes, up to its closing quote.  `gap`
holds the gap just before it, read backwards. -/
def singleQuotedFrom (gap : List Char) : Source → Option Lexeme
  | [] => none
  | p :: rest =>
    if isGapChar p.char then singleQuotedFrom (p.char :: gap) rest
    else if startsDocument (p :: rest) then none
    else
      let text := foldGap gap.reverse
      if p.char = '\'' then
        match rest with
        | q :: more =>
          if q.char = '\'' then (singleQuotedFrom [] more).map (·.prepend (text ++ ['\'']))
          else some { text, rest }
        | [] => some { text, rest := [] }
      else (singleQuotedFrom [] rest).map (·.prepend (text ++ [p.char]))

/-- A scalar in double quotes, after the opening quote. -/
def doubleQuoted (s : Source) : Option Lexeme :=
  doubleQuotedFrom (.gap false []) s

/-- A scalar in single quotes, after the opening quote. -/
def singleQuoted (s : Source) : Option Lexeme :=
  singleQuotedFrom [] s

end GuardedCache.Yaml
