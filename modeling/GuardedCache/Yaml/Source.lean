/-!
# Characters with positions

A document is read from characters that know the line and the column in which
they stand, and how many bytes of the line come before them.  Line breaks are
unified first: a carriage return, alone or before a line feed, and a next-line
character count as a line feed.
-/

namespace GuardedCache.Yaml

/-- Whether a character may stand in a document. -/
def isPermitted (c : Char) : Bool :=
  c = '\t' || c = '\n' || c = '\r' || (0x20 ≤ c.toNat && c.toNat ≤ 0x7E) ||
    c.toNat = 0x85 || (0xA0 ≤ c.toNat && c.toNat ≤ 0xFFFD) || 0x10000 ≤ c.toNat

/-- A text whose line breaks are unified. -/
def unifyBreaks : List Char → List Char
  | [] => []
  | '\r' :: '\n' :: rest => '\n' :: unifyBreaks rest
  | '\r' :: rest => '\n' :: unifyBreaks rest
  | '\u0085' :: rest => '\n' :: unifyBreaks rest
  | c :: rest => c :: unifyBreaks rest

/-- Whether a character ends a line. -/
def isBreak (c : Char) : Bool :=
  c = '\n' || c = '\u2028' || c = '\u2029'

/-- Whether a character separates words within a line. -/
def isBlank (c : Char) : Bool :=
  c = ' ' || c = '\t'

/-- Whether a character may stand in the name of an anchor. -/
def isWordChar (c : Char) : Bool :=
  (48 ≤ c.toNat && c.toNat ≤ 57) || (65 ≤ c.toNat && c.toNat ≤ 90) ||
    (97 ≤ c.toNat && c.toNat ≤ 122) || c = '_' || c = '-'

/-- A character with its place. -/
structure Placed where
  char : Char
  /-- The number of lines before it. -/
  line : Nat
  /-- The number of characters before it in its line. -/
  column : Nat
  /-- The number of bytes before it in its line. -/
  offset : Nat
deriving DecidableEq, Repr

/-- What remains to be read. -/
abbrev Source := List Placed

/-- Characters with their places, the first at the given one. -/
def placeFrom (line column offset : Nat) : List Char → Source
  | [] => []
  | c :: rest =>
    ⟨c, line, column, offset⟩ ::
      (if isBreak c then placeFrom (line + 1) 0 0 rest
      else placeFrom line (column + 1) (offset + c.utf8Size) rest)

/-- The source of a text, unless a character may not stand in it. -/
def source? (text : String) : Option Source :=
  if text.toList.all isPermitted then some (placeFrom 0 0 0 (unifyBreaks text.toList)) else none

/-- The characters at the front that have a property, and what follows. -/
def spanOf (property : Char → Bool) (s : Source) : List Char × Source :=
  ((s.takeWhile fun p => property p.char).map Placed.char,
    s.dropWhile fun p => property p.char)

/-- What follows the blanks at the front. -/
def skipBlanks (s : Source) : Source :=
  s.dropWhile fun p => isBlank p.char

/-- The break that ends the line at the front, and what follows. -/
def skipLine (s : Source) : Source :=
  s.dropWhile fun p => !isBreak p.char

/-- Whether the source starts with a blank or a line break, or is at its
end. -/
def startsApart : Source → Bool
  | [] => true
  | p :: _ => isBlank p.char || isBreak p.char

/-- Whether the source starts with a character. -/
def startsWith (c : Char) (s : Source) : Bool :=
  match s with
  | [] => false
  | p :: _ => p.char = c

/-- What follows the rest of a line in which only blanks and a comment may
stand. -/
def endLine? (s : Source) : Option Source :=
  match skipBlanks s with
  | [] => some []
  | p :: rest =>
    if p.char = '#' then some ((skipLine rest).drop 1)
    else if isBreak p.char then some rest
    else none

/-- What follows a line of three equal marks that stands apart, which starts
or ends a document. -/
def afterMarks? (mark : Char) (s : Source) : Option Source :=
  match s with
  | a :: b :: c :: rest =>
    if a.column = 0 ∧ a.char = mark ∧ b.char = mark ∧ c.char = mark ∧ startsApart rest then
      some rest
    else none
  | _ => none

/-- Whether the source starts with the start or the end of a document. -/
def startsDocument (s : Source) : Bool :=
  (afterMarks? '-' s).isSome || (afterMarks? '.' s).isSome

end GuardedCache.Yaml
