import GuardedCache.Yaml.Source

/-!
# Folded lines

The blanks and line breaks between two words of a scalar are a gap.  A gap
without a break stands for itself.  One break is folded into a space; of more
than one, the first is dropped and the others stay.  Blanks beside a break do
not count.
-/

namespace GuardedCache.Yaml

/-- The text of a gap between two words. -/
def foldGap (gap : List Char) : List Char :=
  match gap.filter isBreak with
  | [] => gap
  | ['\n'] => [' ']
  | '\n' :: more => more
  | breaks => breaks

/-- The text of a gap after a line break that was escaped. -/
def foldEscaped (gap : List Char) : List Char :=
  gap.filter isBreak

/-- Whether a character belongs to a gap. -/
def isGapChar (c : Char) : Bool :=
  isBlank c || isBreak c

end GuardedCache.Yaml
