import GuardedCache.Yaml.Scalar.Folding

/-!
# Plain scalars

A plain scalar has no quotes.  It ends before a colon or a comment that stands
apart, before a line that is not indented enough, and inside brackets also
before a mark of the brackets.
-/

namespace GuardedCache.Yaml

/-- Whether a character is a mark of a flow collection. -/
def isFlowMark (c : Char) : Bool :=
  c = ',' || c = '[' || c = ']' || c = '\x7b' || c = '\x7d'

/-- Whether a character that is not in a gap ends a plain scalar. -/
def endsWord (inFlow : Bool) (p : Placed) (rest : Source) : Bool :=
  (p.char = ':' && startsApart rest) || (inFlow && isFlowMark p.char)

/-- Whether a character after a gap ends a plain scalar.  Outside of brackets
it does so if it stands before column `limit`. -/
def endsGap (limit : Nat) (inFlow : Bool) (p : Placed) (rest : Source) : Bool :=
  (!inFlow && p.column < limit) || p.char = '#' || startsDocument (p :: rest)

/-- Whether a colon stands directly before a mark inside brackets, which is
not allowed. -/
def clashes (inFlow : Bool) (p : Placed) (rest : Source) : Bool :=
  inFlow && p.char = ':' &&
    rest.head?.any fun next => isFlowMark next.char || next.char = '?'

/-- Text with what follows it. -/
structure Lexeme where
  text : List Char
  rest : Source
  /-- Whether a line break stands at the end of what was read. -/
  broken : Bool := false

/-- A lexeme with more text at its front. -/
def Lexeme.prepend (text : List Char) (lexeme : Lexeme) : Lexeme :=
  { lexeme with text := text ++ lexeme.text }

/-- The rest of a plain scalar.  `gap` holds the gap just before it, read
backwards. -/
def plainFrom (limit : Nat) (inFlow : Bool) (gap : List Char) : Source → Option Lexeme
  | [] => some { text := [], rest := [], broken := gap.any isBreak }
  | p :: rest =>
    let broken := gap.any isBreak
    if isGapChar p.char then
      if p.char = '\t' ∧ broken ∧ p.column < limit then none
      else plainFrom limit inFlow (p.char :: gap) rest
    else if (gap ≠ [] && endsGap limit inFlow p rest) then
      some { text := [], rest := p :: rest, broken }
    else if clashes inFlow p rest then none
    else if endsWord inFlow p rest then
      some { text := [], rest := p :: rest, broken }
    else
      (plainFrom limit inFlow [] rest).map
        (·.prepend (foldGap gap.reverse ++ [p.char]))

/-- A plain scalar at the front of a source. -/
def plainScalar (limit : Nat) (inFlow : Bool) (s : Source) : Option Lexeme :=
  plainFrom limit inFlow [] s

end GuardedCache.Yaml
