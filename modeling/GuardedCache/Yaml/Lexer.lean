import GuardedCache.Yaml.Layout
import GuardedCache.Yaml.Scalar.Block
import GuardedCache.Yaml.Scalar.Quoted
import GuardedCache.Yaml.Tag

/-!
# From characters to tokens

`Token.ofText?` gives the tokens of a whole text.  Between two tokens stand
blanks, line breaks and comments.
-/

namespace GuardedCache.Yaml

/-- What follows blanks, breaks and comments, and whether a key may start
there.  Outside of brackets a tab may not stand where a key may start. -/
def skipGap (inFlow : Bool) : (keyAllowed inComment : Bool) → Source → Bool × Source
  | keyAllowed, _, [] => (keyAllowed, [])
  | keyAllowed, inComment, p :: rest =>
    if isBreak p.char then skipGap inFlow (keyAllowed || !inFlow) false rest
    else if inComment then skipGap inFlow keyAllowed true rest
    else if p.char = '#' then skipGap inFlow keyAllowed true rest
    else if p.char = ' ' ∨ (p.char = '\t' ∧ (inFlow ∨ ¬ keyAllowed)) then
      skipGap inFlow keyAllowed false rest
    else if p.char = '\ufeff' ∧ p.column = 0 then skipGap inFlow keyAllowed false rest
    else (keyAllowed, p :: rest)

/-- Whether a plain scalar may start with a character. -/
def startsPlain (inFlow : Bool) (p : Placed) (rest : Source) : Bool :=
  if p.char = '-' then !startsApart rest
  else if p.char = '?' || p.char = ':' then !inFlow && !startsApart rest
  else !isGapChar p.char && !",[]\x7b\x7d#&*!|>'\x22%@\x60".toList.contains p.char

namespace Layout

/-- The state between two tokens: the layout and what follows. -/
abbrev Progress := Layout × Source

/-- A scalar at a place, from its lexeme. -/
def scalar (l : Layout) (p : Placed) (style : ScalarStyle) (lexeme : Lexeme) :
    Option Progress := do
  let l ← l.startNode p (.scalar (String.ofList lexeme.text) style)
  return (l.allow lexeme.broken, lexeme.rest)

/-- A block scalar, after which a key may start. -/
def block (l : Layout) (folded : Bool) (s : Source) : Option Progress := do
  let l ← l.dropKey
  let lexeme ← blockScalar folded l.limit s
  let style := if folded then .folded else .literal
  return ((l.push (.scalar (String.ofList lexeme.text) style)).allow true, lexeme.rest)

/-- A node that starts with a mark: an anchor, an alias, a tag or a scalar. -/
def readNode (l : Layout) (p : Placed) (rest : Source) : Option Progress :=
  if p.char = '*' then do
    let (name, rest) ← anchorName rest
    return (← l.startNode p (.alias name), rest)
  else if p.char = '&' then do
    let (name, rest) ← anchorName rest
    return (← l.startNode p (.anchor name), rest)
  else if p.char = '!' then do
    let (token, rest) ← tag l.inFlow rest
    return (← l.startNode p token, rest)
  else if p.char = '|' ∧ ¬ l.inFlow then l.block false rest
  else if p.char = '>' ∧ ¬ l.inFlow then l.block true rest
  else if p.char = '\'' then do l.scalar p .quoted (← singleQuoted rest)
  else if p.char = '\x22' then do l.scalar p .quoted (← doubleQuoted rest)
  else if startsPlain l.inFlow p rest then do
    l.scalar p .plain (← plainScalar l.limit l.inFlow (p :: rest))
  else none

/-- The token at the front of a source that does not start with a gap. -/
def read (l : Layout) (p : Placed) (rest : Source) : Option Progress :=
  if p.column = 0 ∧ p.char = '%' then do
    let (token, rest) ← directive rest
    return (← l.outermost token, rest)
  else
    match afterMarks? '-' (p :: rest), afterMarks? '.' (p :: rest) with
    | some rest, _ => (l.outermost .documentStart).map (·, rest)
    | _, some rest => (l.outermost .documentEnd).map (·, rest)
    | none, none =>
      let isMark := l.inFlow || startsApart rest
      if p.char = '[' then do
        return ((← l.noteKey p).enter .flowSequenceStart, rest)
      else if p.char = '\x7b' then do
        return ((← l.noteKey p).enter .flowMappingStart, rest)
      else if p.char = ']' then (l.leave .flowSequenceEnd).map (·, rest)
      else if p.char = '\x7d' then (l.leave .flowMappingEnd).map (·, rest)
      else if p.char = ',' then l.nextEntry.map (·, rest)
      else if p.char = '-' ∧ startsApart rest then (l.item p.column).map (·, rest)
      else if p.char = '?' ∧ isMark then (l.explicitKey p.column).map (·, rest)
      else if p.char = ':' ∧ isMark then (l.value p.column).map (·, rest)
      else l.readNode p rest

/-- The tokens of a whole document.  Each step but the last reads a character,
so the length of the source is enough `fuel`. -/
def readAll : (fuel : Nat) → Layout → Source → Option (Array Token)
  | fuel, l, s =>
    match skipGap l.inFlow l.keyAllowed false s with
    | (_, []) => l.closeAll.dropKey.map Layout.tokens
    | (keyAllowed, p :: rest) =>
      match fuel with
      | 0 => none
      | fuel + 1 => do
        let l ← (l.allow keyAllowed).checkKeys p
        let (l, rest) ← (l.closeBlocks fun column => column ≤ p.column).read p rest
        readAll fuel l rest

end Layout

/-- The tokens of a text. -/
def Token.ofText? (text : String) : Option (List Token) := do
  let s ← source? text
  let tokens ← Layout.readAll s.length {} s
  return tokens.toList

end GuardedCache.Yaml
