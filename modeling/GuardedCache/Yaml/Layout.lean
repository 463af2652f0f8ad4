import GuardedCache.Yaml.Source
import GuardedCache.Yaml.Token

/-!
# Layout

The structure of a document follows from columns and from colons that come
later.  `Layout` holds the tokens so far, the columns of the open block
collections, and for each level of brackets the place of a token that may turn
out to be the start of a key.  Such a key must end with a colon in the same
line and within 1024 bytes.
-/

namespace GuardedCache.Yaml

/-- The place of a token that may start a key. -/
structure KeyPlace where
  /-- The number of tokens before it. -/
  index : Nat
  /-- The line in which it stands. -/
  line : Nat
  /-- The column in which it stands. -/
  column : Nat
  /-- The number of bytes before it in its line. -/
  offset : Nat
  /-- Whether only a key can stand there. -/
  required : Bool
deriving DecidableEq, Repr

/-- How many bytes a key may reach. -/
def maxKeyLength : Nat := 1024

/-- What is known between two tokens. -/
structure Layout where
  tokens : Array Token := #[]
  /-- The columns of the open block collections, the innermost first. -/
  columns : List Nat := []
  /-- The possible key at the current level of brackets. -/
  candidate : Option KeyPlace := none
  /-- The possible keys at the levels around it, the innermost first. -/
  outer : List (Option KeyPlace) := []
  /-- Whether a key may start at the next token. -/
  keyAllowed : Bool := true

namespace Layout

/-- Whether there are open brackets. -/
def inFlow (l : Layout) : Bool :=
  !l.outer.isEmpty

/-- The first column in which lines of the innermost collection may go on. -/
def limit (l : Layout) : Nat :=
  match l.columns with
  | [] => 0
  | column :: _ => column + 1

/-- The layout after one more token. -/
def push (l : Layout) (token : Token) : Layout :=
  { l with tokens := l.tokens.push token }

/-- The layout with a token at an earlier place. -/
def insert (l : Layout) (index : Nat) (token : Token) : Layout :=
  { l with tokens := l.tokens.take index ++ #[token] ++ l.tokens.drop index }

/-- The layout in which a key may or may not start at the next token. -/
def allow (l : Layout) (keyAllowed : Bool) : Layout :=
  { l with keyAllowed }

/-- Open a block collection in a column, unless one is open there.  Its first
token goes to the given place. -/
def openBlock (l : Layout) (column index : Nat) (token : Token) : Layout :=
  if !l.inFlow && l.limit ≤ column then
    { l.insert index token with columns := column :: l.columns }
  else l

/-- Close the innermost block collections, up to the first whose column may
stay open.  Inside brackets indentation does not count. -/
def closeBlocks (l : Layout) (stays : Nat → Bool) : Layout :=
  if l.inFlow then l
  else
    let closed := l.columns.takeWhile fun column => !stays column
    { l with
      tokens := l.tokens ++ (closed.map fun _ => Token.blockEnd)
      columns := l.columns.dropWhile fun column => !stays column }

/-- Close all block collections. -/
def closeAll (l : Layout) : Layout :=
  l.closeBlocks fun _ => false

/-- Give up the possible key at the current level. -/
def dropKey (l : Layout) : Option Layout :=
  if l.candidate.any (·.required) then none else some { l with candidate := none }

/-- Note that a key may start at the next token. -/
def noteKey (l : Layout) (p : Placed) : Option Layout :=
  if l.keyAllowed then do
    let l ← l.dropKey
    return { l with candidate := some {
      index := l.tokens.size
      line := p.line
      column := p.column
      offset := p.offset
      required := !l.inFlow && l.columns.head? = some p.column } }
  else some l

/-- A possible key that the reader has not yet gone past.  A required key must
not be gone past. -/
def checkKey (p : Placed) : Option KeyPlace → Option (Option KeyPlace)
  | none => some none
  | some key =>
    if key.line = p.line ∧ p.offset ≤ key.offset + maxKeyLength then some (some key)
    else if key.required then none
    else some none

/-- Give up the possible keys that the reader has gone past. -/
def checkKeys (l : Layout) (p : Placed) : Option Layout := do
  let candidate ← checkKey p l.candidate
  let outer ← l.outer.mapM (checkKey p)
  return { l with candidate, outer }

/-- Enter brackets. -/
def enter (l : Layout) (token : Token) : Layout :=
  { l.push token with
    candidate := none
    outer := l.candidate :: l.outer
    keyAllowed := true }

/-- Leave brackets. -/
def leave (l : Layout) (token : Token) : Option Layout := do
  let l ← l.dropKey
  let l := (l.push token).allow false
  match l.outer with
  | [] => some l
  | candidate :: outer => some { l with candidate, outer }

/-- Go to the next entry inside brackets. -/
def nextEntry (l : Layout) : Option Layout := do
  let l ← l.dropKey
  return (l.push .flowEntry).allow true

/-- A dash before an item, in a column. -/
def item (l : Layout) (column : Nat) : Option Layout := do
  if !l.inFlow && !l.keyAllowed then none
  let l ← (l.openBlock column l.tokens.size .blockSequenceStart).dropKey
  return (l.push .blockEntry).allow true

/-- A question mark before a key, in a column. -/
def explicitKey (l : Layout) (column : Nat) : Option Layout := do
  if !l.inFlow && !l.keyAllowed then none
  let l ← (l.openBlock column l.tokens.size .blockMappingStart).dropKey
  return (l.push .key).allow !l.inFlow

/-- A colon before a value, in a column.  The possible key becomes a key;
without one, the value belongs to an explicit key. -/
def value (l : Layout) (column : Nat) : Option Layout :=
  match l.candidate with
  | some place =>
    let l := (l.insert place.index .key).openBlock place.column place.index .blockMappingStart
    some (({ l with candidate := none }.allow false).push .value)
  | none =>
    if !l.inFlow && !l.keyAllowed then none
    else
      let l := l.openBlock column l.tokens.size .blockMappingStart
      some ((l.allow !l.inFlow).push .value)

/-- A token that belongs to the document as a whole. -/
def outermost (l : Layout) (token : Token) : Option Layout := do
  let l ← l.closeAll.dropKey
  return (l.push token).allow false

/-- The start of a node at a place, which may be a key. -/
def startNode (l : Layout) (p : Placed) (token : Token) : Option Layout := do
  let l ← l.noteKey p
  return (l.push token).allow false

end Layout

end GuardedCache.Yaml
