/-!
# Tokens

A document is a sequence of tokens.  The structure that indentation gives shows
as tokens too: a block collection starts and ends with a token of its own, and
each key and each value of a mapping has a token before it.
-/

namespace GuardedCache.Yaml

/-- The bytes of a tag or of its start. -/
abbrev TagBytes := List UInt8

/-- How a scalar is written. -/
inductive ScalarStyle where
  | plain
  | quoted
  /-- In lines of its own, whose breaks stay. -/
  | literal
  /-- In lines of its own, whose breaks are folded. -/
  | folded
deriving DecidableEq, Repr

/-- A token. -/
inductive Token where
  /-- The version of the language. -/
  | version (major minor : Nat)
  /-- What a tag handle stands for. -/
  | handle (name : String) (stem : TagBytes)
  /-- The start of a document. -/
  | documentStart
  /-- The end of a document. -/
  | documentEnd
  /-- The start of a sequence in lines. -/
  | blockSequenceStart
  /-- The start of a mapping in lines. -/
  | blockMappingStart
  /-- The end of a collection in lines. -/
  | blockEnd
  /-- The dash before an item. -/
  | blockEntry
  /-- The start of a sequence in brackets. -/
  | flowSequenceStart
  /-- The end of a sequence in brackets. -/
  | flowSequenceEnd
  /-- The start of a mapping in braces. -/
  | flowMappingStart
  /-- The end of a mapping in braces. -/
  | flowMappingEnd
  | flowEntry
  /-- What comes before a key. -/
  | key
  /-- What comes before a value. -/
  | value
  /-- A reference to an anchor. -/
  | alias (name : String)
  /-- The name of the next node. -/
  | anchor (name : String)
  /-- The tag of the next node: a handle, which may be empty, and the rest. -/
  | tag (handle : String) (suffix : TagBytes)
  /-- A scalar: its text and how it is written. -/
  | scalar (text : String) (style : ScalarStyle)
deriving DecidableEq, Repr

end GuardedCache.Yaml
