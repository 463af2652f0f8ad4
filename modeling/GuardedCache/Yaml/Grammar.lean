import GuardedCache.Yaml.Lexer
import GuardedCache.Yaml.Node

/-!
# From tokens to nodes

`Document.ofTokens?` gives the only document of a token sequence.  Where a node
could stand and nothing is written, an empty node stands.
-/

namespace GuardedCache.Yaml

/-- What the reader of nodes has before it. -/
structure Feed where
  tokens : List Token
  /-- What tag handles stand for. -/
  handles : Table String TagBytes
  /-- The numbers of the anchors so far, by name. -/
  names : Table String Nat := .empty

namespace Feed

/-- The feed at later tokens. -/
def goTo (f : Feed) (tokens : List Token) : Feed := { f with tokens }

/-- The feed after a number was given to the name of an anchor, and the
number. -/
def number (f : Feed) (name : String) : Nat × Feed :=
  (f.names.size, { f with names := f.names.insert name f.names.size })

/-- The tag that a handle and a suffix stand for. -/
def tag? (f : Feed) (handle : String) (suffix : TagBytes) : Option TagBytes :=
  if handle = "" then some suffix
  else (f.handles.get? handle).map (· ++ suffix)

/-- What stands before a node: an anchor and a tag in either order. -/
def label (f : Feed) : Option (Label × Feed) :=
  match f.tokens with
  | .anchor name :: .tag handle suffix :: rest => do
    let (anchor, f) := f.number name
    return ({ tag := some (← f.tag? handle suffix), anchor := some anchor }, f.goTo rest)
  | .tag handle suffix :: .anchor name :: rest => do
    let (anchor, f) := f.number name
    return ({ tag := some (← f.tag? handle suffix), anchor := some anchor }, f.goTo rest)
  | .anchor name :: rest =>
    let (anchor, f) := f.number name
    some ({ anchor := some anchor }, f.goTo rest)
  | .tag handle suffix :: rest => do
    return ({ tag := some (← f.tag? handle suffix) }, f.goTo rest)
  | _ => some ({}, f)

/-- Whether the next token is one of some. -/
def isAt (f : Feed) (tokens : List Token) : Bool :=
  f.tokens.head?.any fun token => tokens.contains token

end Feed

/-- Where a node stands. -/
inductive Context where
  | flow
  | block
  /-- In lines, as a key or a value; a sequence there need not be indented. -/
  | member
deriving DecidableEq, Repr

/-- An empty node, which needs something before it to be seen. -/
def emptyNode (label : Label) (f : Feed) : Option (Node × Feed) :=
  if label = {} then none else some (.scalar label "" .plain, f)

mutual

/-- A node.  Of three nested calls one takes a token from the feed, so three
times the number of tokens is enough `fuel`. -/
def readNode : (fuel : Nat) → Context → Feed → Option (Node × Feed)
  | 0, _, _ => none
  | fuel + 1, context, f => do
    if let .alias name :: rest := f.tokens then
      return (.alias (← f.names.get? name), f.goTo rest)
    let (label, f) ← f.label
    match f.tokens, context with
    | .scalar text style :: rest, _ => return (.scalar label text style, f.goTo rest)
    | .flowSequenceStart :: rest, _ =>
      let (items, f) ← readFlowItems fuel true (f.goTo rest)
      return (.sequence label items, f)
    | .flowMappingStart :: rest, _ =>
      let (members, f) ← readFlowMembers fuel true (f.goTo rest)
      return (.mapping label members, f)
    | .blockEntry :: _, .member =>
      let (items, f) ← readItems fuel false f
      return (.sequence label items, f)
    | .blockSequenceStart :: rest, .block =>
      let (items, f) ← readItems fuel true (f.goTo rest)
      return (.sequence label items, f)
    | .blockSequenceStart :: rest, .member =>
      let (items, f) ← readItems fuel true (f.goTo rest)
      return (.sequence label items, f)
    | .blockMappingStart :: rest, .block =>
      let (members, f) ← readMembers fuel (f.goTo rest)
      return (.mapping label members, f)
    | .blockMappingStart :: rest, .member =>
      let (members, f) ← readMembers fuel (f.goTo rest)
      return (.mapping label members, f)
    | _, _ => emptyNode label f

/-- A node, or an empty one before one of some tokens. -/
def readBefore : (fuel : Nat) → Context → List Token → Feed → Option (Node × Feed)
  | 0, _, _, _ => none
  | fuel + 1, context, ends, f =>
    if f.isAt ends then some (.empty, f) else readNode fuel context f

/-- The items of a sequence in lines.  One that is indented has an end of its
own. -/
def readItems : (fuel : Nat) → (indented : Bool) → Feed → Option (List Node × Feed)
  | 0, _, _ => none
  | fuel + 1, indented, f =>
    match f.tokens, indented with
    | .blockEntry :: rest, _ => do
      let ends := if indented then [.blockEntry, .blockEnd]
        else [.blockEntry, .key, .value, .blockEnd]
      let (item, f) ← readBefore fuel .block ends (f.goTo rest)
      let (items, f) ← readItems fuel indented f
      return (item :: items, f)
    | .blockEnd :: rest, true => some ([], f.goTo rest)
    | _, true => none
    | _, false => some ([], f)

/-- The members of a mapping in lines. -/
def readMembers : (fuel : Nat) → Feed → Option (List (Node × Node) × Feed)
  | 0, _ => none
  | fuel + 1, f =>
    match f.tokens with
    | .key :: rest => do
      let (key, f) ← readBefore fuel .member [.key, .value, .blockEnd] (f.goTo rest)
      let (value, f) ← readValue fuel .member [.key, .value, .blockEnd] f
      let (members, f) ← readMembers fuel f
      return ((key, value) :: members, f)
    | .blockEnd :: rest => some ([], f.goTo rest)
    | _ => none

/-- The value of a key, if there is one. -/
def readValue : (fuel : Nat) → Context → List Token → Feed → Option (Node × Feed)
  | 0, _, _, _ => none
  | fuel + 1, context, ends, f =>
    match f.tokens with
    | .value :: rest => readBefore fuel context ends (f.goTo rest)
    | _ => some (.empty, f)

/-- The items of a sequence in brackets.  Commas stand before all of them but
the first. -/
def readFlowItems : (fuel : Nat) → (first : Bool) → Feed → Option (List Node × Feed)
  | 0, _, _ => none
  | fuel + 1, first, f => do
    if let .flowSequenceEnd :: rest := f.tokens then
      return ([], f.goTo rest)
    let f ← match f.tokens, first with
      | _, true => some f
      | .flowEntry :: rest, false => some (f.goTo rest)
      | _, false => none
    match f.tokens with
    | .flowSequenceEnd :: rest => return ([], f.goTo rest)
    | .key :: rest =>
      let (item, f) ← readPair fuel (f.goTo rest)
      let (items, f) ← readFlowItems fuel false f
      return (item :: items, f)
    | _ =>
      let (item, f) ← readNode fuel .flow f
      let (items, f) ← readFlowItems fuel false f
      return (item :: items, f)

/-- A mapping of one key inside a sequence in brackets.  If there is no key,
the token in its place is lost. -/
def readPair : (fuel : Nat) → Feed → Option (Node × Feed)
  | 0, _ => none
  | fuel + 1, f => do
    let (key, f) ←
      if f.isAt [.value, .flowEntry, .flowSequenceEnd] then
        some (Node.empty, f.goTo (f.tokens.drop 1))
      else readNode fuel .flow f
    let (value, f) ← readValue fuel .flow [.flowEntry, .flowSequenceEnd] f
    return (.mapping {} [(key, value)], f)

/-- The members of a mapping in braces.  Commas stand before all of them but
the first; a member may lack its value. -/
def readFlowMembers :
    (fuel : Nat) → (first : Bool) → Feed → Option (List (Node × Node) × Feed)
  | 0, _, _ => none
  | fuel + 1, first, f => do
    if let .flowMappingEnd :: rest := f.tokens then
      return ([], f.goTo rest)
    let f ← match f.tokens, first with
      | _, true => some f
      | .flowEntry :: rest, false => some (f.goTo rest)
      | _, false => none
    match f.tokens with
    | .flowMappingEnd :: rest => return ([], f.goTo rest)
    | .key :: rest =>
      let (key, f) ← readBefore fuel .flow [.value, .flowEntry, .flowMappingEnd] (f.goTo rest)
      let (value, f) ← readValue fuel .flow [.flowEntry, .flowMappingEnd] f
      let (members, f) ← readFlowMembers fuel false f
      return ((key, value) :: members, f)
    | _ =>
      let (key, f) ← readNode fuel .flow f
      let (members, f) ← readFlowMembers fuel false f
      return ((key, .empty) :: members, f)

end

/-- The tag handles that are always known. -/
def builtInHandles : List (String × TagBytes) :=
  [("!", "!".toUTF8.toList), ("!!", "tag:yaml.org,2002:".toUTF8.toList)]

/-- The handles that directives define, and the tokens after the directives.
The version may be given once, and so may each handle. -/
def readDirectives (versioned : Bool) (handles : Table String TagBytes) :
    List Token → Option (Table String TagBytes × List Token)
  | .version major minor :: rest =>
    if ¬ versioned ∧ major = 1 ∧ (minor = 1 ∨ minor = 2) then
      readDirectives true handles rest
    else none
  | .handle name stem :: rest =>
    if (handles.get? name).isNone then readDirectives versioned (handles.insert name stem) rest
    else none
  | tokens => some (handles, tokens)

/-- The handles that are known after some were defined. -/
def knownHandles (defined : Table String TagBytes) : Table String TagBytes :=
  .ofList (builtInHandles ++ defined.entries)

/-- Whether a token tells that a document starts. -/
def marksStart : Token → Bool
  | .version _ _ => true
  | .handle _ _ => true
  | .documentStart => true
  | _ => false

namespace Document

/-- A document from its outermost node, after which only its end may
stand. -/
def ofNode? (root : Node) (rest : Feed) : Option Document :=
  if rest.tokens.all (· = .documentEnd) then some (.ofRoot root) else none

/-- A document from the tokens of its outermost node and of its end. -/
def ofContent? (f : Feed) : Option Document := do
  let (root, rest) ← readNode (3 * f.tokens.length + 3) .block f
  ofNode? root rest

/-- A document that starts with directives or a start of its own. -/
def ofMarked? (tokens : List Token) : Option Document := do
  let (handles, rest) ← readDirectives false .empty tokens
  match rest with
  | .documentStart :: rest =>
    let f : Feed := { tokens := rest, handles := knownHandles handles }
    if rest.head?.all fun token => token = .documentEnd || marksStart token then
      ofNode? .empty f
    else ofContent? f
  | _ => none

/-- A document from its tokens. -/
def ofTokens? (tokens : List Token) : Option Document :=
  if tokens = [] then some {}
  else if tokens.head?.any marksStart then ofMarked? tokens
  else ofContent? { tokens, handles := knownHandles .empty }

/-- The document that a text denotes. -/
def read? (text : String) : Option Document := do
  ofTokens? (← Token.ofText? text)

end Document

end GuardedCache.Yaml
