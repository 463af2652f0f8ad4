import GuardedCache.Table
import GuardedCache.Text.Utf8
import GuardedCache.Yaml.Token

/-!
# Nodes

A document denotes a tree of nodes.  A node may have a tag and an anchor, and
an alias stands for the node with its anchor.  Anchors are numbered: a node
gets the number of different names before it, so a name that is used again may
take over the number of another one.  Of the nodes with a number, aliases stand
for the last one.
-/

namespace GuardedCache.Yaml

/-- What may stand before a node. -/
structure Label where
  tag : Option TagBytes := none
  /-- The number of its anchor. -/
  anchor : Option Nat := none
deriving DecidableEq, Repr

/-- A node. -/
inductive Node where
  /-- The node with an anchor. -/
  | alias (anchor : Nat)
  /-- A text, and how it is written. -/
  | scalar (label : Label) (text : String) (style : ScalarStyle)
  | sequence (label : Label) (items : List Node)
  /-- A mapping: its keys and values in order. -/
  | mapping (label : Label) (members : List (Node × Node))
deriving Repr

namespace Node

/-- The node that stands where nothing is written. -/
def empty : Node := .scalar {} "" .plain

instance : Inhabited Node := ⟨empty⟩

/-- A node with its number, if it has an anchor. -/
def numbered (label : Label) (node : Node) : List (Nat × Node) :=
  (label.anchor.map (·, node)).toList

mutual

/-- The nodes with anchors in the order in which they start. -/
def anchored : Node → List (Nat × Node)
  | .alias _ => []
  | .scalar label text style => numbered label (.scalar label text style)
  | .sequence label items => numbered label (.sequence label items) ++ anchoredItems items
  | .mapping label members => numbered label (.mapping label members) ++ anchoredMembers members

/-- The nodes with anchors in the items of a sequence. -/
def anchoredItems : List Node → List (Nat × Node)
  | [] => []
  | item :: items => item.anchored ++ anchoredItems items

/-- The nodes with anchors in the members of a mapping. -/
def anchoredMembers : List (Node × Node) → List (Nat × Node)
  | [] => []
  | (key, value) :: members => key.anchored ++ value.anchored ++ anchoredMembers members

end

end Node

/-- A document. -/
structure Document where
  root : Node := .empty
  /-- The nodes that aliases stand for. -/
  anchors : Table Nat Node := .empty

namespace Document

/-- The document with an outermost node. -/
def ofRoot (root : Node) : Document where
  root
  anchors := .ofList root.anchored

/-- The node that a node stands for. -/
def resolve (d : Document) : Node → Node
  | .alias anchor => (d.anchors.get? anchor).getD .empty
  | node => node

end Document

end GuardedCache.Yaml
