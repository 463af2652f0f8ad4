import GuardedCache.Yaml.Node

/-!
# What nodes denote

Texts, natural numbers, optional values and records.  A record is a mapping
whose keys name fields: other keys do not matter, but no field may be given
twice.  Where nothing is written, there is a record without fields.
-/

namespace GuardedCache.Yaml

/-- Whether a plain text denotes nothing. -/
def isNull (text : String) : Bool :=
  text = "~" || text = "null" || text = "Null" || text = "NULL"

/-- The tag of nodes that denote nothing. -/
def nullTag : TagBytes := "tag:yaml.org,2002:null".toUTF8.toList

/-- The tag of nodes that denote integers. -/
def integerTag : TagBytes := "tag:yaml.org,2002:int".toUTF8.toList

/-- The value of a digit in a base of up to sixteen. -/
def digitIn? (base : Nat) (c : Char) : Option Nat :=
  if 48 ≤ c.toNat ∧ c.toNat ≤ 57 ∧ c.toNat - 48 < base then some (c.toNat - 48)
  else if 97 ≤ c.toNat ∧ c.toNat ≤ 102 ∧ c.toNat - 87 < base then some (c.toNat - 87)
  else if 65 ≤ c.toNat ∧ c.toNat ≤ 70 ∧ c.toNat - 55 < base then some (c.toNat - 55)
  else none

/-- The number that one or more digits denote. -/
def naturalIn? (base : Nat) (digits : List Char) : Option Nat :=
  if digits = [] then none
  else (digits.mapM (digitIn? base)).map fun values =>
    values.foldl (fun total value => total * base + value) 0

/-- The number that a numeral without a sign denotes.  A decimal numeral has no
leading zeros. -/
def unsigned? : List Char → Option Nat
  | '0' :: 'x' :: digits => naturalIn? 16 digits
  | '0' :: 'o' :: digits => naturalIn? 8 digits
  | '0' :: 'b' :: digits => naturalIn? 2 digits
  | ['0'] => some 0
  | '0' :: _ => none
  | digits => naturalIn? 10 digits

/-- The natural number that a numeral denotes. -/
def numeral? (text : String) : Option Nat :=
  match text.toList with
  | '+' :: rest => unsigned? rest
  | chars => unsigned? chars

namespace Node

/-- The text of a scalar. -/
def text? : Node → Option String
  | .scalar _ text _ => some text
  | _ => none

/-- The number that a scalar denotes: one that is plain, or a literal one with
the tag of integers. -/
def natural? : Node → Option Nat
  | .scalar _ text .plain => numeral? text
  | .scalar label text .literal => if label.tag = some integerTag then numeral? text else none
  | _ => none

/-- Whether nothing is written where a node stands. -/
def isEmpty : Node → Bool
  | .scalar _ text style => style = .plain && text = ""
  | _ => false

/-- The members of a mapping; where nothing is written, there are none. -/
def members? : Node → Option (List (Node × Node))
  | .mapping _ members => some members
  | node => if node.isEmpty then some [] else none

/-- Whether a node denotes no value, if that can be told.  A scalar with the
tag of nothing must denote nothing. -/
def isAbsent? : Node → Option Bool
  | .scalar label text .plain =>
    match label.tag with
    | none => some (text = "" || isNull text)
    | some tag =>
      if tag ≠ nullTag then some false
      else if isNull text then some true
      else none
  | _ => some false

end Node

/-- The name that a private tag gives, which follows its exclamation mark.  A
tag that is not private names nothing. -/
def privateName? : TagBytes → Option String
  | 33 :: name => Text.Utf8.decode? name
  | _ => none

/-- The fields of a record that are given, by name. -/
abbrev Fields := List (String × Node)

/-- The value of a field, or a default if it is not given. -/
def Fields.get {α : Type} (fields : Fields) (name : String) (decode : Node → Option α)
    (default : α) : Option α :=
  match fields.lookup name with
  | none => some default
  | some node => decode node

/-- The value of a field that must be given. -/
def Fields.require {α : Type} (fields : Fields) (name : String) (decode : Node → Option α) :
    Option α := do
  decode (← fields.lookup name)

namespace Document

/-- The text that a node stands for. -/
def text? (d : Document) (node : Node) : Option String :=
  (d.resolve node).text?

/-- The number below a bound that a node stands for. -/
def below? (d : Document) (bound : Nat) (node : Node) : Option Nat :=
  (d.resolve node).natural?.filter (· < bound)

/-- The word of 16 bits that a node stands for. -/
def word16? (d : Document) (node : Node) : Option UInt16 :=
  (d.below? (UInt16.size) node).map UInt16.ofNat

/-- The word of 32 bits that a node stands for. -/
def word32? (d : Document) (node : Node) : Option UInt32 :=
  (d.below? (UInt32.size) node).map UInt32.ofNat

/-- The word of 64 bits that a node stands for. -/
def word64? (d : Document) (node : Node) : Option UInt64 :=
  (d.below? (UInt64.size) node).map UInt64.ofNat

/-- The value that a node stands for, if it does not stand for none. -/
def optional? {α : Type} (d : Document) (decode : Node → Option α) (node : Node) :
    Option (Option α) := do
  if ← (d.resolve node).isAbsent? then return none
  return some (← decode node)

/-- The members of a mapping with the texts of their keys. -/
def entries? (d : Document) (node : Node) : Option (List (String × Node)) := do
  (← (d.resolve node).members?).mapM fun (key, value) => do
    return (← d.text? key, value)

/-- The given fields of a record with these fields. -/
def fields? (d : Document) (names : List String) (node : Node) : Option Fields := do
  let given := (← d.entries? node).filter fun (name, _) => names.contains name
  if (given.map Prod.fst).Nodup then some given else none

end Document

end GuardedCache.Yaml
