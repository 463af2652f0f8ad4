import GuardedCache.Proofs.Text.Decimal
import GuardedCache.Yaml.Reading
import Mathlib.Data.List.Forall2
import Mathlib.Data.List.Nodup

/-!
# Values and the nodes that stand for them

A text, a number and an optional value are written as scalars, and a record is written as a
mapping.  What a node is depends on the document, since any node may be an alias.

`Holds` says of one field where it stands among the entries of a record: at any one place, or
nowhere if it may be left out.  It does not look at entries with other names, so it does not matter
in which order the fields stand, and which other entries there are.
-/

namespace GuardedCache

namespace Yaml

open Text

theorem mapM_eq_some_of_forall₂ {α β : Type} {f : α → Option β} {as : List α} {bs : List β}
    (each : List.Forall₂ (fun a b => f a = some b) as bs) : as.mapM f = some bs := by
  induction each with
  | nil => rfl
  | cons head tail ih => simp [List.mapM_cons, head, ih]

/-! ## Numerals -/

theorem digitIn?_ten {c : Char} (decimal : Decimal.isDigit c = true) :
    digitIn? 10 c = some (c.toNat - 48) := by
  obtain ⟨low, high⟩ := Decimal.isDigit_eq_true_iff.mp decimal
  rw [digitIn?, if_pos ⟨low, high, by omega⟩]

theorem naturalIn?_ten {digits : List Char} (ne : digits ≠ [])
    (decimal : ∀ c ∈ digits, Decimal.isDigit c = true) :
    naturalIn? 10 digits = some (Decimal.value digits) := by
  have values : digits.mapM (digitIn? 10) = some (digits.map fun c => c.toNat - 48) := by
    refine mapM_eq_some_of_forall₂ ?_
    rw [List.forall₂_map_right_iff, List.forall₂_same]
    exact fun c member => digitIn?_ten (decimal c member)
  rw [naturalIn?, if_neg ne, values, Option.map_some, List.foldl_map]
  rfl

theorem unsigned?_natural (n : Nat) : unsigned? (Decimal.natural n) = some n := by
  have decimal : ∀ c ∈ Decimal.natural n, Decimal.isDigit c = true :=
    fun c => Decimal.isDigit_of_mem_natural
  by_cases zero : n = 0
  · rw [zero, Decimal.natural, if_pos (by decide)]
    rfl
  · have plain := naturalIn?_ten (Decimal.natural_ne_nil n) decimal
    rw [Decimal.value_natural] at plain
    unfold unsigned?
    split
    all_goals first
      | exact absurd (Decimal.natural_eq_zero_cons ‹_›) zero
      | exact plain

theorem numeral?_toString (n : Nat) : numeral? (toString n) = some n := by
  rw [numeral?, Decimal.toList_toString]
  split
  next rest signed =>
    have sign : Decimal.isDigit '+' = true := Decimal.isDigit_of_mem_natural
      (show '+' ∈ Decimal.natural n from signed ▸ List.mem_cons_self)
    exact absurd sign (by decide)
  next => exact unsigned?_natural n

/-! ## Nodes -/

namespace Document

/-- A node is a scalar without a tag. -/
def IsScalar (d : Document) (text : String) (style : ScalarStyle) (node : Node) : Prop :=
  ∃ anchor, d.resolve node = .scalar ⟨none, anchor⟩ text style

/-- A node is a text, in whatever way it is written. -/
def IsText (d : Document) (text : String) (node : Node) : Prop :=
  ∃ style, d.IsScalar text style node

/-- A node is a decimal numeral. -/
def IsNumber (d : Document) (number : Nat) (node : Node) : Prop :=
  d.IsScalar (toString number) .plain node

/-- A node says that there is no value, or nothing is written in its place. -/
def IsNothing (d : Document) (node : Node) : Prop :=
  ∃ text ∈ ["", "~", "null", "Null", "NULL"], d.IsScalar text .plain node

/-- A node is a value, or says that there is none. -/
def IsOptional {α : Type} (d : Document) (writes : α → Node → Prop) : Option α → Node → Prop
  | none => d.IsNothing
  | some value => writes value

/-- A node may be the key with a name. -/
def IsName (d : Document) (name : String) (node : Node) : Prop :=
  ∃ label style, d.resolve node = .scalar label name style

/-- A node is a mapping with these entries. -/
def IsMapping (d : Document) (entries : Fields) (node : Node) : Prop :=
  ∃ anchor members, d.resolve node = .mapping ⟨none, anchor⟩ members ∧
    List.Forall₂ (fun member entry => d.IsName entry.1 member.1 ∧ member.2 = entry.2)
      members entries

/-- A node is a record with these entries.  One that has none may be left empty. -/
def IsRecord (d : Document) (entries : Fields) (node : Node) : Prop :=
  d.IsMapping entries node ∨ entries = [] ∧ d.IsScalar "" .plain node

end Document

/-- Among the entries of a record, a field stands in one place, or in none if it may be left
out. -/
inductive Fields.Holds (entries : Fields) (name : String) (writes : Node → Prop)
    (mayOmit : Prop) : Prop where
  | given (value : Node) (member : (name, value) ∈ entries)
      (once : (entries.map Prod.fst).count name = 1) (written : writes value)
  | omitted (absent : name ∉ entries.map Prod.fst) (allowed : mayOmit)

namespace Document

variable {d : Document} {node : Node} {entries : Fields}

theorem IsText.text?_eq {text : String} (written : d.IsText text node) :
    d.text? node = some text := by
  obtain ⟨style, anchor, same⟩ := written
  rw [text?, same, Node.text?]

theorem IsNumber.below?_eq {number bound : Nat} (written : d.IsNumber number node)
    (fits : number < bound) : d.below? bound node = some number := by
  obtain ⟨anchor, same⟩ := written
  rw [below?, same, Node.natural?, numeral?_toString, Option.filter_some]
  exact if_pos (decide_eq_true fits)

theorem IsNumber.word16?_eq {number : UInt16} (written : d.IsNumber number.toNat node) :
    d.word16? node = some number := by
  rw [word16?, written.below?_eq number.toNat_lt, Option.map_some, UInt16.ofNat_toNat]

theorem IsNumber.word32?_eq {number : UInt32} (written : d.IsNumber number.toNat node) :
    d.word32? node = some number := by
  rw [word32?, written.below?_eq number.toNat_lt, Option.map_some, UInt32.ofNat_toNat]

theorem IsNumber.word64?_eq {number : UInt64} (written : d.IsNumber number.toNat node) :
    d.word64? node = some number := by
  rw [word64?, written.below?_eq number.toNat_lt, Option.map_some, UInt64.ofNat_toNat]

/-! ### Optional values -/

theorem IsNothing.isAbsent? (nothing : d.IsNothing node) :
    (d.resolve node).isAbsent? = some true := by
  obtain ⟨text, member, anchor, same⟩ := nothing
  rw [same]
  simp only [List.mem_cons, List.not_mem_nil, or_false] at member
  rcases member with rfl | rfl | rfl | rfl | rfl <;> rfl

theorem IsNumber.isAbsent? {number : Nat} (written : d.IsNumber number node) :
    (d.resolve node).isAbsent? = some false := by
  obtain ⟨anchor, same⟩ := written
  rw [same]
  refine congrArg some (Bool.eq_false_iff.mpr fun absent => ?_)
  have text : toString number ∈ ["", "~", "null", "Null", "NULL"] := by
    simpa [isNull, or_assoc] using absent
  -- none of these texts is a numeral
  have noNumeral : ∀ text ∈ ["", "~", "null", "Null", "NULL"], numeral? text = none := by decide
  cases (numeral?_toString number).symm.trans (noNumeral _ text)

theorem IsMapping.isAbsent? (mapping : d.IsMapping entries node) :
    (d.resolve node).isAbsent? = some false := by
  obtain ⟨anchor, members, same, _⟩ := mapping
  rw [same]
  rfl

/-- An optional value is read if every value is, and none of them looks like nothing. -/
theorem IsOptional.optional?_eq {α : Type} {writes : α → Node → Prop} {decode : Node → Option α}
    {value : Option α} (written : d.IsOptional writes value node)
    (present : ∀ value, writes value node → (d.resolve node).isAbsent? = some false)
    (reads : ∀ value, writes value node → decode node = some value) :
    d.optional? decode node = some value := by
  cases value with
  | none => rw [optional?, IsNothing.isAbsent? written, Option.bind_eq_bind, Option.bind_some]; rfl
  | some value =>
    rw [optional?, present value written, reads value written]
    rfl

/-! ### Records -/

theorem IsMapping.entries?_eq (mapping : d.IsMapping entries node) :
    d.entries? node = some entries := by
  obtain ⟨anchor, members, same, named⟩ := mapping
  rw [entries?, same]
  refine mapM_eq_some_of_forall₂ (named.imp fun member entry keyed => ?_)
  obtain ⟨⟨label, style, key⟩, value⟩ := keyed
  simp only [text?, key, Node.text?, value]
  rfl

theorem IsRecord.entries?_eq (record : d.IsRecord entries node) :
    d.entries? node = some entries := by
  rcases record with mapping | ⟨rfl, anchor, same⟩
  · exact mapping.entries?_eq
  · rw [entries?, same]
    rfl

end Document

namespace Fields

/-- No field is given twice. -/
def GivesOnce (entries : Fields) (names : List String) : Prop :=
  ∀ name ∈ names, (entries.map Prod.fst).count name ≤ 1

/-- The entries whose names are among those of the fields. -/
def known (entries : Fields) (names : List String) : Fields :=
  entries.filter fun entry => names.contains entry.1

variable {entries : Fields} {name : String} {writes : Node → Prop} {mayOmit : Prop}

theorem givesOnce_nil (entries : Fields) : entries.GivesOnce [] :=
  fun _ member => absurd member List.not_mem_nil

theorem Holds.givesOnce (holds : entries.Holds name writes mayOmit) {names : List String}
    (others : entries.GivesOnce names) : entries.GivesOnce (name :: names) := by
  refine List.forall_mem_cons.mpr ⟨?_, others⟩
  cases holds with
  | given value member once written => exact Nat.le_of_eq once
  | omitted absent allowed =>
    rw [List.count_eq_zero.mpr absent]
    exact Nat.zero_le 1

theorem map_known (entries : Fields) (names : List String) :
    (entries.known names).map Prod.fst = (entries.map Prod.fst).filter names.contains := by
  rw [List.filter_map]
  rfl

theorem GivesOnce.nodup_known {names : List String} (once : entries.GivesOnce names) :
    ((entries.known names).map Prod.fst).Nodup := by
  rw [map_known, List.nodup_iff_count_le_one]
  intro name
  by_cases known : names.contains name = true
  · rw [List.count_filter known]
    exact once name (List.contains_iff_mem.mp known)
  · rw [List.count_eq_zero.mpr fun member => known (List.mem_filter.mp member).2]
    exact Nat.zero_le 1

theorem lookup_eq_none {entries : Fields} (absent : name ∉ entries.map Prod.fst) :
    entries.lookup name = none := by
  rw [List.lookup_eq_none_iff]
  intro entry member
  exact bne_iff_ne.mpr fun same => absent (List.mem_map.mpr ⟨entry, member, same.symm⟩)

theorem lookup_eq_some {entries : Fields} {value : Node} (member : (name, value) ∈ entries)
    (once : (entries.map Prod.fst).count name = 1) : entries.lookup name = some value := by
  obtain ⟨before, after, rfl⟩ := List.append_of_mem member
  rw [List.map_append, List.map_cons, List.count_append, List.count_cons_self] at once
  have notBefore : name ∉ before.map Prod.fst := List.count_eq_zero.mp (by omega)
  rw [List.lookup_append, lookup_eq_none notBefore, List.lookup_cons_self, Option.none_or]

/-- The known entries have a value for a field exactly if it is given. -/
theorem Holds.lookup_known (holds : entries.Holds name writes mayOmit) {names : List String}
    (isField : name ∈ names) :
    (∃ value, (entries.known names).lookup name = some value ∧ writes value) ∨
      (entries.known names).lookup name = none ∧ mayOmit := by
  have isKnown : names.contains name = true := List.contains_iff_mem.mpr isField
  cases holds with
  | given value member once written =>
    refine .inl ⟨value, lookup_eq_some (List.mem_filter.mpr ⟨member, isKnown⟩) ?_, written⟩
    rw [map_known, List.count_filter isKnown, once]
  | omitted absent allowed =>
    refine .inr ⟨lookup_eq_none fun member => absent ?_, allowed⟩
    rw [map_known] at member
    exact (List.mem_filter.mp member).1

theorem Holds.exists_get (holds : entries.Holds name writes mayOmit) {names : List String}
    (isField : name ∈ names) {α : Type} {decode : Node → Option α} {default : α}
    {Means : α → Prop}
    (reads : ∀ node, writes node → ∃ value, decode node = some value ∧ Means value)
    (omits : mayOmit → Means default) :
    ∃ value, (entries.known names).get name decode default = some value ∧ Means value := by
  rcases holds.lookup_known isField with ⟨node, found, written⟩ | ⟨missing, allowed⟩
  · rw [get, found]
    exact reads node written
  · rw [get, missing]
    exact ⟨default, rfl, omits allowed⟩

theorem Holds.get_eq (holds : entries.Holds name writes mayOmit) {names : List String}
    (isField : name ∈ names) {α : Type} {decode : Node → Option α} {value default : α}
    (reads : ∀ node, writes node → decode node = some value) (omits : mayOmit → value = default) :
    (entries.known names).get name decode default = some value := by
  obtain ⟨_, got, rfl⟩ : ∃ v, (entries.known names).get name decode default = some v ∧ v = value :=
    holds.exists_get isField (fun node written => ⟨value, reads node written, rfl⟩)
      fun allowed => (omits allowed).symm
  exact got

theorem Holds.require_eq (holds : entries.Holds name writes False) {names : List String}
    (isField : name ∈ names) {α : Type} {decode : Node → Option α} {value : α}
    (reads : ∀ node, writes node → decode node = some value) :
    (entries.known names).require name decode = some value := by
  rcases holds.lookup_known isField with ⟨node, found, written⟩ | ⟨missing, never⟩
  · rw [require, found]
    exact reads node written
  · exact never.elim

end Fields

theorem Document.IsRecord.fields?_eq {d : Document} {node : Node} {entries : Fields}
    (record : d.IsRecord entries node) {names : List String} (once : entries.GivesOnce names) :
    d.fields? names node = some (entries.known names) := by
  rw [fields?, record.entries?_eq]
  exact if_pos once.nodup_known

end Yaml

end GuardedCache
