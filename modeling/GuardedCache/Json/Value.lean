/-!
# JSON values

A JSON text denotes a `Value`.  Object members keep their order and may repeat
a name.  Numbers keep their digits.  A string whose escapes hold half of a
surrogate pair has no text; it is still a value, but nothing can be read from
it.
-/

namespace GuardedCache.Json

/-- The text of a JSON string, or none if a surrogate stands alone in it. -/
abbrev Text := Option String

/-- A JSON value. -/
inductive Value where
  /-- `null`. -/
  | null
  /-- `true` or `false`. -/
  | bool (value : Bool)
  /-- A number, as it is written. -/
  | number (digits : String)
  | string (text : Text)
  | array (items : List Value)
  /-- An object: its members in order. -/
  | object (members : List (Text × Value))
deriving Repr, Inhabited

namespace Value

/-- A string that has a text. -/
def str (text : String) : Value := .string (some text)

/-- A natural number. -/
def nat (value : Nat) : Value := .number (toString value)

/-- An object from named members. -/
def record (members : List (String × Value)) : Value :=
  .object (members.map fun (name, value) => (some name, value))

/-- The text of a value that is a string with a text. -/
def text? : Value → Option String
  | .string text => text
  | _ => none

/-- The truth value of a value that has one. -/
def bool? : Value → Option Bool
  | .bool value => some value
  | _ => none

/-- The number that a plain numeral without sign, point and exponent denotes. -/
def nat? : Value → Option Nat
  | .number digits => digits.toNat?
  | _ => none

/-- The values of all members of an object with a given name. -/
def membersNamed (members : List (Text × Value)) (name : String) : List Value :=
  members.filterMap fun (key, value) => if key = some name then some value else none

/-- Whether every name and every string inside a value has a text. -/
def isTextual : Value → Bool
  | .null => true
  | .bool _ => true
  | .number _ => true
  | .string text => text.isSome
  | .array items => items.attach.all fun ⟨item, _⟩ => item.isTextual
  | .object members =>
    members.attach.all fun ⟨(key, value), _⟩ => key.isSome && value.isTextual
decreasing_by
  all_goals simp_wf
  · have := List.sizeOf_lt_of_mem ‹_ ∈ items›; omega
  · have := List.sizeOf_lt_of_mem ‹_ ∈ members›
    simp only [Prod.mk.sizeOf_spec] at this
    omega

/-- Whether arrays and objects are nested at most `depth` deep in a value. -/
def isNestedWithin : Nat → Value → Bool
  | depth + 1, .array items => items.all (isNestedWithin depth)
  | depth + 1, .object members => members.all fun (_, value) => isNestedWithin depth value
  | 0, .array _ => false
  | 0, .object _ => false
  | _, _ => true

end Value

end GuardedCache.Json
