import GuardedCache.Json.Value

/-!
# The states of a circuit

A circuit is closed while calls flow, opened while they fail fast, and
half-open while a few probe calls decide which of the two comes next.  Each
state has a wire name and a number for gauges.
-/

namespace GuardedCache.Circuit

/-- The state of a circuit. -/
inductive State where
  | closed
  | opened
  /-- A limited number of probe calls may pass. -/
  | halfOpen
deriving DecidableEq, Repr, Inhabited

namespace State

def all : List State := [.closed, .opened, .halfOpen]

/-- The wire name. -/
def name : State → String
  | .closed => "CLOSED"
  | .opened => "OPEN"
  | .halfOpen => "HALF-OPEN"

/-- The number that a gauge shows. -/
def gauge : State → Nat
  | .closed => 0
  | .opened => 1
  | .halfOpen => 2

/-- The wire name in brackets.  A field width has no effect on it. -/
def bracketed (s : State) : String := "[" ++ s.name ++ "]"

def ofName? (name : String) : Option State :=
  all.find? fun s => s.name = name

def toJson (s : State) : Json.Value := .str s.name

/-- A state from a JSON value: its wire name, or an object whose only member
has that name and the value `null`. -/
def ofJson? : Json.Value → Option State
  | .string (some name) => ofName? name
  | .object [(some name, .null)] => ofName? name
  | _ => none

theorem ofName?_name (s : State) : ofName? s.name = some s := by
  cases s <;> decide

theorem ofJson?_toJson (s : State) : ofJson? s.toJson = some s :=
  ofName?_name s

theorem gauge_injective {s t : State} (h : s.gauge = t.gauge) : s = t := by
  revert h
  cases s <;> cases t <;> decide

end State

end GuardedCache.Circuit
