import GuardedCache.Circuit.Breaker
import GuardedCache.Table

/-!
# Fleets of breakers

A `Registry` hands out one breaker per name.  A `Fleet` is a registry with the
clock that its breakers share, all the breakers that were ever built, and a
journal of what their observers did.  A breaker is known by its `Handle`, so a
breaker that the registry has forgotten lives on for those who hold it.
-/

namespace GuardedCache.Circuit

/-- The number of a breaker in a fleet, in the order of building. -/
abbrev Handle := Nat

/-- What a lookup asks for in case it has to build the breaker. -/
structure Options where
  /-- The configuration, in place of the registry's default. -/
  config : Option Config := none
  /-- An observer that is told after the registry's own. -/
  observer : Option Observer := none
deriving DecidableEq, Repr, Inhabited

/-- One breaker per name. -/
structure Registry where
  /-- The configuration of breakers that are built without one. -/
  defaults : Config := {}
  /-- The observers of every breaker that the registry builds. -/
  observers : List Observer := []
  names : Table String Handle := .empty

namespace Registry

/-- The configuration of a breaker that is built with some options. -/
def configFor (r : Registry) (options : Options) : Config :=
  options.config.getD r.defaults

/-- The observers of a breaker that is built with some options. -/
def observersFor (r : Registry) (options : Options) : List Observer :=
  r.observers ++ options.observer.toList

/-- The registered breakers in the order of their names. -/
def sorted (r : Registry) : List (String × Handle) :=
  r.names.entries.mergeSort fun a b => decide (a.1 ≤ b.1)

/-- The registry for a diagnostic listing, with a name for its clock. -/
def describe (r : Registry) (clockName : String) : String :=
  "CircuitBreakerRegistry \x7b breakers: " ++ toString r.names.size ++
    ", defaults: " ++ r.defaults.describe ++
    ", observers: " ++ toString r.observers.length ++
    ", clock: " ++ clockName ++ " \x7d"

end Registry

/-- A registry with its clock, every breaker that was built and what their
observers did. -/
structure Fleet where
  /-- The clock of every breaker. -/
  clock : Clock := {}
  registry : Registry := {}
  /-- Every breaker that was built, by handle. -/
  breakers : List Breaker := []
  /-- What the observers did, in order. -/
  journal : List Event := []

namespace Fleet

/-- The breaker with a handle.  A handle that was never given out stands for a
blank breaker. -/
def breaker (f : Fleet) (handle : Handle) : Breaker :=
  f.breakers.getD handle default

/-- Do something to the breaker with a handle. -/
def apply {α : Type} (f : Fleet) (handle : Handle) (operation : Breaker → Effect α) :
    α × Fleet :=
  let effect := operation (f.breaker handle)
  (effect.answer, { f with
    breakers := f.breakers.set handle effect.breaker
    journal := f.journal ++ effect.events })

/-- Move the clock on. -/
def advance (f : Fleet) (span : Duration) : Except ClockFault Unit × Fleet :=
  match f.clock.advance span with
  | .ok clock => (.ok (), { f with clock })
  | .error fault => (.error fault, f)

/-- Set the clock back. -/
def rewind (f : Fleet) (span : Duration) : Fleet :=
  { f with clock := f.clock.rewind span }

/-- Build a breaker that the registry does not know. -/
def build (f : Fleet) (name : String) (config : Config) (observers : List Observer) :
    Except ClockFault Handle × Fleet :=
  match f.clock.read with
  | .error fault => (.error fault, f)
  | .ok now =>
    (.ok f.breakers.length,
      { f with breakers := f.breakers ++ [Breaker.build name config observers now] })

/-- Register a breaker under a name. -/
def register (f : Fleet) (name : String) (handle : Handle) : Fleet :=
  { f with registry := { f.registry with names := f.registry.names.insert name handle } }

/-- The breaker that is registered under a name. -/
def find? (f : Fleet) (name : String) : Option Handle :=
  f.registry.names.get? name

/-- The breaker that is registered under a name.  It is built if there is
none; otherwise the options do not matter. -/
def lookup (f : Fleet) (name : String) (options : Options) : Except ClockFault Handle × Fleet :=
  match f.find? name with
  | some handle => (.ok handle, f)
  | none =>
    match f.build name (f.registry.configFor options) (f.registry.observersFor options) with
    | (.ok handle, f) => (.ok handle, f.register name handle)
    | (.error fault, f) => (.error fault, f)

/-- Forget the breaker that is registered under a name.  Its holders keep
it. -/
def remove (f : Fleet) (name : String) : Option Handle × Fleet :=
  (f.find? name,
    { f with registry := { f.registry with names := f.registry.names.erase name } })

/-- Whether a call of a breaker may proceed, without reserving a probe. -/
def allow (f : Fleet) (handle : Handle) : Except ClockFault Bool × Fleet :=
  f.apply handle (·.allow f.clock.read)

/-- A permit for a call of a breaker. -/
def acquire (f : Fleet) (handle : Handle) : Except ClockFault (Option Permit) × Fleet :=
  f.apply handle (·.acquire f.clock.read)

/-- Report the outcome of a call without a permit. -/
def record (f : Fleet) (handle : Handle) (outcome : Outcome) : Except ClockFault Unit × Fleet :=
  f.apply handle (·.record outcome f.clock.read)

/-- Report the outcome of a call with a permit. -/
def settle (f : Fleet) (handle : Handle) (permit : Permit) (outcome : Outcome) :
    Except ClockFault Unit × Fleet :=
  f.apply handle (·.settle permit outcome f.clock.read)

/-- Close a breaker. -/
def reset (f : Fleet) (handle : Handle) : Except ClockFault Unit × Fleet :=
  f.apply handle (·.reset f.clock.read)

/-- Add an observer to a breaker; the answer is how many it has then. -/
def addObserver (f : Fleet) (handle : Handle) (observer : Observer) : Nat × Fleet :=
  f.apply handle fun b =>
    let b := b.addObserver observer
    ⟨b.observers.length, b, []⟩

/-- Close the breaker that is registered under a name; the answer is whether
there is one. -/
def resetNamed (f : Fleet) (name : String) : Except ClockFault Bool × Fleet :=
  match f.find? name with
  | none => (.ok false, f)
  | some handle =>
    let (answer, f) := f.reset handle
    (answer.map fun _ => true, f)

/-- The registered breakers as they are now, in the order of their names. -/
def snapshots (f : Fleet) : List Breaker :=
  f.registry.sorted.map fun (_, handle) => f.breaker handle

end Fleet

end GuardedCache.Circuit
