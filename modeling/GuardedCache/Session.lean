import GuardedCache.Protected.Site
import GuardedCache.Store.Memory

/-!
# Sessions

A session is an interactive use of a fleet.  Breakers and permits are known by
numbers: a breaker by the order in which breakers were first shown, a permit by
the attempt to get it.  A permit can be taken from the session only once.
-/

namespace GuardedCache

open Circuit Protected Store

/-- A protected cache of a session. -/
structure SessionCache where
  /-- The bindings of its operations. -/
  table : BindingTable
  store : Memory
  /-- How many calls the store has received. -/
  calls : Nat := 0

/-- The state of a session. -/
structure Session where
  fleet : Fleet
  /-- The breakers that were shown, in order. -/
  shown : List Handle := []
  /-- The attempts to get a permit, with the permits that are still open. -/
  permits : List (Option Grant) := []
  /-- The protected cache, if the session has one. -/
  cache : Option SessionCache := none

namespace Session

/-- The session after something was done to its fleet. -/
def change {α : Type} (s : Session) (step : Fleet → α × Fleet) : α × Session :=
  let (answer, fleet) := step s.fleet
  (answer, { s with fleet })

/-- The number under which a breaker is shown. -/
def number (s : Session) (handle : Handle) : Nat × Session :=
  match s.shown.idxOf? handle with
  | some number => (number, s)
  | none => (s.shown.length, { s with shown := s.shown ++ [handle] })

/-- The breaker that is shown under a number. -/
def handle? (s : Session) (number : Nat) : Option Handle :=
  s.shown[number]?

/-- Try to get a permit.  The attempt has a number even if it fails. -/
def acquire (s : Session) (handle : Handle) : Started × Nat × Session :=
  let (started, fleet) := s.fleet.startCall handle
  let grant := match started with
    | .granted grant => some grant
    | _ => none
  (started, s.permits.length, { s with fleet, permits := s.permits ++ [grant] })

/-- Report the outcome of a call with the permit of an attempt.  There is no
answer if the permit is not open. -/
def settle (s : Session) (attempt : Nat) (outcome : Outcome) :
    Option (Except ClockFault Unit) × Session :=
  match s.permits[attempt]?.join with
  | none => (none, s)
  | some grant =>
    let (answer, fleet) := s.fleet.settle grant.handle grant.permit outcome
    (some answer, { s with fleet, permits := s.permits.set attempt none })

/-- Do something to the protected cache, if there is one. -/
def changeCache {α : Type} (s : Session) (step : Site Memory → α × Site Memory) :
    Option (α × Session) := do
  let cache ← s.cache
  let site : Site Memory :=
    { fleet := s.fleet, table := cache.table, store := cache.store, calls := cache.calls }
  let (answer, site) := step site
  let cache : SessionCache := { table := site.table, store := site.store, calls := site.calls }
  return (answer, { s with fleet := site.fleet, cache := some cache })

/-- What the observers did since the last time, in order. -/
def drain (s : Session) : List Event × Session :=
  (s.fleet.journal, { s with fleet := { s.fleet with journal := [] } })

end Session

end GuardedCache
