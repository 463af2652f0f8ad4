import GuardedCache.Protected.Cache

/-!
# Sites

A site is a store of any kind behind the five breakers.  A visit is one call
of the store: it takes some time, has the deadline of its operation, and may be
cancelled.  Visits that are started together overlap.  A direct visit goes
around the breakers and the deadline.
-/

namespace GuardedCache.Protected

open Circuit Store

/-- A store behind the five breakers. -/
structure Site (σ : Type) where
  fleet : Fleet
  /-- The bindings of the operations. -/
  table : BindingTable
  store : σ
  /-- How many calls the store has received. -/
  calls : Nat := 0

/-- One call of a store. -/
structure Visit (σ : Type) where
  operation : Operation
  /-- What the store does if it is not stopped before. -/
  ask : σ → WorkEnd CacheError Response × σ
  /-- How long it takes until then. -/
  delay : Duration := .zero
  /-- When the call is cancelled, from its start. -/
  cancelAfter : Option Duration := none
  /-- Whether the call goes around the breakers. -/
  direct : Bool := false

/-- What the caller gets. -/
inductive VisitAnswer where
  /-- The answer of the protected cache. -/
  | guarded (answer : Answer)
  | direct (work : WorkEnd CacheError Response)
deriving DecidableEq, Repr

namespace Visit

variable {σ : Type}

/-- A visit that the store has received. -/
structure Open (σ : Type) where
  visit : Visit σ
  /-- Its permit, unless it goes around the breakers. -/
  grant : Option Grant
  /-- How the wait for the store ends. -/
  ending : Schedule.Ending

/-- What the store does in the end: it answers only if it is not stopped. -/
def settleStore (visit : Open σ) (site : Site σ) : WorkEnd CacheError Response × Site σ :=
  let deadline := (site.table visit.visit.operation).timeout
  match visit.ending with
  | .finished =>
    let (work, store) := visit.visit.ask site.store
    (work, { site with store })
  | ending => (workEnd deadline ending .cancelled, site)

/-- Finish a visit. -/
def finish (visit : Open σ) (site : Site σ) : VisitAnswer × Site σ :=
  let (work, site) := settleStore visit site
  match visit.grant with
  | none => (.direct work, site)
  | some grant =>
    let (answer, fleet) := Protected.finish visit.visit.operation grant work site.fleet
    (.guarded answer, { site with fleet })

/-- Let the store receive a visit.  One that takes no time is finished at
once. -/
def send (visit : Visit σ) (grant : Option Grant) (deadline : Option Duration) (site : Site σ) :
    Schedule.Stage (Open σ) VisitAnswer × Site σ :=
  let site := { site with calls := site.calls + 1 }
  let due := Schedule.due visit.delay deadline visit.cancelAfter
  let sent : Open σ := ⟨visit, grant, due.ending⟩
  if due.after = .zero then
    let (answer, site) := finish sent site
    (.ended answer, site)
  else (.waiting due.after sent, site)

/-- Start a visit. -/
def start (visit : Visit σ) (site : Site σ) : Schedule.Stage (Open σ) VisitAnswer × Site σ :=
  if visit.direct then visit.send none none site
  else
    match Protected.start site.table visit.operation site.fleet with
    | (.granted grant, fleet) =>
      visit.send (some grant) (some (site.table visit.operation).timeout) { site with fleet }
    | (.refused breaker, fleet) =>
      (.ended (.guarded (.refused visit.operation breaker)), { site with fleet })
    | (.faulted fault, fleet) =>
      (.ended (.guarded (.aborted fault.message)), { site with fleet })

end Visit

namespace Site

variable {σ : Type}

/-- Run visits that are started together. -/
def run (site : Site σ) (visits : List (Visit σ)) : List VisitAnswer × Site σ :=
  Schedule.run Visit.start Visit.finish visits site

/-- Run one visit. -/
def call (site : Site σ) (visit : Visit σ) : VisitAnswer × Site σ :=
  match visit.start site with
  | (.ended answer, site) => (answer, site)
  | (.waiting _ rest, site) => Visit.finish rest site

/-- Build the breakers of all operations. -/
def register (site : Site σ) : Except ClockFault Unit × Site σ :=
  let (answer, fleet) := registerBreakers site.table Operation.all site.fleet
  (answer, { site with fleet })

end Site

end GuardedCache.Protected
