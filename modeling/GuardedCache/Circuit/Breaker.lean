import GuardedCache.Circuit.Config
import GuardedCache.Circuit.Observer
import GuardedCache.Time.Clock

/-!
# Circuit breakers

A breaker decides which calls may proceed from the outcomes of earlier ones.
`allow` is the soft way in: it does not reserve a probe.  `acquire` is the
strict one: it hands out a `Permit`, which reserves a probe while the circuit
is half-open and whose outcome counts only until the next transition.
`record` settles a call of the first kind, `settle` one of the second.

Each operation takes a `Glance` at the clock and is an `Effect`: an answer, the
breaker afterwards, and the events of its observers.  An operation that needs
the time and finds a clock that cannot be read answers with the fault; what it
had counted before that stays counted.
-/

namespace GuardedCache.Circuit

/-- How a call ended. -/
inductive Outcome where
  | success
  | failure
deriving DecidableEq, Repr

/-- The outcome that a truth value stands for. -/
def Outcome.ofBool : Bool → Outcome
  | true => .success
  | false => .failure

/-- What a breaker has seen since it was built. -/
structure Totals where
  admitted : Nat := 0
  rejected : Nat := 0
  succeeded : Nat := 0
  failed : Nat := 0
  opened : Nat := 0
  halfOpened : Nat := 0
  closed : Nat := 0
deriving DecidableEq, Repr, Inhabited

namespace Totals

def countAdmission (t : Totals) : Bool → Totals
  | true => { t with admitted := t.admitted + 1 }
  | false => { t with rejected := t.rejected + 1 }

def countOutcome (t : Totals) : Outcome → Totals
  | .success => { t with succeeded := t.succeeded + 1 }
  | .failure => { t with failed := t.failed + 1 }

def countEntry (t : Totals) : State → Totals
  | .closed => { t with closed := t.closed + 1 }
  | .opened => { t with opened := t.opened + 1 }
  | .halfOpen => { t with halfOpened := t.halfOpened + 1 }

end Totals

/-- The part of a breaker that decides about calls. -/
structure Phase where
  state : State := .closed
  failures : Nat := 0
  successes : Nat := 0
  /-- Probes that were reserved or recorded while half-open. -/
  halfOpenCalls : Nat := 0
  /-- When the state was entered, for the timer. -/
  since : Instant
  /-- When the state was entered, for reports. -/
  sinceWall : Timestamp
  /-- The number of transitions so far. -/
  epoch : Nat := 0
deriving DecidableEq, Repr

structure Breaker where
  name : String
  /-- Its configuration, fixed when it is built. -/
  config : Config
  /-- Who is told of its transitions, in this order. -/
  observers : List Observer
  phase : Phase
  totals : Totals := {}
deriving DecidableEq, Repr

/-- A call that may proceed and whose outcome is still open. -/
structure Permit where
  /-- The number of transitions before it was issued. -/
  epoch : Nat
  probe : Bool
deriving DecidableEq, Repr

/-- What the phase says about one more call. -/
inductive Verdict where
  | pass
  | refuse
  /-- It may proceed as the first probe: the circuit becomes half-open. -/
  | probe
deriving DecidableEq, Repr

/-- What an operation did to a breaker. -/
structure Effect (α : Type) where
  answer : α
  breaker : Breaker
  /-- What its observers did, in order. -/
  events : List Event := []

namespace Breaker

/-- A closed breaker.  Zeros in the configuration are replaced. -/
def build (name : String) (config : Config) (observers : List Observer) (now : Reading) :
    Breaker where
  name
  config := config.sanitize
  observers
  phase := { since := now.instant, sinceWall := now.wall }

/-- A breaker without a name that nobody watches. -/
def blank : Breaker where
  name := ""
  config := {}
  observers := []
  phase := { since := ⟨0⟩, sinceWall := Clock.origin }

instance : Inhabited Breaker := ⟨blank⟩

def state (b : Breaker) : State := b.phase.state

/-- The breaker with one more observer, told after the others. -/
def addObserver (b : Breaker) (observer : Observer) : Breaker :=
  { b with observers := b.observers ++ [observer] }

/-- What the phase says about one more call. -/
def verdict (b : Breaker) (now : Instant) : Verdict :=
  match b.phase.state with
  | .closed => .pass
  | .opened =>
    if b.config.resetTimeout < b.phase.since.elapsed now then .probe else .refuse
  | .halfOpen =>
    if b.phase.halfOpenCalls < b.config.halfOpenMaxCalls.toNat then .pass else .refuse

/-- The breaker after a transition to a state. -/
def enter (b : Breaker) (target : State) (now : Reading) : Breaker :=
  { b with
    phase := {
      state := target
      since := now.instant
      sinceWall := now.wall
      epoch := b.phase.epoch + 1 }
    totals := b.totals.countEntry target }

def notices (b : Breaker) (target : State) : List Event :=
  b.observers.flatMap (·.notify ⟨b.name, b.phase.state, target⟩)

def countAdmission (b : Breaker) (admitted : Bool) : Breaker :=
  { b with totals := b.totals.countAdmission admitted }

def countOutcome (b : Breaker) (outcome : Outcome) : Breaker :=
  { b with totals := b.totals.countOutcome outcome }

def takeProbe (b : Breaker) : Breaker :=
  { b with phase := { b.phase with halfOpenCalls := b.phase.halfOpenCalls + 1 } }

/-- Whether a call may proceed.  No probe is reserved, so two callers may both
pass before either records.  An opened circuit whose time is up becomes
half-open. -/
def allow (b : Breaker) (glance : Glance) : Effect (Except ClockFault Bool) :=
  match glance with
  | .error fault => ⟨.error fault, b, []⟩
  | .ok now =>
    match b.verdict now.instant with
    | .pass => ⟨.ok true, b.countAdmission true, []⟩
    | .refuse => ⟨.ok false, b.countAdmission false, []⟩
    | .probe =>
      ⟨.ok true, (b.enter .halfOpen now).countAdmission true, b.notices .halfOpen⟩

/-- A permit for one call, or none if the call is refused.  While the circuit
is half-open the permit takes a probe. -/
def acquire (b : Breaker) (glance : Glance) : Effect (Except ClockFault (Option Permit)) :=
  match glance with
  | .error fault => ⟨.error fault, b, []⟩
  | .ok now =>
    match b.verdict now.instant with
    | .refuse => ⟨.ok none, b.countAdmission false, []⟩
    | .pass =>
      if b.phase.state = .closed then
        ⟨.ok (some ⟨b.phase.epoch, false⟩), b.countAdmission true, []⟩
      else
        ⟨.ok (some ⟨b.phase.epoch, true⟩), b.takeProbe.countAdmission true, []⟩
    | .probe =>
      ⟨.ok (some ⟨b.phase.epoch + 1, true⟩),
        ((b.enter .halfOpen now).takeProbe).countAdmission true, b.notices .halfOpen⟩

def settleClosed (b : Breaker) (outcome : Outcome) (now : Reading) : Breaker × List Event :=
  match outcome with
  | .success => ({ b with phase := { b.phase with failures := 0 } }, [])
  | .failure =>
    let b := { b with phase := { b.phase with failures := b.phase.failures + 1 } }
    if b.config.failureThreshold.toNat ≤ b.phase.failures then
      (b.enter .opened now, b.notices .opened)
    else (b, [])

/-- The breaker after an outcome in the half-open state.  Any failure opens
the circuit again. -/
def settleHalfOpen (b : Breaker) (outcome : Outcome) (now : Reading) : Breaker × List Event :=
  match outcome with
  | .success =>
    let b := { b with phase := { b.phase with successes := b.phase.successes + 1 } }
    if b.config.halfOpenMaxCalls.toNat ≤ b.phase.successes then
      (b.enter .closed now, b.notices .closed)
    else (b, [])
  | .failure => (b.enter .opened now, b.notices .opened)

/-- The breaker after an outcome that its phase takes into account.  The
outcome of a call without a permit takes a probe of a half-open circuit. -/
def settlePhase (b : Breaker) (outcome : Outcome) (permitted : Bool) (now : Reading) :
    Breaker × List Event :=
  match b.phase.state with
  | .closed => b.settleClosed outcome now
  | .halfOpen => (if permitted then b else b.takeProbe).settleHalfOpen outcome now
  | .opened => (b, [])

/-- Whether a success changes nothing: the circuit is closed and has seen no
failure. -/
def isHealthy (b : Breaker) : Bool :=
  b.phase.state = .closed && b.phase.failures = 0

/-- Whether a permit was issued before the last transition. -/
def isStale (b : Breaker) : Option Permit → Bool
  | some permit => permit.epoch ≠ b.phase.epoch
  | none => false

/-- The breaker after the outcome of a call was reported, with its permit if
it had one.  The outcome of a stale permit is counted and then ignored. -/
def report (b : Breaker) (outcome : Outcome) (permit : Option Permit) (glance : Glance) :
    Effect (Except ClockFault Unit) :=
  let b := b.countOutcome outcome
  if outcome = .success ∧ b.isHealthy then ⟨.ok (), b, []⟩
  else
    match glance with
    | .error fault => ⟨.error fault, b, []⟩
    | .ok now =>
      if b.isStale permit then ⟨.ok (), b, []⟩
      else
        let (b, events) := b.settlePhase outcome permit.isSome now
        ⟨.ok (), b, events⟩

def record (b : Breaker) (outcome : Outcome) (glance : Glance) :
    Effect (Except ClockFault Unit) :=
  b.report outcome none glance

/-- The breaker after the outcome of a call with a permit was reported.  A
permit that is given up without an outcome counts as a failure. -/
def settle (b : Breaker) (permit : Permit) (outcome : Outcome) (glance : Glance) :
    Effect (Except ClockFault Unit) :=
  b.report outcome (some permit) glance

/-- The closed breaker with the same configuration and observers. -/
def reset (b : Breaker) (glance : Glance) : Effect (Except ClockFault Unit) :=
  match glance with
  | .error fault => ⟨.error fault, b, []⟩
  | .ok now =>
    if b.phase.state = .closed then
      let phase := { b.phase with failures := 0, successes := 0, halfOpenCalls := 0 }
      ⟨.ok (), { b with phase }, []⟩
    else ⟨.ok (), b.enter .closed now, b.notices .closed⟩

/-- What a caller is told when a breaker refuses a call. -/
def refusalText (name : String) : String :=
  "circuit breaker '" ++ name ++ "' is open"

end Breaker

end GuardedCache.Circuit
