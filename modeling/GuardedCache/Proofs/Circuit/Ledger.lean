import GuardedCache.Circuit.Call
import GuardedCache.Proofs.Circuit.Effects

/-!
# Ledgers

A ledger is a breaker together with what its users hold: every permit that it
has issued, in order, with what became of it.  A run is a list of steps, each
of them an action and what the clock shows at that moment, so users may act in
any order and the clock may show anything.  A call of guarded work is two
actions, its start and its finish, between which others may act.

A stretch of time in which the circuit stays in one state is a window.  The
ledger numbers windows by watching the state of its breaker from outside; the
breaker's own count of its transitions plays no part in that.
-/

namespace GuardedCache.Circuit

/-- What became of a permit.  It is lost if the report of its outcome was
broken off by a clock that could not be read. -/
inductive Fate where
  | pending
  | settled (outcome : Outcome)
  | lost (outcome : Outcome)
deriving DecidableEq, Repr

/-- A permit that was issued, with the window of its issue.  It is working if
it was issued to a guarded call, whose work then runs. -/
structure Slip where
  permit : Permit
  window : Nat
  working : Bool
  fate : Fate := .pending
deriving DecidableEq, Repr

/-- What a user can do to a breaker.  A permit is known by its number in the
order of issue; it is settled with an outcome, discarded without one, or given
back by the call that holds it when its work has ended. -/
inductive Action (ε α : Type) where
  | allow
  | acquire
  | settle (number : Nat) (outcome : Outcome)
  | discard (number : Nat)
  | start
  | finish (number : Nat) (work : WorkEnd ε α)
  | record (outcome : Outcome)
  | reset
  | addObserver (observer : Observer)

/-- An action and what the clock shows when it is done. -/
structure Step (ε α : Type) where
  action : Action ε α
  glance : Glance

/-- A call of guarded work, with what the clock shows when it asks for its permit
and when it reports how the work ended. -/
structure GuardedCall (ε α : Type) where
  work : WorkEnd ε α
  entry : Glance
  exit : Glance

def Step.IsReadable {ε α : Type} (s : Step ε α) : Prop := ∃ now, s.glance = .ok now

/-- What a user is told: whether a call may proceed, a permit or none, whether
an outcome was reported (there is no answer if the permit is not held), or
that the action is done. -/
inductive Reply where
  | allowed (answer : Except ClockFault Bool)
  | acquired (answer : Except ClockFault (Option Permit))
  | reported (answer : Option (Except ClockFault Unit))
  | done (answer : Except ClockFault Unit)

/-- The permits after the fate of the one with a number became known. -/
def markSlip (slips : List Slip) (number : Nat) (fate : Fate) : List Slip :=
  slips.modify number fun slip => { slip with fate }

theorem getElem?_markSlip (slips : List Slip) (number index : Nat) (fate : Fate) :
    (markSlip slips number fate)[index]? =
      slips[index]?.map fun slip => if number = index then { slip with fate } else slip :=
  List.getElem?_modify ..

theorem mem_markSlip {slips : List Slip} {number : Nat} {fate : Fate} {slip : Slip}
    (member : slip ∈ markSlip slips number fate) :
    ∃ original ∈ slips, slip = original ∨ slip = { original with fate } := by
  obtain ⟨index, get⟩ := List.mem_iff_getElem?.mp member
  rw [getElem?_markSlip] at get
  obtain ⟨original, found, rfl⟩ := Option.map_eq_some_iff.mp get
  refine ⟨original, List.mem_of_getElem? found, ?_⟩
  by_cases same : number = index
  · exact .inr (if_pos same)
  · exact .inl (if_neg same)

/-- A breaker and what its users hold.  `past` lists the states of the windows
that are over, `journal` what the observers did. -/
structure Ledger where
  breaker : Breaker
  slips : List Slip := []
  past : List State := []
  journal : List Event := []

variable {ε α : Type}

/-- The permit that an action gives back, with the outcome that it reports. -/
def Action.resolution? : Action ε α → Option (Nat × Outcome)
  | .settle number outcome => some (number, outcome)
  | .discard number => some (number, .failure)
  | .finish number work => some (number, work.outcome)
  | _ => none

/-- An action that reports an outcome without a permit. -/
def Action.IsBare : Action ε α → Prop
  | .record _ => True
  | _ => False

namespace Ledger

def fresh (name : String) (config : Config) (observers : List Observer) (created : Reading) :
    Ledger where
  breaker := .build name config observers created

/-- The number of the current window. -/
def window (l : Ledger) : Nat := l.past.length

/-- The states of all windows so far, the current one last. -/
def states (l : Ledger) : List State := l.past ++ [l.breaker.state]

/-- The permits that were issued in a window. -/
def issuedIn (l : Ledger) (window : Nat) : List Slip :=
  l.slips.filter fun slip => slip.window = window

/-- The ledger after an operation of its breaker. -/
def follow {β : Type} (l : Ledger) (effect : Effect β) : Ledger where
  breaker := effect.breaker
  slips := l.slips
  past := if effect.breaker.state = l.breaker.state then l.past else l.past ++ [l.breaker.state]
  journal := l.journal ++ effect.events

def hand (l : Ledger) (permit : Permit) (working : Bool) : Ledger :=
  { l with slips := l.slips ++ [{ permit, window := l.window, working }] }

def mark (l : Ledger) (number : Nat) (fate : Fate) : Ledger :=
  { l with slips := markSlip l.slips number fate }

/-- The permit with a number, if it is still held. -/
def held? (l : Ledger) (number : Nat) : Option Slip :=
  l.slips[number]?.filter fun slip => slip.fate = .pending

def allow (l : Ledger) (glance : Glance) : Except ClockFault Bool × Ledger :=
  ((l.breaker.allow glance).answer, l.follow (l.breaker.allow glance))

def acquire (l : Ledger) (working : Bool) (glance : Glance) :
    Except ClockFault (Option Permit) × Ledger :=
  let effect := l.breaker.acquire glance
  (effect.answer, match effect.answer with
    | .ok (some permit) => (l.follow effect).hand permit working
    | _ => l.follow effect)

/-- The ledger after the outcome of a permit was reported.  The permit is used
up even if the report is broken off. -/
def resolve (l : Ledger) (number : Nat) (outcome : Outcome) (glance : Glance) :
    Option (Except ClockFault Unit) × Ledger :=
  match l.held? number with
  | none => (none, l)
  | some slip =>
    let effect := l.breaker.settle slip.permit outcome glance
    (some effect.answer, (l.follow effect).mark number (match effect.answer with
      | .ok _ => .settled outcome
      | .error _ => .lost outcome))

/-- The end of a call that holds the permit with a number. -/
def finishCall (l : Ledger) (number : Nat) (work : WorkEnd ε α) (glance : Glance) :
    CallResult ε α × Ledger :=
  match l.resolve number work.outcome glance with
  | (some (.error fault), after) => (.aborted fault.message, after)
  | (_, after) => (work.result, after)

/-- A call that nothing comes between. -/
def call (l : Ledger) (c : GuardedCall ε α) : CallResult ε α × Ledger :=
  match l.acquire true c.entry with
  | (.ok (some _), started) => started.finishCall l.slips.length c.work c.exit
  | (.ok none, after) => (.refused l.breaker.name, after)
  | (.error fault, after) => (.aborted fault.message, after)

def calls (l : Ledger) : List (GuardedCall ε α) → List (CallResult ε α) × Ledger
  | [] => ([], l)
  | c :: rest => ((l.call c).1 :: ((l.call c).2.calls rest).1, ((l.call c).2.calls rest).2)

def record (l : Ledger) (outcome : Outcome) (glance : Glance) : Except ClockFault Unit × Ledger :=
  ((l.breaker.record outcome glance).answer, l.follow (l.breaker.record outcome glance))

def reset (l : Ledger) (glance : Glance) : Except ClockFault Unit × Ledger :=
  ((l.breaker.reset glance).answer, l.follow (l.breaker.reset glance))

def addObserver (l : Ledger) (observer : Observer) : Ledger :=
  { l with breaker := l.breaker.addObserver observer }

/-- The reply to a step and the ledger after it. -/
def perform (l : Ledger) (step : Step ε α) : Reply × Ledger :=
  match step.action with
  | .allow => (l.allow step.glance).map .allowed id
  | .acquire => (l.acquire false step.glance).map .acquired id
  | .start => (l.acquire true step.glance).map .acquired id
  | .settle number outcome => (l.resolve number outcome step.glance).map .reported id
  | .discard number => (l.resolve number .failure step.glance).map .reported id
  | .finish number work => (l.resolve number work.outcome step.glance).map .reported id
  | .record outcome => (l.record outcome step.glance).map .done id
  | .reset => (l.reset step.glance).map .done id
  | .addObserver observer => (.done (.ok ()), l.addObserver observer)

def step (l : Ledger) (step : Step ε α) : Ledger := (l.perform step).2

def run (l : Ledger) (steps : List (Step ε α)) : Ledger := steps.foldl step l

/-- Whether a permit is handed out makes no difference to the breaker. -/
theorem breaker_acquire (l : Ledger) (working : Bool) (glance : Glance) :
    (l.acquire working glance).2.breaker = (l.breaker.acquire glance).breaker := by
  rw [acquire]
  generalize l.breaker.acquire glance = effect
  rcases effect with ⟨_ | _ | permit, after, events⟩ <;> rfl

theorem mem_acquire {l : Ledger} {working : Bool} {glance : Glance} {slip : Slip}
    (member : slip ∈ (l.acquire working glance).2.slips) :
    slip ∈ l.slips ∨ slip.fate = .pending := by
  rw [acquire] at member
  generalize l.breaker.acquire glance = effect at member
  rcases effect with ⟨_ | _ | permit, after, events⟩
  · exact .inl member
  · exact .inl member
  · rcases List.mem_append.mp member with member | member
    · exact .inl member
    · rw [List.mem_singleton.mp member]
      exact .inr rfl

/-- A permit that was just issued is held under the next number. -/
theorem held?_acquire {l : Ledger} {working : Bool} {glance : Glance} {permit : Permit}
    (issued : (l.acquire working glance).1 = .ok (some permit)) :
    ∃ slip, (l.acquire working glance).2.held? l.slips.length = some slip ∧
      slip.permit = permit := by
  rw [acquire] at issued ⊢
  generalize l.breaker.acquire glance = effect at issued ⊢
  obtain ⟨answer, after, events⟩ := effect
  cases issued
  refine ⟨⟨permit, (l.follow ⟨permit, after, events⟩).window, working, .pending⟩, ?_, rfl⟩
  simp [held?, hand, follow, window]

theorem call_of_issued {l : Ledger} {c : GuardedCall ε α} {permit : Permit}
    (issued : (l.acquire true c.entry).1 = .ok (some permit)) :
    l.call c = (l.acquire true c.entry).2.finishCall l.slips.length c.work c.exit := by
  rw [call]
  generalize l.acquire true c.entry = started at issued ⊢
  obtain ⟨_, after⟩ := started
  cases issued
  rfl

@[simp]
theorem run_nil (l : Ledger) : l.run ([] : List (Step ε α)) = l := rfl

@[simp]
theorem run_cons (l : Ledger) (s : Step ε α) (steps : List (Step ε α)) :
    l.run (s :: steps) = (l.step s).run steps := rfl

/-- What every admitted step keeps holds after a run of such steps. -/
theorem run_induction {P : Ledger → Prop} (admitted : Step ε α → Prop) {l : Ledger}
    {steps : List (Step ε α)} (base : P l)
    (kept : ∀ l s, admitted s → P l → P (l.step s))
    (all : ∀ s ∈ steps, admitted s) : P (l.run steps) := by
  induction steps generalizing l with
  | nil => exact base
  | cons s steps ih =>
    rw [run_cons]
    exact ih (kept l s (all s List.mem_cons_self) base)
      fun t ht => all t (List.mem_cons_of_mem s ht)

/-- An action that gives a permit back does nothing else. -/
theorem step_of_resolution {s : Step ε α} {number : Nat} {outcome : Outcome}
    (h : s.action.resolution? = some (number, outcome)) (l : Ledger) :
    l.step s = (l.resolve number outcome s.glance).2 := by
  obtain ⟨action, glance⟩ := s
  cases action with
  | settle n o => cases h; rfl
  | discard n => cases h; rfl
  | finish n w => cases h; rfl
  | _ => cases h

/-- A step is one of six operations. -/
theorem step_cases {P : Ledger → Prop} (l : Ledger) (s : Step ε α)
    (allow : P (l.allow s.glance).2)
    (acquire : ∀ working, P (l.acquire working s.glance).2)
    (resolve : ∀ number outcome, s.action.resolution? = some (number, outcome) →
      P (l.resolve number outcome s.glance).2)
    (record : ∀ outcome, s.action = .record outcome → P (l.record outcome s.glance).2)
    (reset : s.action = .reset → P (l.reset s.glance).2)
    (addObserver : ∀ observer, P (l.addObserver observer)) : P (l.step s) := by
  obtain ⟨action, glance⟩ := s
  cases action with
  | allow => exact allow
  | acquire => exact acquire false
  | start => exact acquire true
  | settle number outcome => exact resolve number outcome rfl
  | discard number => exact resolve number .failure rfl
  | finish number work => exact resolve number work.outcome rfl
  | record outcome => exact record outcome rfl
  | reset => exact reset rfl
  | addObserver observer => exact addObserver observer

/-- No step changes the configuration, and the timer follows the clock. -/
theorem keeps_step (l : Ledger) (s : Step ε α) :
    l.breaker.Keeps s.glance (l.step s).breaker := by
  apply step_cases (P := fun after => l.breaker.Keeps s.glance after.breaker)
  · exact l.breaker.keeps_allow s.glance
  · intro working
    rw [breaker_acquire]
    exact l.breaker.keeps_acquire s.glance
  · intro number outcome _
    rw [resolve]
    cases l.held? number with
    | none => exact ⟨rfl, .inl rfl⟩
    | some slip => exact l.breaker.keeps_report outcome (some slip.permit) s.glance
  · intro outcome _
    exact l.breaker.keeps_report outcome none s.glance
  · intro _
    exact l.breaker.keeps_reset s.glance
  · intro _
    exact ⟨rfl, .inl rfl⟩

theorem config_run (l : Ledger) (steps : List (Step ε α)) :
    (l.run steps).breaker.config = l.breaker.config :=
  run_induction (P := fun after => after.breaker.config = l.breaker.config) (fun _ => True) rfl
    (fun after s _ same => (after.keeps_step s).config_eq.trans same) fun _ _ => trivial

/-! ## The breakers of a fleet -/

/-- The ledger tells about the breaker of a fleet that has a handle. -/
structure Follows (l : Ledger) (f : Fleet) (handle : Handle) : Prop where
  inside : handle < f.breakers.length
  breaker_eq : f.breaker handle = l.breaker

namespace Follows

variable {l : Ledger} {f : Fleet} {handle : Handle}

theorem apply {β : Type} (h : l.Follows f handle) (operation : Breaker → Effect β) :
    (l.follow (operation l.breaker)).Follows (f.apply handle operation).2 handle := by
  constructor
  · simpa [Fleet.apply] using h.inside
  · simp [Fleet.apply, Fleet.breaker, h.inside, follow, ← h.breaker_eq]

theorem answer_apply {β : Type} (h : l.Follows f handle) (operation : Breaker → Effect β) :
    (f.apply handle operation).1 = (operation l.breaker).answer := by
  rw [Fleet.apply, h.breaker_eq]

/-- What a ledger tells does not depend on the other breakers and the clock. -/
theorem of_breakers {g : Fleet} (h : l.Follows f handle) (same : g.breakers = f.breakers) :
    l.Follows g handle where
  inside := by rw [same]; exact h.inside
  breaker_eq := by rw [Fleet.breaker, same]; exact h.breaker_eq

/-- A call that a fleet starts is a call of the ledger. -/
theorem startCall (h : l.Follows f handle) :
    (l.acquire true f.clock.read).2.Follows (f.startCall handle).2 handle ∧
      (f.startCall handle).1 = match (l.acquire true f.clock.read).1 with
        | .ok (some permit) => .granted ⟨handle, permit⟩
        | .ok none => .refused l.breaker.name
        | .error fault => .faulted fault := by
  have answer := h.answer_apply (·.acquire f.clock.read)
  have follows := h.apply (·.acquire f.clock.read)
  have name : (f.breaker handle).name = l.breaker.name := congrArg Breaker.name h.breaker_eq
  rw [Fleet.startCall, Fleet.acquire, acquire]
  simp only
  generalize l.breaker.acquire f.clock.read = effect at answer follows ⊢
  generalize f.apply handle (·.acquire f.clock.read) = applied at answer follows ⊢
  obtain ⟨_, after⟩ := applied
  subst answer
  rcases effect with ⟨_ | _ | permit, breaker, events⟩
  · exact ⟨follows, rfl⟩
  · exact ⟨follows, congrArg Started.refused name⟩
  · exact ⟨⟨follows.inside, follows.breaker_eq⟩, rfl⟩

/-- A call that a fleet finishes is a call of the ledger. -/
theorem finishCall (h : l.Follows f handle) {number : Nat} {slip : Slip}
    (held : l.held? number = some slip) (work : WorkEnd ε α) :
    (l.finishCall number work f.clock.read).2.Follows
        (f.finishCall ⟨handle, slip.permit⟩ work).2 handle ∧
      (f.finishCall ⟨handle, slip.permit⟩ work).1 =
        (l.finishCall number work f.clock.read).1 := by
  have answer := h.answer_apply (·.settle slip.permit work.outcome f.clock.read)
  have follows := h.apply (·.settle slip.permit work.outcome f.clock.read)
  rw [Fleet.finishCall, Fleet.settle, Ledger.finishCall, resolve]
  simp only [held]
  generalize l.breaker.settle slip.permit work.outcome f.clock.read = effect at answer follows ⊢
  generalize f.apply handle (·.settle slip.permit work.outcome f.clock.read) = applied
    at answer follows ⊢
  obtain ⟨_, after⟩ := applied
  subst answer
  rcases effect with ⟨_ | _, breaker, events⟩
  · exact ⟨⟨follows.inside, follows.breaker_eq⟩, rfl⟩
  · exact ⟨⟨follows.inside, follows.breaker_eq⟩, rfl⟩

/-- A fleet that starts a call, turns the clock and finishes the call does what
the ledger says of the whole call. -/
theorem call (h : l.Follows f handle) {grant : Grant}
    (granted : (f.startCall handle).1 = .granted grant) {g : Fleet}
    (same : g.breakers = (f.startCall handle).2.breakers) (work : WorkEnd ε α) :
    (l.call ⟨work, f.clock.read, g.clock.read⟩).2.Follows (g.finishCall grant work).2 handle ∧
      (g.finishCall grant work).1 = (l.call ⟨work, f.clock.read, g.clock.read⟩).1 := by
  obtain ⟨follows, answer⟩ := h.startCall
  rw [granted] at answer
  cases issued : (l.acquire true f.clock.read).1 with
  | error fault =>
    rw [issued] at answer
    cases answer
  | ok permit =>
    cases permit with
    | none =>
      rw [issued] at answer
      cases answer
    | some permit =>
      rw [issued] at answer
      cases answer
      obtain ⟨slip, held, rfl⟩ := held?_acquire issued
      rw [call_of_issued issued]
      exact (follows.of_breakers same).finishCall held work

end Follows

end Ledger

end GuardedCache.Circuit
