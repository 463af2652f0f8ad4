import GuardedCache.Proofs.Circuit.Effects

/-!
# Passages from state to state

Whatever an operation does to the counters of a breaker, it either leaves the
state of the circuit alone and stays silent, or it takes the circuit along one
edge to another state and tells every observer so.  `Passage` says that of an
effect, together with what is fixed for good when a breaker is built.  What the
history of a breaker looks like follows from it alone.
-/

namespace GuardedCache.Circuit

/-- The ways from one state to another.  A reset leads to the closed state from
anywhere else; the other ways are found by outcomes and requests only. -/
inductive Edge : (byReset : Bool) → (source target : State) → Prop where
  | trip : Edge false .closed .opened
  | wake : Edge false .opened .halfOpen
  | relapse : Edge false .halfOpen .opened
  | recover : Edge false .halfOpen .closed
  | resetOpened : Edge true .opened .closed
  | resetHalfOpen : Edge true .halfOpen .closed

namespace Edge

variable {byReset : Bool} {source target : State}

theorem ne (edge : Edge byReset source target) : source ≠ target := by
  cases edge <;> nofun

theorem of_reset (open_ : source ≠ .closed) : Edge true source .closed := by
  cases source with
  | closed => exact absurd rfl open_
  | opened => exact .resetOpened
  | halfOpen => exact .resetHalfOpen

end Edge

namespace Totals

/-- How often a state was entered. -/
def entries (t : Totals) : State → Nat
  | .closed => t.closed
  | .opened => t.opened
  | .halfOpen => t.halfOpened

@[simp]
theorem entries_countAdmission (t : Totals) (admitted : Bool) :
    (t.countAdmission admitted).entries = t.entries := by
  funext state
  cases admitted <;> cases state <;> rfl

@[simp]
theorem entries_countOutcome (t : Totals) (outcome : Outcome) :
    (t.countOutcome outcome).entries = t.entries := by
  funext state
  cases outcome <;> cases state <;> rfl

theorem entries_countEntry (t : Totals) (target state : State) :
    (t.countEntry target).entries state =
      t.entries state + if target = state then 1 else 0 := by
  cases target <;> cases state <;> rfl

end Totals

namespace Breaker

/-- The circuit is in the state it was in, since the same time. -/
structure Stays (b after : Breaker) : Prop where
  state_eq : after.state = b.state
  epoch_eq : after.phase.epoch = b.phase.epoch
  since_eq : after.phase.since = b.phase.since
  sinceWall_eq : after.phase.sinceWall = b.phase.sinceWall
  entries_eq : after.totals.entries = b.totals.entries

/-- The circuit has just entered a state, with the counters of a new window but
for a probe that may be taken already.  It becomes half-open only when its time
is up. -/
structure Enters (b : Breaker) (target : State) (now : Reading) (after : Breaker) : Prop where
  phase_eq : after.phase =
    { (b.enter target now).phase with halfOpenCalls := after.phase.halfOpenCalls }
  entries_eq : ∀ state, after.totals.entries state =
    b.totals.entries state + if target = state then 1 else 0
  due : target = .halfOpen → b.IsDue now

theorem Stays.refl (b : Breaker) : b.Stays b :=
  ⟨rfl, rfl, rfl, rfl, rfl⟩

theorem stays_countAdmission (b : Breaker) (admitted : Bool) :
    b.Stays (b.countAdmission admitted) :=
  ⟨rfl, rfl, rfl, rfl, b.totals.entries_countAdmission admitted⟩

theorem stays_countOutcome (b : Breaker) (outcome : Outcome) :
    b.Stays (b.countOutcome outcome) :=
  ⟨rfl, rfl, rfl, rfl, b.totals.entries_countOutcome outcome⟩

namespace Enters

variable {b after : Breaker} {target : State} {now : Reading}

theorem state_eq (h : b.Enters target now after) : after.state = target :=
  congrArg Phase.state h.phase_eq

theorem epoch_eq (h : b.Enters target now after) :
    after.phase.epoch = b.phase.epoch + 1 :=
  congrArg Phase.epoch h.phase_eq

theorem since_eq (h : b.Enters target now after) : after.phase.since = now.instant :=
  congrArg Phase.since h.phase_eq

theorem failures_eq (h : b.Enters target now after) : after.phase.failures = 0 :=
  congrArg Phase.failures h.phase_eq

/-- A breaker that enters a state after it has counted a call. -/
theorem of_counted {counted : Breaker} (epoch : counted.phase.epoch = b.phase.epoch)
    (entries : counted.totals.entries = b.totals.entries)
    (due : target = .halfOpen → b.IsDue now) :
    b.Enters target now (counted.enter target now) where
  phase_eq := by
    rw [enter, enter, epoch]
  entries_eq state := by
    rw [← entries]
    exact counted.totals.entries_countEntry target state
  due := due

end Enters

/-- What an operation does to the state of the circuit, and what it tells the
observers of it. -/
structure Passage {β : Type} (b : Breaker) (byReset : Bool) (glance : Glance)
    (effect : Effect β) : Prop where
  name_eq : effect.breaker.name = b.name
  config_eq : effect.breaker.config = b.config
  observers_eq : effect.breaker.observers = b.observers
  turn : b.Stays effect.breaker ∧ effect.events = [] ∨
    ∃ target now, glance = .ok now ∧ Edge byReset b.state target ∧
      b.Enters target now effect.breaker ∧ effect.events = b.notices target

section Rows

variable {β : Type} {b after : Breaker} {byReset : Bool} {answer : β}

theorem passage_of_stays (glance : Glance) (name : after.name = b.name)
    (config : after.config = b.config) (observers : after.observers = b.observers)
    (stays : b.Stays after) : b.Passage byReset glance ⟨answer, after, []⟩ :=
  ⟨name, config, observers, .inl ⟨stays, rfl⟩⟩

theorem passage_of_enters {target : State} {now : Reading} (name : after.name = b.name)
    (config : after.config = b.config) (observers : after.observers = b.observers)
    (edge : Edge byReset b.state target) (enters : b.Enters target now after) :
    b.Passage byReset (.ok now) ⟨answer, after, b.notices target⟩ :=
  ⟨name, config, observers, .inr ⟨target, now, rfl, edge, enters, rfl⟩⟩

end Rows

theorem passage_allow (b : Breaker) (glance : Glance) :
    b.Passage false glance (b.allow glance) := by
  have row := b.allowance glance
  generalize b.allow glance = effect at row ⊢
  cases row with
  | unread fault => exact passage_of_stays _ rfl rfl rfl (.refl b)
  | passed now room => exact passage_of_stays _ rfl rfl rfl (b.stays_countAdmission true)
  | refused now full => exact passage_of_stays _ rfl rfl rfl (b.stays_countAdmission false)
  | woken now opened due =>
    refine passage_of_enters rfl rfl rfl ?_ ⟨rfl, ?_, fun _ => due⟩
    · rw [opened]
      exact .wake
    · intro state
      exact (congrFun (Totals.entries_countAdmission _ true) state).trans
        (b.totals.entries_countEntry .halfOpen state)

theorem passage_acquire (b : Breaker) (glance : Glance) :
    b.Passage false glance (b.acquire glance) := by
  have row := b.acquisition glance
  generalize b.acquire glance = effect at row ⊢
  cases row with
  | unread fault => exact passage_of_stays _ rfl rfl rfl (.refl b)
  | refused now full => exact passage_of_stays _ rfl rfl rfl (b.stays_countAdmission false)
  | passed now closed => exact passage_of_stays _ rfl rfl rfl (b.stays_countAdmission true)
  | reserved now halfOpen room =>
    exact passage_of_stays _ rfl rfl rfl
      ⟨rfl, rfl, rfl, rfl, b.totals.entries_countAdmission true⟩
  | woken now opened due =>
    refine passage_of_enters rfl rfl rfl ?_ ⟨rfl, ?_, fun _ => due⟩
    · rw [opened]
      exact .wake
    · intro state
      exact (congrFun (Totals.entries_countAdmission _ true) state).trans
        (b.totals.entries_countEntry .halfOpen state)

theorem passage_report (b : Breaker) (outcome : Outcome) (permit : Option Permit)
    (glance : Glance) : b.Passage false glance (b.report outcome permit glance) := by
  have counted := b.stays_countOutcome outcome
  have entered : ∀ {target : State} (now : Reading), target ≠ .halfOpen →
      b.Enters target now ((b.countOutcome outcome).enter target now) :=
    fun now other => .of_counted rfl counted.entries_eq fun same => absurd same other
  have row := b.report_row outcome permit glance
  generalize b.report outcome permit glance = effect at row ⊢
  cases row with
  | healthy _ success closed clean => exact passage_of_stays _ rfl rfl rfl counted
  | unread fault unhealthy => exact passage_of_stays _ rfl rfl rfl counted
  | stale now stale => exact passage_of_stays _ rfl rfl rfl counted
  | ignored now opened => exact passage_of_stays _ rfl rfl rfl counted
  | forgiven now fresh success closed =>
    exact passage_of_stays _ rfl rfl rfl ⟨rfl, rfl, rfl, rfl, counted.entries_eq⟩
  | noted now fresh failure closed below =>
    exact passage_of_stays _ rfl rfl rfl ⟨rfl, rfl, rfl, rfl, counted.entries_eq⟩
  | progressed now fresh success halfOpen below =>
    exact passage_of_stays _ rfl rfl rfl ⟨rfl, rfl, rfl, rfl, counted.entries_eq⟩
  | tripped now fresh failure closed reached =>
    refine passage_of_enters rfl rfl rfl ?_ (entered now nofun)
    rw [closed]
    exact .trip
  | recovered now fresh success halfOpen reached =>
    refine passage_of_enters rfl rfl rfl ?_ (entered now nofun)
    rw [halfOpen]
    exact .recover
  | relapsed now fresh failure halfOpen =>
    refine passage_of_enters rfl rfl rfl ?_ (entered now nofun)
    rw [halfOpen]
    exact .relapse

theorem passage_reset (b : Breaker) (glance : Glance) :
    b.Passage true glance (b.reset glance) := by
  have row := b.closure glance
  generalize b.reset glance = effect at row ⊢
  cases row with
  | unread fault => exact passage_of_stays _ rfl rfl rfl (.refl b)
  | cleared now closed => exact passage_of_stays _ rfl rfl rfl ⟨rfl, rfl, rfl, rfl, rfl⟩
  | closed now open_ =>
    exact passage_of_enters rfl rfl rfl (.of_reset open_) (.of_counted rfl rfl nofun)

end Breaker

end GuardedCache.Circuit
