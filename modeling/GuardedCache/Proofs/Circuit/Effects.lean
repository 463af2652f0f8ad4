import GuardedCache.Circuit.Breaker

/-!
# What each operation of a breaker can do

The operations of a breaker are given by one table each: the rows of
`Allowance`, `Acquisition`, `Report` and `Closure` say under which condition on
the phase and the clock which answer is given, what the breaker is afterwards,
and what its observers do.  Every effect of an operation is a row of its table,
so later arguments about runs go through the rows and never open an operation.
-/

namespace GuardedCache.Circuit.Breaker

/-- How many failures in a row open the circuit. -/
abbrev threshold (b : Breaker) : Nat := b.config.failureThreshold.toNat

/-- How many probes a half-open circuit allows, and how many successes close it. -/
abbrev cap (b : Breaker) : Nat := b.config.halfOpenMaxCalls.toNat

/-- The time of an opened circuit is up. -/
abbrev IsDue (b : Breaker) (now : Reading) : Prop :=
  b.config.resetTimeout < b.phase.since.elapsed now.instant

theorem verdict_eq_pass_iff (b : Breaker) (now : Reading) :
    b.verdict now.instant = .pass ↔
      b.state = .closed ∨ b.state = .halfOpen ∧ b.phase.halfOpenCalls < b.cap := by
  rw [verdict, state]
  cases b.phase.state with
  | closed => simp
  | opened => by_cases due : b.IsDue now <;> simp [due]
  | halfOpen => simp

theorem verdict_eq_probe_iff (b : Breaker) (now : Reading) :
    b.verdict now.instant = .probe ↔ b.state = .opened ∧ b.IsDue now := by
  rw [verdict, state]
  cases b.phase.state with
  | closed => simp
  | opened => by_cases due : b.IsDue now <;> simp [due]
  | halfOpen => by_cases room : b.phase.halfOpenCalls < b.cap <;> simp [room]

theorem verdict_eq_refuse_iff (b : Breaker) (now : Reading) :
    b.verdict now.instant = .refuse ↔
      b.state = .opened ∧ ¬ b.IsDue now ∨
        b.state = .halfOpen ∧ b.cap ≤ b.phase.halfOpenCalls := by
  rw [verdict, state]
  cases b.phase.state with
  | closed => simp
  | opened => by_cases due : b.IsDue now <;> simp [due]
  | halfOpen => simp

/-! ## Admission -/

/-- The effects of asking whether a call may proceed. -/
inductive Allowance (b : Breaker) : Glance → Effect (Except ClockFault Bool) → Prop where
  | unread (fault : ClockFault) :
      Allowance b (.error fault) ⟨.error fault, b, []⟩
  | passed (now : Reading)
      (room : b.state = .closed ∨ b.state = .halfOpen ∧ b.phase.halfOpenCalls < b.cap) :
      Allowance b (.ok now) ⟨.ok true, b.countAdmission true, []⟩
  | refused (now : Reading)
      (full : b.state = .opened ∧ ¬ b.IsDue now ∨
        b.state = .halfOpen ∧ b.cap ≤ b.phase.halfOpenCalls) :
      Allowance b (.ok now) ⟨.ok false, b.countAdmission false, []⟩
  | woken (now : Reading) (opened : b.state = .opened) (due : b.IsDue now) :
      Allowance b (.ok now)
        ⟨.ok true, (b.enter .halfOpen now).countAdmission true, b.notices .halfOpen⟩

theorem allowance (b : Breaker) (glance : Glance) : b.Allowance glance (b.allow glance) := by
  cases glance with
  | error fault => exact .unread fault
  | ok now =>
    cases h : b.verdict now.instant with
    | pass =>
      simp only [allow, h]
      exact .passed now ((b.verdict_eq_pass_iff now).mp h)
    | refuse =>
      simp only [allow, h]
      exact .refused now ((b.verdict_eq_refuse_iff now).mp h)
    | probe =>
      obtain ⟨opened, due⟩ := (b.verdict_eq_probe_iff now).mp h
      simp only [allow, h]
      exact .woken now opened due

/-- The effects of asking for a permit. -/
inductive Acquisition (b : Breaker) :
    Glance → Effect (Except ClockFault (Option Permit)) → Prop where
  | unread (fault : ClockFault) :
      Acquisition b (.error fault) ⟨.error fault, b, []⟩
  | refused (now : Reading)
      (full : b.state = .opened ∧ ¬ b.IsDue now ∨
        b.state = .halfOpen ∧ b.cap ≤ b.phase.halfOpenCalls) :
      Acquisition b (.ok now) ⟨.ok none, b.countAdmission false, []⟩
  | passed (now : Reading) (closed : b.state = .closed) :
      Acquisition b (.ok now)
        ⟨.ok (some ⟨b.phase.epoch, false⟩), b.countAdmission true, []⟩
  | reserved (now : Reading) (halfOpen : b.state = .halfOpen)
      (room : b.phase.halfOpenCalls < b.cap) :
      Acquisition b (.ok now)
        ⟨.ok (some ⟨b.phase.epoch, true⟩), b.takeProbe.countAdmission true, []⟩
  | woken (now : Reading) (opened : b.state = .opened) (due : b.IsDue now) :
      Acquisition b (.ok now)
        ⟨.ok (some ⟨b.phase.epoch + 1, true⟩),
          ((b.enter .halfOpen now).takeProbe).countAdmission true, b.notices .halfOpen⟩

theorem acquisition (b : Breaker) (glance : Glance) :
    b.Acquisition glance (b.acquire glance) := by
  cases glance with
  | error fault => exact .unread fault
  | ok now =>
    cases h : b.verdict now.instant with
    | refuse =>
      simp only [acquire, h]
      exact .refused now ((b.verdict_eq_refuse_iff now).mp h)
    | probe =>
      obtain ⟨opened, due⟩ := (b.verdict_eq_probe_iff now).mp h
      simp only [acquire, h]
      exact .woken now opened due
    | pass =>
      simp only [acquire, h]
      rcases (b.verdict_eq_pass_iff now).mp h with closed | ⟨halfOpen, room⟩
      · rw [if_pos (show b.phase.state = .closed from closed)]
        exact .passed now closed
      · have open_ : b.phase.state ≠ .closed := by
          rw [show b.phase.state = .halfOpen from halfOpen]
          decide
        rw [if_neg open_]
        exact .reserved now halfOpen room

/-! ## Outcomes and resets -/

/-- The effects of reporting an outcome, with a permit or without one. -/
inductive Report (b : Breaker) (outcome : Outcome) (permit : Option Permit) :
    Glance → Effect (Except ClockFault Unit) → Prop where
  | healthy (glance : Glance) (success : outcome = .success) (closed : b.state = .closed)
      (clean : b.phase.failures = 0) :
      Report b outcome permit glance ⟨.ok (), b.countOutcome outcome, []⟩
  | unread (fault : ClockFault)
      (unhealthy : ¬ (outcome = .success ∧ b.state = .closed ∧ b.phase.failures = 0)) :
      Report b outcome permit (.error fault) ⟨.error fault, b.countOutcome outcome, []⟩
  | stale (now : Reading) (stale : b.isStale permit = true) :
      Report b outcome permit (.ok now) ⟨.ok (), b.countOutcome outcome, []⟩
  | ignored (now : Reading) (opened : b.state = .opened) :
      Report b outcome permit (.ok now) ⟨.ok (), b.countOutcome outcome, []⟩
  | forgiven (now : Reading) (fresh : b.isStale permit = false)
      (success : outcome = .success) (closed : b.state = .closed) :
      Report b outcome permit (.ok now)
        ⟨.ok (), { b.countOutcome outcome with phase := { b.phase with failures := 0 } }, []⟩
  | noted (now : Reading) (fresh : b.isStale permit = false)
      (failure : outcome = .failure) (closed : b.state = .closed)
      (below : b.phase.failures + 1 < b.threshold) :
      Report b outcome permit (.ok now)
        ⟨.ok (), { b.countOutcome outcome with
            phase := { b.phase with failures := b.phase.failures + 1 } }, []⟩
  | tripped (now : Reading) (fresh : b.isStale permit = false)
      (failure : outcome = .failure) (closed : b.state = .closed)
      (reached : b.threshold ≤ b.phase.failures + 1) :
      Report b outcome permit (.ok now)
        ⟨.ok (), (b.countOutcome outcome).enter .opened now, b.notices .opened⟩
  | progressed (now : Reading) (fresh : b.isStale permit = false)
      (success : outcome = .success) (halfOpen : b.state = .halfOpen)
      (below : b.phase.successes + 1 < b.cap) :
      Report b outcome permit (.ok now)
        ⟨.ok (), { b.countOutcome outcome with
            phase := { b.phase with
              successes := b.phase.successes + 1
              halfOpenCalls := b.phase.halfOpenCalls + if permit.isSome then 0 else 1 } }, []⟩
  | recovered (now : Reading) (fresh : b.isStale permit = false)
      (success : outcome = .success) (halfOpen : b.state = .halfOpen)
      (reached : b.cap ≤ b.phase.successes + 1) :
      Report b outcome permit (.ok now)
        ⟨.ok (), (b.countOutcome outcome).enter .closed now, b.notices .closed⟩
  | relapsed (now : Reading) (fresh : b.isStale permit = false)
      (failure : outcome = .failure) (halfOpen : b.state = .halfOpen) :
      Report b outcome permit (.ok now)
        ⟨.ok (), (b.countOutcome outcome).enter .opened now, b.notices .opened⟩

theorem isHealthy_iff (b : Breaker) :
    b.isHealthy = true ↔ b.state = .closed ∧ b.phase.failures = 0 := by
  simp only [isHealthy, state, Bool.and_eq_true, decide_eq_true_eq]

theorem isStale_countOutcome (b : Breaker) (outcome : Outcome) (permit : Option Permit) :
    (b.countOutcome outcome).isStale permit = b.isStale permit := by
  cases permit <;> rfl

theorem report_healthy {b : Breaker} {outcome : Outcome}
    (healthy : outcome = .success ∧ b.isHealthy = true) (permit : Option Permit)
    (glance : Glance) :
    b.report outcome permit glance = ⟨.ok (), b.countOutcome outcome, []⟩ :=
  if_pos healthy

private theorem report_ok {b : Breaker} {outcome : Outcome}
    (unhealthy : ¬ (outcome = .success ∧ b.isHealthy = true)) (permit : Option Permit)
    (now : Reading) :
    b.report outcome permit (.ok now) =
      if b.isStale permit then ⟨.ok (), b.countOutcome outcome, []⟩
      else ⟨.ok (), ((b.countOutcome outcome).settlePhase outcome permit.isSome now).1,
        ((b.countOutcome outcome).settlePhase outcome permit.isSome now).2⟩ := by
  rw [← isStale_countOutcome b outcome permit]
  exact if_neg unhealthy

private theorem settlePhase_of_closed {b : Breaker} (closed : b.state = .closed)
    (outcome : Outcome) (permitted : Bool) (now : Reading) :
    b.settlePhase outcome permitted now = b.settleClosed outcome now := by
  rw [settlePhase, show b.phase.state = .closed from closed]

private theorem settlePhase_of_halfOpen {b : Breaker} (halfOpen : b.state = .halfOpen)
    (outcome : Outcome) (permitted : Bool) (now : Reading) :
    b.settlePhase outcome permitted now =
      (if permitted then b else b.takeProbe).settleHalfOpen outcome now := by
  rw [settlePhase, show b.phase.state = .halfOpen from halfOpen]

private theorem settlePhase_of_opened {b : Breaker} (opened : b.state = .opened)
    (outcome : Outcome) (permitted : Bool) (now : Reading) :
    b.settlePhase outcome permitted now = (b, []) := by
  rw [settlePhase, show b.phase.state = .opened from opened]

/-- In a closed circuit an outcome that is not stale is a row of the table. -/
private theorem report_settleClosed (b : Breaker) (outcome : Outcome)
    (permit : Option Permit) (now : Reading) (fresh : b.isStale permit = false)
    (closed : b.state = .closed) :
    b.Report outcome permit (.ok now)
      ⟨.ok (), ((b.countOutcome outcome).settleClosed outcome now).1,
        ((b.countOutcome outcome).settleClosed outcome now).2⟩ := by
  cases outcome with
  | success => exact .forgiven now fresh rfl closed
  | failure =>
    by_cases reached : b.threshold ≤ b.phase.failures + 1
    · have effect : (b.countOutcome .failure).settleClosed .failure now =
          ((b.countOutcome .failure).enter .opened now, b.notices .opened) :=
        if_pos reached
      rw [effect]
      exact .tripped now fresh rfl closed reached
    · have effect : (b.countOutcome .failure).settleClosed .failure now =
          ({ b.countOutcome .failure with
            phase := { b.phase with failures := b.phase.failures + 1 } }, []) :=
        if_neg reached
      rw [effect]
      exact .noted now fresh rfl closed (Nat.lt_of_not_le reached)

/-- In a half-open circuit an outcome that is not stale is a row of the table. -/
private theorem report_settleHalfOpen (b : Breaker) (outcome : Outcome)
    (permit : Option Permit) (now : Reading) (fresh : b.isStale permit = false)
    (halfOpen : b.state = .halfOpen) :
    b.Report outcome permit (.ok now)
      ⟨.ok (),
        ((if permit.isSome then b.countOutcome outcome
          else (b.countOutcome outcome).takeProbe).settleHalfOpen outcome now).1,
        ((if permit.isSome then b.countOutcome outcome
          else (b.countOutcome outcome).takeProbe).settleHalfOpen outcome now).2⟩ := by
  cases outcome with
  | failure => cases permit <;> exact .relapsed now fresh rfl halfOpen
  | success =>
    -- a permit took its probe when it was issued; without one it is taken now
    generalize counted : (if permit.isSome then b.countOutcome .success
      else (b.countOutcome .success).takeProbe) = taken
    have same : taken = { b.countOutcome .success with phase := { b.phase with
        halfOpenCalls := b.phase.halfOpenCalls + if permit.isSome then 0 else 1 } } := by
      rw [← counted]
      cases permit <;> rfl
    by_cases reached : b.cap ≤ b.phase.successes + 1
    · have effect : taken.settleHalfOpen .success now =
          ((b.countOutcome .success).enter .closed now, b.notices .closed) := by
        rw [same]
        exact if_pos reached
      rw [effect]
      exact .recovered now fresh rfl halfOpen reached
    · have effect : taken.settleHalfOpen .success now =
          ({ b.countOutcome .success with phase := { b.phase with
              successes := b.phase.successes + 1
              halfOpenCalls := b.phase.halfOpenCalls + if permit.isSome then 0 else 1 } },
            []) := by
        rw [same]
        exact if_neg reached
      rw [effect]
      exact .progressed now fresh rfl halfOpen (Nat.lt_of_not_le reached)

theorem report_row (b : Breaker) (outcome : Outcome) (permit : Option Permit)
    (glance : Glance) : b.Report outcome permit glance (b.report outcome permit glance) := by
  by_cases healthy : outcome = .success ∧ b.isHealthy = true
  · obtain ⟨closed, clean⟩ := b.isHealthy_iff.mp healthy.2
    rw [report_healthy healthy]
    exact .healthy glance healthy.1 closed clean
  cases glance with
  | error fault =>
    have effect : b.report outcome permit (.error fault) =
        ⟨.error fault, b.countOutcome outcome, []⟩ := if_neg healthy
    rw [effect]
    exact .unread fault (by rwa [isHealthy_iff] at healthy)
  | ok now =>
    rw [report_ok healthy]
    cases stale : b.isStale permit with
    | true => exact .stale now stale
    | false =>
      rw [if_neg Bool.false_ne_true]
      cases state : b.state with
      | closed =>
        rw [settlePhase_of_closed (b := b.countOutcome outcome) state]
        exact b.report_settleClosed outcome permit now stale state
      | opened =>
        rw [settlePhase_of_opened (b := b.countOutcome outcome) state]
        exact .ignored now state
      | halfOpen =>
        rw [settlePhase_of_halfOpen (b := b.countOutcome outcome) state]
        exact b.report_settleHalfOpen outcome permit now stale state

/-- The effects of a reset. -/
inductive Closure (b : Breaker) : Glance → Effect (Except ClockFault Unit) → Prop where
  | unread (fault : ClockFault) :
      Closure b (.error fault) ⟨.error fault, b, []⟩
  | cleared (now : Reading) (closed : b.state = .closed) :
      Closure b (.ok now)
        ⟨.ok (), { b with phase := { b.phase with
          failures := 0, successes := 0, halfOpenCalls := 0 } }, []⟩
  | closed (now : Reading) (open_ : b.state ≠ .closed) :
      Closure b (.ok now) ⟨.ok (), b.enter .closed now, b.notices .closed⟩

theorem closure (b : Breaker) (glance : Glance) : b.Closure glance (b.reset glance) := by
  cases glance with
  | error fault => exact .unread fault
  | ok now =>
    by_cases h : b.state = .closed
    · rw [show b.reset (.ok now) = _ from if_pos h]
      exact .cleared now h
    · rw [show b.reset (.ok now) = _ from if_neg h]
      exact .closed now h

/-! ## How a half-open circuit is left -/

section HalfOpen

variable {b : Breaker}

theorem state_allow (halfOpen : b.state = .halfOpen) (glance : Glance) :
    (b.allow glance).breaker.state = .halfOpen := by
  have row := b.allowance glance
  generalize b.allow glance = effect at row ⊢
  cases row with
  | woken now opened due => cases halfOpen.symm.trans opened
  | _ => exact halfOpen

theorem state_acquire (halfOpen : b.state = .halfOpen) (glance : Glance) :
    (b.acquire glance).breaker.state = .halfOpen := by
  have row := b.acquisition glance
  generalize b.acquire glance = effect at row ⊢
  cases row with
  | woken now opened due => cases halfOpen.symm.trans opened
  | _ => exact halfOpen

/-- The state of a half-open circuit after an outcome that it takes into
account: it closes with the last success that is needed, and any failure opens
it again. -/
def afterProbe (b : Breaker) : Outcome → State
  | .success => if b.cap ≤ b.phase.successes + 1 then .closed else .halfOpen
  | .failure => .opened

theorem afterProbe_eq_closed_iff (b : Breaker) {outcome : Outcome} :
    b.afterProbe outcome = .closed ↔ outcome = .success ∧ b.cap ≤ b.phase.successes + 1 := by
  cases outcome with
  | failure => simp [afterProbe]
  | success => by_cases reached : b.cap ≤ b.phase.successes + 1 <;> simp [afterProbe, reached]

theorem state_report (halfOpen : b.state = .halfOpen) (outcome : Outcome)
    (permit : Option Permit) (now : Reading) :
    (b.report outcome permit (.ok now)).breaker.state =
      if b.isStale permit then .halfOpen else b.afterProbe outcome := by
  have row := b.report_row outcome permit (.ok now)
  generalize b.report outcome permit (.ok now) = effect at row ⊢
  cases row with
  | healthy _ success closed clean => cases halfOpen.symm.trans closed
  | stale _ stale =>
    rw [if_pos stale]
    exact halfOpen
  | ignored _ opened => cases halfOpen.symm.trans opened
  | forgiven _ fresh success closed => cases halfOpen.symm.trans closed
  | noted _ fresh failure closed below => cases halfOpen.symm.trans closed
  | tripped _ fresh failure closed reached => cases halfOpen.symm.trans closed
  | progressed _ fresh success _ below =>
    subst success
    rw [fresh, if_neg Bool.false_ne_true, afterProbe, if_neg (Nat.not_le_of_lt below)]
    exact halfOpen
  | recovered _ fresh success _ reached =>
    subst success
    rw [fresh, if_neg Bool.false_ne_true, afterProbe, if_pos reached]
    rfl
  | relapsed _ fresh failure _ =>
    subst failure
    rw [fresh, if_neg Bool.false_ne_true]
    rfl

theorem state_report_error (halfOpen : b.state = .halfOpen) (outcome : Outcome)
    (permit : Option Permit) (fault : ClockFault) :
    (b.report outcome permit (.error fault)).breaker.state = .halfOpen := by
  have row := b.report_row outcome permit (.error fault)
  generalize b.report outcome permit (.error fault) = effect at row ⊢
  cases row with
  | healthy _ success closed clean => cases halfOpen.symm.trans closed
  | unread _ unhealthy => exact halfOpen

end HalfOpen

/-! ## Stale outcomes -/

/-- The outcome of a stale permit is counted, and that is all. -/
theorem report_of_stale {b : Breaker} {permit : Option Permit}
    (stale : b.isStale permit = true) (outcome : Outcome) (glance : Glance) :
    (b.report outcome permit glance).breaker = b.countOutcome outcome ∧
      (b.report outcome permit glance).events = [] := by
  have row := b.report_row outcome permit glance
  generalize b.report outcome permit glance = effect at row ⊢
  cases row with
  | healthy _ success closed clean => exact ⟨rfl, rfl⟩
  | unread fault unhealthy => exact ⟨rfl, rfl⟩
  | stale now _ => exact ⟨rfl, rfl⟩
  | ignored now opened => exact ⟨rfl, rfl⟩
  | forgiven now fresh success closed => cases stale.symm.trans fresh
  | noted now fresh failure closed below => cases stale.symm.trans fresh
  | tripped now fresh failure closed reached => cases stale.symm.trans fresh
  | progressed now fresh success halfOpen below => cases stale.symm.trans fresh
  | recovered now fresh success halfOpen reached => cases stale.symm.trans fresh
  | relapsed now fresh failure halfOpen => cases stale.symm.trans fresh

/-! ## A closed circuit -/

section Closed

variable {b : Breaker}

theorem phase_allow_of_closed (closed : b.state = .closed) (glance : Glance) :
    (b.allow glance).breaker.phase = b.phase := by
  have row := b.allowance glance
  generalize b.allow glance = effect at row ⊢
  cases row with
  | woken now opened due => cases closed.symm.trans opened
  | _ => rfl

theorem phase_acquire_of_closed (closed : b.state = .closed) (glance : Glance) :
    (b.acquire glance).breaker.phase = b.phase := by
  have row := b.acquisition glance
  generalize b.acquire glance = effect at row ⊢
  cases row with
  | reserved now halfOpen room => cases closed.symm.trans halfOpen
  | woken now opened due => cases closed.symm.trans opened
  | _ => rfl

theorem phase_reset_of_closed (closed : b.state = .closed) (now : Reading) :
    (b.reset (.ok now)).breaker.phase =
      { b.phase with failures := 0, successes := 0, halfOpenCalls := 0 } := by
  have row := b.closure (.ok now)
  generalize b.reset (.ok now) = effect at row ⊢
  cases row with
  | cleared _ _ => rfl
  | closed _ open_ => exact absurd closed open_

/-- The phase of a closed circuit after an outcome that it takes into account:
a success makes it forget all failures, and a failure is one more of them. -/
def settledPhase (b : Breaker) (now : Reading) : Outcome → Phase
  | .success => { b.phase with failures := 0 }
  | .failure =>
    if b.phase.failures + 1 < b.threshold then
      { b.phase with failures := b.phase.failures + 1 }
    else (b.enter .opened now).phase

theorem phase_report_of_closed (closed : b.state = .closed) {permit : Option Permit}
    (fresh : b.isStale permit = false) (outcome : Outcome) (now : Reading) :
    (b.report outcome permit (.ok now)).breaker.phase = b.settledPhase now outcome := by
  have row := b.report_row outcome permit (.ok now)
  generalize b.report outcome permit (.ok now) = effect at row ⊢
  cases row with
  | healthy _ success _ clean =>
    subst success
    rw [settledPhase, ← clean]
    rfl
  | stale _ stale => cases stale.symm.trans fresh
  | ignored _ opened => cases closed.symm.trans opened
  | forgiven _ _ success _ =>
    subst success
    rfl
  | noted _ _ failure _ below =>
    subst failure
    rw [settledPhase, if_pos below]
  | tripped _ _ failure _ reached =>
    subst failure
    rw [settledPhase, if_neg (Nat.not_lt_of_le reached)]
    rfl
  | progressed _ _ success halfOpen below => cases closed.symm.trans halfOpen
  | recovered _ _ success halfOpen reached => cases closed.symm.trans halfOpen
  | relapsed _ _ failure halfOpen => cases closed.symm.trans halfOpen

end Closed

/-! ## What every operation keeps -/

/-- An operation keeps the configuration, and it leaves the timer as it is or
sets it to what the clock shows. -/
structure Keeps (b : Breaker) (glance : Glance) (after : Breaker) : Prop where
  config_eq : after.config = b.config
  since_eq : after.phase.since = b.phase.since ∨
    ∃ now, glance = .ok now ∧ after.phase.since = now.instant

theorem keeps_allow (b : Breaker) (glance : Glance) :
    b.Keeps glance (b.allow glance).breaker := by
  have row := b.allowance glance
  generalize b.allow glance = effect at row ⊢
  cases row with
  | woken now opened due => exact ⟨rfl, .inr ⟨now, rfl, rfl⟩⟩
  | _ => exact ⟨rfl, .inl rfl⟩

theorem keeps_acquire (b : Breaker) (glance : Glance) :
    b.Keeps glance (b.acquire glance).breaker := by
  have row := b.acquisition glance
  generalize b.acquire glance = effect at row ⊢
  cases row with
  | woken now opened due => exact ⟨rfl, .inr ⟨now, rfl, rfl⟩⟩
  | _ => exact ⟨rfl, .inl rfl⟩

theorem keeps_report (b : Breaker) (outcome : Outcome) (permit : Option Permit)
    (glance : Glance) : b.Keeps glance (b.report outcome permit glance).breaker := by
  have row := b.report_row outcome permit glance
  generalize b.report outcome permit glance = effect at row ⊢
  cases row with
  | tripped now fresh failure closed reached => exact ⟨rfl, .inr ⟨now, rfl, rfl⟩⟩
  | recovered now fresh success halfOpen reached => exact ⟨rfl, .inr ⟨now, rfl, rfl⟩⟩
  | relapsed now fresh failure halfOpen => exact ⟨rfl, .inr ⟨now, rfl, rfl⟩⟩
  | _ => exact ⟨rfl, .inl rfl⟩

theorem keeps_reset (b : Breaker) (glance : Glance) :
    b.Keeps glance (b.reset glance).breaker := by
  have row := b.closure glance
  generalize b.reset glance = effect at row ⊢
  cases row with
  | closed now open_ => exact ⟨rfl, .inr ⟨now, rfl, rfl⟩⟩
  | _ => exact ⟨rfl, .inl rfl⟩

/-- A report is only broken off by a clock that cannot be read. -/
theorem report_ok_answer (b : Breaker) (outcome : Outcome) (permit : Option Permit)
    (now : Reading) : (b.report outcome permit (.ok now)).answer = .ok () := by
  have row := b.report_row outcome permit (.ok now)
  generalize b.report outcome permit (.ok now) = effect at row ⊢
  cases row <;> rfl

end GuardedCache.Circuit.Breaker
