import GuardedCache.Proofs.Circuit.Ledger

/-!
# Totals do not decide

A breaker counts what it sees and never looks at what it has counted.  If it is given
some more totals from elsewhere, then everything that is done to it goes on as before, and
the difference stays the same.
-/

namespace GuardedCache.Circuit

/-- Two lots of totals taken together. -/
def Totals.plus (t more : Totals) : Totals where
  admitted := t.admitted + more.admitted
  rejected := t.rejected + more.rejected
  succeeded := t.succeeded + more.succeeded
  failed := t.failed + more.failed
  opened := t.opened + more.opened
  halfOpened := t.halfOpened + more.halfOpened
  closed := t.closed + more.closed

namespace Totals

theorem countAdmission_plus (t more : Totals) (admitted : Bool) :
    (t.plus more).countAdmission admitted = (t.countAdmission admitted).plus more := by
  cases admitted <;> simp only [plus, countAdmission, Nat.add_right_comm]

theorem countOutcome_plus (t more : Totals) (outcome : Outcome) :
    (t.plus more).countOutcome outcome = (t.countOutcome outcome).plus more := by
  cases outcome <;> simp only [plus, countOutcome, Nat.add_right_comm]

theorem countEntry_plus (t more : Totals) (target : State) :
    (t.plus more).countEntry target = (t.countEntry target).plus more := by
  cases target <;> simp only [plus, countEntry, Nat.add_right_comm]

end Totals

/-- The breaker after it has counted some more elsewhere. -/
def Breaker.plus (b : Breaker) (more : Totals) : Breaker :=
  { b with totals := b.totals.plus more }

def Effect.plus {β : Type} (effect : Effect β) (more : Totals) : Effect β :=
  { effect with breaker := effect.breaker.plus more }

namespace Breaker

variable (b : Breaker) (more : Totals)

@[simp]
theorem countAdmission_plus (admitted : Bool) :
    (b.plus more).countAdmission admitted = (b.countAdmission admitted).plus more := by
  simp only [plus, countAdmission, Totals.countAdmission_plus]

@[simp]
theorem countOutcome_plus (outcome : Outcome) :
    (b.plus more).countOutcome outcome = (b.countOutcome outcome).plus more := by
  simp only [plus, countOutcome, Totals.countOutcome_plus]

@[simp]
theorem enter_plus (target : State) (now : Reading) :
    (b.plus more).enter target now = (b.enter target now).plus more := by
  simp only [plus, enter, Totals.countEntry_plus]

@[simp]
theorem takeProbe_plus : (b.plus more).takeProbe = b.takeProbe.plus more := rfl

/-! Each operation does the same to a breaker that has counted more. -/

theorem allow_plus (glance : Glance) :
    (b.plus more).allow glance = (b.allow glance).plus more := by
  cases glance with
  | error fault => rfl
  | ok now =>
    have verdict : (b.plus more).verdict now.instant = b.verdict now.instant := rfl
    simp only [allow, verdict, countAdmission_plus, enter_plus]
    cases b.verdict now.instant <;> rfl

theorem acquire_plus (glance : Glance) :
    (b.plus more).acquire glance = (b.acquire glance).plus more := by
  cases glance with
  | error fault => rfl
  | ok now =>
    have verdict : (b.plus more).verdict now.instant = b.verdict now.instant := rfl
    have phase : (b.plus more).phase = b.phase := rfl
    simp only [acquire, verdict, phase, countAdmission_plus, enter_plus, takeProbe_plus]
    cases b.verdict now.instant with
    | pass => by_cases closed : b.phase.state = .closed <;> simp only [closed] <;> rfl
    | refuse => rfl
    | probe => rfl

theorem settleClosed_plus (outcome : Outcome) (now : Reading) :
    (b.plus more).settleClosed outcome now =
      (b.settleClosed outcome now).map (·.plus more) id := by
  cases outcome with
  | success => rfl
  | failure =>
    by_cases reached : b.config.failureThreshold.toNat ≤ b.phase.failures + 1
    · have tripped : b.settleClosed .failure now = (b.enter .opened now, b.notices .opened) :=
        if_pos reached
      rw [tripped, Prod.map, ← enter_plus]
      exact if_pos reached
    · have noted : b.settleClosed .failure now =
          ({ b with phase := { b.phase with failures := b.phase.failures + 1 } }, []) :=
        if_neg reached
      rw [noted]
      exact if_neg reached

theorem settleHalfOpen_plus (outcome : Outcome) (now : Reading) :
    (b.plus more).settleHalfOpen outcome now =
      (b.settleHalfOpen outcome now).map (·.plus more) id := by
  cases outcome with
  | failure => exact congrArg (·, b.notices .opened) (b.enter_plus more .opened now)
  | success =>
    by_cases reached : b.config.halfOpenMaxCalls.toNat ≤ b.phase.successes + 1
    · have recovered : b.settleHalfOpen .success now =
          (b.enter .closed now, b.notices .closed) :=
        if_pos reached
      rw [recovered, Prod.map, ← enter_plus]
      exact if_pos reached
    · have progressed : b.settleHalfOpen .success now =
          ({ b with phase := { b.phase with successes := b.phase.successes + 1 } }, []) :=
        if_neg reached
      rw [progressed]
      exact if_neg reached

theorem settlePhase_plus (outcome : Outcome) (permitted : Bool) (now : Reading) :
    (b.plus more).settlePhase outcome permitted now =
      (b.settlePhase outcome permitted now).map (·.plus more) id := by
  have phase : (b.plus more).phase = b.phase := rfl
  rw [settlePhase, settlePhase, phase]
  cases b.phase.state with
  | closed => exact b.settleClosed_plus more outcome now
  | opened => rfl
  | halfOpen =>
    cases permitted with
    | true => exact b.settleHalfOpen_plus more outcome now
    | false => exact b.takeProbe.settleHalfOpen_plus more outcome now

theorem report_plus (outcome : Outcome) (permit : Option Permit) (glance : Glance) :
    (b.plus more).report outcome permit glance =
      (b.report outcome permit glance).plus more := by
  have healthy : ((b.countOutcome outcome).plus more).isHealthy =
      (b.countOutcome outcome).isHealthy := rfl
  have stale : ((b.countOutcome outcome).plus more).isStale permit =
      (b.countOutcome outcome).isStale permit := rfl
  simp only [report, countOutcome_plus, healthy, stale, settlePhase_plus]
  by_cases fast : outcome = .success ∧ (b.countOutcome outcome).isHealthy = true
  · rw [if_pos fast, if_pos fast]
    rfl
  · rw [if_neg fast, if_neg fast]
    cases glance with
    | error fault => rfl
    | ok now => cases (b.countOutcome outcome).isStale permit <;> rfl

theorem reset_plus (glance : Glance) :
    (b.plus more).reset glance = (b.reset glance).plus more := by
  cases glance with
  | error fault => rfl
  | ok now =>
    have phase : (b.plus more).phase = b.phase := rfl
    simp only [reset, phase, enter_plus]
    split <;> rfl

end Breaker

variable {ε α : Type}

namespace Ledger

def plus (l : Ledger) (more : Totals) : Ledger :=
  { l with breaker := l.breaker.plus more }

variable (l : Ledger) (more : Totals)

theorem acquire_plus (working : Bool) (glance : Glance) :
    (l.plus more).acquire working glance = (l.acquire working glance).map id (·.plus more) := by
  rw [acquire, acquire, show (l.plus more).breaker = l.breaker.plus more from rfl,
    Breaker.acquire_plus]
  generalize l.breaker.acquire glance = effect
  rcases effect with ⟨_ | _ | permit, breaker, events⟩ <;> rfl

theorem resolve_plus (number : Nat) (outcome : Outcome) (glance : Glance) :
    (l.plus more).resolve number outcome glance =
      (l.resolve number outcome glance).map id (·.plus more) := by
  rw [resolve, resolve, show (l.plus more).held? number = l.held? number from rfl]
  cases l.held? number with
  | none => rfl
  | some slip =>
    simp only [Breaker.settle, show (l.plus more).breaker = l.breaker.plus more from rfl,
      Breaker.report_plus]
    rfl

/-- A step gets the same reply if the breaker has counted more before. -/
theorem perform_plus (s : Step ε α) :
    (l.plus more).perform s = (l.perform s).map id (·.plus more) := by
  have breaker : (l.plus more).breaker = l.breaker.plus more := rfl
  obtain ⟨action, glance⟩ := s
  cases action with
  | allow =>
    simp only [perform, allow, breaker, Breaker.allow_plus]
    rfl
  | acquire =>
    simp only [perform, acquire_plus]
    rfl
  | start =>
    simp only [perform, acquire_plus]
    rfl
  | settle number outcome =>
    simp only [perform, resolve_plus]
    rfl
  | discard number =>
    simp only [perform, resolve_plus]
    rfl
  | finish number work =>
    simp only [perform, resolve_plus]
    rfl
  | record outcome =>
    simp only [perform, record, breaker, Breaker.record, Breaker.report_plus]
    rfl
  | reset =>
    simp only [perform, reset, breaker, Breaker.reset_plus]
    rfl
  | addObserver observer => rfl

theorem step_plus (s : Step ε α) : (l.plus more).step s = (l.step s).plus more :=
  congrArg Prod.snd (l.perform_plus more s)

end Ledger

end GuardedCache.Circuit
