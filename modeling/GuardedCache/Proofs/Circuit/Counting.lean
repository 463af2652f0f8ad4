import GuardedCache.Proofs.Circuit.History
import GuardedCache.Proofs.Circuit.Accounting

/-!
# Counting in words

The failures, the successes and the calls of a circuit are counted in words of 32 bits.  What an
increment makes of the greatest word is not up to the circuit: the operation may be broken off, or
the count may start again from zero.  `Counting` leaves that open.

This file runs a breaker that counts in any such way beside one that counts without a limit.  The
two differ at one place only.  The failures and the successes never exceed what the configuration
asks for, which is a word itself, and a permit is only issued while there is a probe left.  But an
outcome that is reported without a permit takes a probe of a half-open circuit whether there is
one left or not.
-/

namespace GuardedCache.Circuit

/-- The greatest count in a word of 32 bits. -/
def maxCount : Nat := UInt32.size - 1

inductive Counter where
  | failures
  | successes
  | halfOpenCalls
deriving DecidableEq, Repr

/-- What an increment of a counter comes to.  Below the greatest word it adds one.  If there is no
next count, the operation is broken off. -/
structure Counting where
  next : Counter → Nat → Option Nat
  next_of_lt : ∀ counter {count}, count < maxCount → next counter count = some (count + 1)

namespace Counting

/-- Every increment adds one. -/
def unlimited : Counting where
  next _ count := some (count + 1)
  next_of_lt _ _ _ := rfl

/-- An increment of the greatest word breaks the operation off. -/
def checked : Counting where
  next _ count := if count < maxCount then some (count + 1) else none
  next_of_lt _ _ below := if_pos below

/-- An increment of the greatest word starts again from zero. -/
def wrapping : Counting where
  next _ count := some ((count + 1) % UInt32.size)
  next_of_lt _ _ below := congrArg some (Nat.mod_eq_of_lt (Nat.add_lt_of_lt_sub below))

/-- A word that is followed by zero has no next count. -/
theorem next_checked (counter : Counter) (word : UInt32) :
    checked.next counter word.toNat = if word + 1 = 0 then none else some (word + 1).toNat := by
  have bound : word.toNat < 2 ^ 32 := word.toNat_lt
  have sum : (word + 1).toNat = (word.toNat + 1) % 2 ^ 32 := UInt32.toNat_add word 1
  have zero : word + 1 = 0 ↔ (word + 1).toNat = 0 := UInt32.toNat_inj.symm
  change (if word.toNat < 2 ^ 32 - 1 then some (word.toNat + 1) else none) = _
  by_cases below : word.toNat < 2 ^ 32 - 1
  · rw [Nat.mod_eq_of_lt (by omega)] at sum
    rw [if_pos below, if_neg (by rw [zero]; omega), sum]
  · have greatest : word.toNat + 1 = 2 ^ 32 := by omega
    rw [greatest] at sum
    rw [if_neg below, if_pos (zero.mpr sum)]

theorem next_wrapping (counter : Counter) (word : UInt32) :
    wrapping.next counter word.toNat = some (word + 1).toNat :=
  congrArg some (UInt32.toNat_add word 1).symm

end Counting

/-! ## A breaker that counts in words -/

namespace Breaker

variable (counting : Counting)

/-- `takeProbe` in a way of counting. -/
def takeProbeBy (b : Breaker) : Option Breaker :=
  (counting.next .halfOpenCalls b.phase.halfOpenCalls).map fun halfOpenCalls =>
    { b with phase := { b.phase with halfOpenCalls } }

/-- `acquire` in a way of counting. -/
def acquireBy (b : Breaker) (glance : Glance) :
    Option (Effect (Except ClockFault (Option Permit))) :=
  match glance with
  | .error fault => some ⟨.error fault, b, []⟩
  | .ok now =>
    match b.verdict now.instant with
    | .refuse => some ⟨.ok none, b.countAdmission false, []⟩
    | .pass =>
      if b.phase.state = .closed then
        some ⟨.ok (some ⟨b.phase.epoch, false⟩), b.countAdmission true, []⟩
      else
        (b.takeProbeBy counting).map fun taken =>
          ⟨.ok (some ⟨b.phase.epoch, true⟩), taken.countAdmission true, []⟩
    | .probe =>
      ((b.enter .halfOpen now).takeProbeBy counting).map fun taken =>
        ⟨.ok (some ⟨b.phase.epoch + 1, true⟩), taken.countAdmission true, b.notices .halfOpen⟩

/-- `settleClosed` in a way of counting. -/
def settleClosedBy (b : Breaker) (outcome : Outcome) (now : Reading) :
    Option (Breaker × List Event) :=
  match outcome with
  | .success => some ({ b with phase := { b.phase with failures := 0 } }, [])
  | .failure =>
    (counting.next .failures b.phase.failures).map fun failures =>
      let b := { b with phase := { b.phase with failures } }
      if b.config.failureThreshold.toNat ≤ b.phase.failures then
        (b.enter .opened now, b.notices .opened)
      else (b, [])

/-- `settleHalfOpen` in a way of counting. -/
def settleHalfOpenBy (b : Breaker) (outcome : Outcome) (now : Reading) :
    Option (Breaker × List Event) :=
  match outcome with
  | .success =>
    (counting.next .successes b.phase.successes).map fun successes =>
      let b := { b with phase := { b.phase with successes } }
      if b.config.halfOpenMaxCalls.toNat ≤ b.phase.successes then
        (b.enter .closed now, b.notices .closed)
      else (b, [])
  | .failure => some (b.enter .opened now, b.notices .opened)

/-- `settlePhase` in a way of counting. -/
def settlePhaseBy (b : Breaker) (outcome : Outcome) (permitted : Bool) (now : Reading) :
    Option (Breaker × List Event) :=
  match b.phase.state with
  | .closed => b.settleClosedBy counting outcome now
  | .halfOpen =>
    (if permitted then some b else b.takeProbeBy counting).bind fun taken =>
      taken.settleHalfOpenBy counting outcome now
  | .opened => some (b, [])

/-- `report` in a way of counting. -/
def reportBy (b : Breaker) (outcome : Outcome) (permit : Option Permit) (glance : Glance) :
    Option (Effect (Except ClockFault Unit)) :=
  let b := b.countOutcome outcome
  if outcome = .success ∧ b.isHealthy then some ⟨.ok (), b, []⟩
  else
    match glance with
    | .error fault => some ⟨.error fault, b, []⟩
    | .ok now =>
      if b.isStale permit then some ⟨.ok (), b, []⟩
      else
        (b.settlePhaseBy counting outcome permit.isSome now).map fun settled =>
          ⟨.ok (), settled.1, settled.2⟩

/-- One more failure or success can be counted where it would be. -/
structure Fits (b : Breaker) : Prop where
  failures : b.state = .closed →
    counting.next .failures b.phase.failures = some (b.phase.failures + 1)
  successes : b.state = .halfOpen →
    counting.next .successes b.phase.successes = some (b.phase.successes + 1)

/-- A half-open circuit can count one more call. -/
def CanTake (b : Breaker) : Prop :=
  b.state = .halfOpen →
    counting.next .halfOpenCalls b.phase.halfOpenCalls = some (b.phase.halfOpenCalls + 1)

variable {counting} {b : Breaker}

theorem cap_le_maxCount (b : Breaker) : b.cap ≤ maxCount :=
  Nat.le_sub_one_of_lt b.config.halfOpenMaxCalls.toNat_lt

theorem threshold_le_maxCount (b : Breaker) : b.threshold ≤ maxCount :=
  Nat.le_sub_one_of_lt b.config.failureThreshold.toNat_lt

theorem takeProbeBy_eq
    (next : counting.next .halfOpenCalls b.phase.halfOpenCalls =
      some (b.phase.halfOpenCalls + 1)) :
    b.takeProbeBy counting = some b.takeProbe := by
  rw [takeProbeBy, next]
  rfl

/-- A permit takes a probe that is left, so no issue of one overflows. -/
theorem acquireBy_eq (counting : Counting) (b : Breaker) (glance : Glance) :
    b.acquireBy counting glance = some (b.acquire glance) := by
  cases glance with
  | error fault => rfl
  | ok now =>
    cases verdict : b.verdict now.instant with
    | refuse => simp only [acquireBy, acquire, verdict]
    | probe =>
      have taken := takeProbeBy_eq (b := b.enter .halfOpen now)
        (counting.next_of_lt .halfOpenCalls (show 0 < maxCount by decide))
      simp only [acquireBy, acquire, verdict, taken, Option.map_some]
    | pass =>
      by_cases closed : b.phase.state = .closed
      · simp only [acquireBy, acquire, verdict, closed, if_true]
      · rcases (b.verdict_eq_pass_iff now).mp verdict with flowing | ⟨_, room⟩
        · exact absurd flowing closed
        · have below : b.phase.halfOpenCalls < maxCount :=
            Nat.lt_of_lt_of_le room b.cap_le_maxCount
          have taken := takeProbeBy_eq (counting.next_of_lt .halfOpenCalls below)
          simp only [acquireBy, acquire, verdict, closed, if_false, taken, Option.map_some]

theorem settleClosedBy_eq
    (next : counting.next .failures b.phase.failures = some (b.phase.failures + 1))
    (outcome : Outcome) (now : Reading) :
    b.settleClosedBy counting outcome now = some (b.settleClosed outcome now) := by
  cases outcome with
  | success => rfl
  | failure =>
    rw [settleClosedBy, next, Option.map_some]
    rfl

theorem settleHalfOpenBy_eq
    (next : counting.next .successes b.phase.successes = some (b.phase.successes + 1))
    (outcome : Outcome) (now : Reading) :
    b.settleHalfOpenBy counting outcome now = some (b.settleHalfOpen outcome now) := by
  cases outcome with
  | failure => rfl
  | success =>
    rw [settleHalfOpenBy, next, Option.map_some]
    rfl

theorem settlePhaseBy_eq (fits : b.Fits counting) {permitted : Bool}
    (takes : permitted = false → b.CanTake counting) (outcome : Outcome) (now : Reading) :
    b.settlePhaseBy counting outcome permitted now =
      some (b.settlePhase outcome permitted now) := by
  cases state : b.phase.state with
  | closed =>
    simp only [settlePhaseBy, settlePhase, state]
    exact settleClosedBy_eq (fits.failures state) outcome now
  | opened => simp only [settlePhaseBy, settlePhase, state]
  | halfOpen =>
    simp only [settlePhaseBy, settlePhase, state]
    have next := fits.successes state
    cases permitted with
    | true => exact settleHalfOpenBy_eq next outcome now
    | false =>
      rw [if_neg Bool.false_ne_true, if_neg Bool.false_ne_true, takeProbeBy_eq (takes rfl state),
        Option.bind_some]
      exact settleHalfOpenBy_eq (b := b.takeProbe) next outcome now

/-- A report is what it is without a limit if all that it would count can be counted. -/
theorem reportBy_eq (fits : b.Fits counting) (outcome : Outcome) (permit : Option Permit)
    (takes : permit.isSome = false → b.CanTake counting) (glance : Glance) :
    b.reportBy counting outcome permit glance = some (b.report outcome permit glance) := by
  have settled (now : Reading) :
      (b.countOutcome outcome).settlePhaseBy counting outcome permit.isSome now =
        some ((b.countOutcome outcome).settlePhase outcome permit.isSome now) :=
    settlePhaseBy_eq (b := b.countOutcome outcome) ⟨fits.failures, fits.successes⟩ takes outcome
      now
  simp only [reportBy, report]
  split
  · rfl
  · cases glance with
    | error fault => rfl
    | ok now =>
      simp only [settled, Option.map_some]
      split <;> rfl

/-- An outcome without a permit breaks off if there is no count of calls after this one. -/
theorem reportBy_eq_none (halfOpen : b.state = .halfOpen)
    (full : counting.next .halfOpenCalls b.phase.halfOpenCalls = none) (outcome : Outcome)
    (now : Reading) : b.reportBy counting outcome none (.ok now) = none := by
  have state : (b.countOutcome outcome).phase.state = .halfOpen := halfOpen
  have unhealthy : ¬ (outcome = .success ∧ (b.countOutcome outcome).isHealthy = true) := by
    rintro ⟨_, healthy⟩
    cases state.symm.trans ((isHealthy_iff _).mp healthy).1
  have untaken : (b.countOutcome outcome).takeProbeBy counting = none :=
    congrArg (Option.map _) full
  simp only [reportBy, if_neg unhealthy, isStale, settlePhaseBy, state, Option.isSome_none,
    Bool.false_eq_true, if_false, untaken, Option.bind_none, Option.map_none]

theorem reportBy_error (counting : Counting) (b : Breaker) (outcome : Outcome)
    (permit : Option Permit) (fault : ClockFault) :
    b.reportBy counting outcome permit (.error fault) =
      some (b.report outcome permit (.error fault)) := by
  simp only [reportBy, report]
  split <;> rfl

/-- Counting with checks breaks a report off or does what counting without a limit does. -/
theorem reportBy_checked (fits : b.Fits .checked) (outcome : Outcome) (permit : Option Permit)
    (glance : Glance) :
    b.reportBy .checked outcome permit glance = none ∨
      b.reportBy .checked outcome permit glance = some (b.report outcome permit glance) := by
  cases permit with
  | some permit => exact .inr (reportBy_eq fits outcome permit (fun bare => by cases bare) glance)
  | none =>
    cases glance with
    | error fault => exact .inr (reportBy_error .checked b outcome none fault)
    | ok now =>
      -- Only a probe that is taken without a permit can be one too many for a word.
      by_cases takes : b.CanTake .checked
      · exact .inr (reportBy_eq fits outcome none (fun _ => takes) (.ok now))
      · obtain ⟨halfOpen, full⟩ := Classical.not_imp.mp takes
        have greatest : ¬ b.phase.halfOpenCalls < maxCount :=
          fun below => full (Counting.checked.next_of_lt .halfOpenCalls below)
        exact .inl (reportBy_eq_none halfOpen (if_neg greatest) outcome now)

end Breaker

/-! ## Runs that count in words -/

variable {ε α : Type}

namespace Ledger

/-- What the holder of a new permit is told, and the ledger after it was issued. -/
def issue (l : Ledger) (working : Bool) (effect : Effect (Except ClockFault (Option Permit))) :
    Reply × Ledger :=
  (.acquired effect.answer, match effect.answer with
    | .ok (some permit) => (l.follow effect).hand permit working
    | _ => l.follow effect)

/-- What the holder of a permit is told, and the ledger after its outcome was reported. -/
def redeem (l : Ledger) (number : Nat) (outcome : Outcome)
    (effect : Effect (Except ClockFault Unit)) : Reply × Ledger :=
  (.reported (some effect.answer), (l.follow effect).mark number (match effect.answer with
    | .ok _ => .settled outcome
    | .error _ => .lost outcome))

variable (counting : Counting)

/-- `resolve` in a way of counting. -/
def resolveBy (l : Ledger) (number : Nat) (outcome : Outcome) (glance : Glance) :
    Option (Reply × Ledger) :=
  match l.held? number with
  | none => some (.reported none, l)
  | some slip =>
    (l.breaker.reportBy counting outcome (some slip.permit) glance).map (l.redeem number outcome)

/-- `perform` in a way of counting.  There is no ledger after a step that was broken off. -/
def performBy (l : Ledger) (s : Step ε α) : Option (Reply × Ledger) :=
  match s.action with
  | .allow => some (l.perform s)
  | .acquire => (l.breaker.acquireBy counting s.glance).map (l.issue false)
  | .start => (l.breaker.acquireBy counting s.glance).map (l.issue true)
  | .settle number outcome => l.resolveBy counting number outcome s.glance
  | .discard number => l.resolveBy counting number .failure s.glance
  | .finish number work => l.resolveBy counting number work.outcome s.glance
  | .record outcome =>
    (l.breaker.reportBy counting outcome none s.glance).map fun effect =>
      (.done effect.answer, l.follow effect)
  | .reset => some (l.perform s)
  | .addObserver _ => some (l.perform s)

/-- `run` in a way of counting. -/
def runBy (l : Ledger) (steps : List (Step ε α)) : Option Ledger :=
  steps.foldlM (fun l s => (l.performBy counting s).map Prod.snd) l

variable {counting} {l : Ledger}

theorem runBy_append (l : Ledger) (before after : List (Step ε α)) :
    l.runBy counting (before ++ after) =
      (l.runBy counting before).bind fun middle => middle.runBy counting after :=
  List.foldlM_append

theorem runBy_cons (l : Ledger) (s : Step ε α) (steps : List (Step ε α)) :
    l.runBy counting (s :: steps) =
      ((l.performBy counting s).map Prod.snd).bind fun after => after.runBy counting steps :=
  rfl

theorem resolveBy_eq (fits : l.breaker.Fits counting) (number : Nat) (outcome : Outcome)
    (glance : Glance) :
    l.resolveBy counting number outcome glance =
      some ((l.resolve number outcome glance).map .reported id) := by
  rw [resolveBy, resolve]
  cases l.held? number with
  | none => rfl
  | some slip =>
    have reported := Breaker.reportBy_eq fits outcome (some slip.permit)
      (fun bare => by cases bare) glance
    simp only [reported]
    rfl

/-- A step does what it does without a limit, unless it takes a probe that cannot be counted. -/
theorem performBy_eq (fits : l.breaker.Fits counting) {s : Step ε α}
    (takes : s.action.IsBare → l.breaker.CanTake counting) :
    l.performBy counting s = some (l.perform s) := by
  obtain ⟨action, glance⟩ := s
  cases action with
  | allow => rfl
  | acquire =>
    simp only [performBy, Breaker.acquireBy_eq]
    rfl
  | start =>
    simp only [performBy, Breaker.acquireBy_eq]
    rfl
  | settle number outcome => exact resolveBy_eq fits number outcome glance
  | discard number => exact resolveBy_eq fits number .failure glance
  | finish number work => exact resolveBy_eq fits number work.outcome glance
  | record outcome =>
    simp only [performBy, Breaker.reportBy_eq fits outcome none (fun _ => takes trivial)]
    rfl
  | reset => rfl
  | addObserver observer => rfl

theorem performBy_checked (fits : l.breaker.Fits .checked) (s : Step ε α) :
    l.performBy .checked s = none ∨ l.performBy .checked s = some (l.perform s) := by
  by_cases bare : s.action.IsBare
  · obtain ⟨action, glance⟩ := s
    cases action with
    | record outcome =>
      simp only [performBy]
      rcases Breaker.reportBy_checked fits outcome none glance with broken | done
      · exact .inl (congrArg (Option.map _) broken)
      · exact .inr (congrArg (Option.map _) done)
    | _ => exact absurd bare id
  · exact .inr (performBy_eq fits fun isBare => absurd isBare bare)

theorem performBy_unlimited (l : Ledger) (s : Step ε α) :
    l.performBy .unlimited s = some (l.perform s) :=
  performBy_eq ⟨fun _ => rfl, fun _ => rfl⟩ fun _ _ => rfl

/-- Counting without a limit is what a ledger does. -/
theorem runBy_unlimited (l : Ledger) (steps : List (Step ε α)) :
    l.runBy .unlimited steps = some (l.run steps) := by
  induction steps generalizing l with
  | nil => rfl
  | cons s steps ih =>
    rw [runBy_cons, performBy_unlimited]
    exact ih (l.step s)

/-- The failures and the successes stay below what the configuration asks for. -/
theorem IsBalanced.fits {permitsOnly : Prop} (h : l.IsBalanced permitsOnly)
    (counting : Counting) : l.breaker.Fits counting where
  failures closed := counting.next_of_lt .failures
    (Nat.lt_of_lt_of_le (Balanced.closed h closed).1 l.breaker.threshold_le_maxCount)
  successes halfOpen := counting.next_of_lt .successes
    (Nat.lt_of_lt_of_le (Balanced.halfOpen h halfOpen).successes l.breaker.cap_le_maxCount)

/-- A run comes to what it comes to without a limit if its outcomes without a permit can be
counted whatever has happened before. -/
theorem IsBalanced.runBy_eq (h : l.IsBalanced False) {steps : List (Step ε α)}
    (takes : ∀ m : Ledger, m.IsBalanced False → m.breaker.config = l.breaker.config →
      ∀ s ∈ steps, s.action.IsBare → m.breaker.CanTake counting) :
    l.runBy counting steps = some (l.run steps) := by
  induction steps generalizing l with
  | nil => rfl
  | cons s steps ih =>
    have config := (l.keeps_step s).config_eq
    rw [runBy_cons, performBy_eq (h.fits counting) (takes l h rfl s List.mem_cons_self)]
    refine ih (h.step s fun none => none.elim) fun m balanced same t member => ?_
    exact takes m balanced (same.trans config) t (List.mem_cons_of_mem s member)

/-- Counting with checks breaks a run off or does what counting without a limit does. -/
theorem IsBalanced.runBy_checked (h : l.IsBalanced False) (steps : List (Step ε α)) :
    l.runBy .checked steps = none ∨ l.runBy .checked steps = some (l.run steps) := by
  induction steps generalizing l with
  | nil => exact .inr rfl
  | cons s steps ih =>
    rw [runBy_cons]
    rcases performBy_checked (h.fits .checked) s with broken | done
    · rw [broken]
      exact .inl rfl
    · rw [done]
      exact ih (h.step s fun none => none.elim)

end Ledger

end GuardedCache.Circuit
