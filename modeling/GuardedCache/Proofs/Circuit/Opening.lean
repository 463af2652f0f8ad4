import Mathlib.Data.List.DropRight
import GuardedCache.Proofs.Circuit.History
import GuardedCache.Proofs.Circuit.Probes

/-!
# When a closed circuit opens

The failures of a closed circuit are a suffix of its history: those since it
closed, was reset, or last saw a success, whichever came last.  Outcomes with
permits of earlier windows are no part of it.  The circuit opens with the
failure that makes the suffix as long as its threshold, and in no other way
does it stop being closed.
-/

namespace GuardedCache.Circuit

variable {ε α : Type}

namespace Ledger

/-- The outcome that a step reports and that belongs to the current window: one
without a permit, or with a permit that was issued in it. -/
def effective? (l : Ledger) (s : Step ε α) : Option Outcome :=
  match s.action with
  | .record outcome => some outcome
  | action =>
    match action.resolution? with
    | some (number, outcome) =>
      if (l.held? number).any fun slip => slip.window = l.window then some outcome else none
    | none => none

end Ledger

namespace Entry

/-- A failure of a closed circuit. -/
def isFailure (e : Entry ε α) : Bool :=
  e.before.breaker.state = .closed && e.before.effective? e.step = some .failure

/-- A step that makes a closed circuit count its failures from zero: it is
reset, it closes, or it sees a success. -/
def isRestart (e : Entry ε α) : Bool :=
  e.step.action.isReset ||
    (e.before.breaker.state ≠ .closed && (e.before.step e.step).breaker.state = .closed) ||
    (e.before.breaker.state = .closed && e.before.effective? e.step = some .success)

end Entry

namespace Ledger

/-- The failures of a closed circuit since its count was last started. -/
def streak (l : Ledger) (steps : List (Step ε α)) : Nat :=
  ((l.history steps).rtakeWhile fun e => !e.isRestart).countP Entry.isFailure

theorem streak_concat (l : Ledger) (steps : List (Step ε α)) (s : Step ε α) :
    l.streak (steps ++ [s]) =
      if (⟨l.run steps, s⟩ : Entry ε α).isRestart then 0
      else l.streak steps + if (⟨l.run steps, s⟩ : Entry ε α).isFailure then 1 else 0 := by
  rw [streak, history_concat, List.rtakeWhile_concat]
  cases restart : (⟨l.run steps, s⟩ : Entry ε α).isRestart with
  | true => rfl
  | false =>
    rw [if_pos (by simp), if_neg Bool.false_ne_true, List.countP_append,
      List.countP_singleton]
    rfl

/-! ## What a step does to a closed circuit -/

variable {l : Ledger} {s : Step ε α} {permitsOnly : Prop}

theorem effective?_of_resolution {number : Nat} {outcome : Outcome}
    (resolution : s.action.resolution? = some (number, outcome)) :
    l.effective? s =
      if (l.held? number).any fun slip => slip.window = l.window then some outcome
      else none := by
  obtain ⟨action, glance⟩ := s
  cases action with
  | settle n o => cases resolution; rfl
  | discard n => cases resolution; rfl
  | finish n w => cases resolution; rfl
  | _ => cases resolution

theorem isReset_of_effective {outcome : Outcome} (effective : l.effective? s = some outcome) :
    s.action.isReset = false := by
  obtain ⟨action, glance⟩ := s
  cases action with
  | reset => cases effective
  | _ => rfl

theorem breaker_of_isReset (reset : s.action.isReset = true) :
    (l.step s).breaker = (l.breaker.reset s.glance).breaker := by
  obtain ⟨action, glance⟩ := s
  cases Action.isReset_eq_true_iff.mp reset
  rfl

/-- An effective outcome is reported to the breaker as one that is not stale. -/
theorem IsBalanced.breaker_of_effective (h : l.IsBalanced permitsOnly) {outcome : Outcome}
    (effective : l.effective? s = some outcome) :
    ∃ permit, l.breaker.isStale permit = false ∧
      (l.step s).breaker = (l.breaker.report outcome permit s.glance).breaker := by
  cases resolution : s.action.resolution? with
  | none =>
    obtain ⟨action, glance⟩ := s
    cases action with
    | record reported =>
      cases effective
      exact ⟨none, rfl, rfl⟩
    | settle n o => cases resolution
    | discard n => cases resolution
    | finish n w => cases resolution
    | _ => cases effective
  | some report =>
    obtain ⟨number, reported⟩ := report
    rw [effective?_of_resolution resolution] at effective
    cases held : l.held? number with
    | none =>
      rw [held] at effective
      cases effective
    | some slip =>
      rw [held, Option.any_some] at effective
      by_cases current : slip.window = l.window
      · rw [if_pos (decide_eq_true current)] at effective
        cases effective
        refine ⟨some slip.permit, ?_, ?_⟩
        · exact (h.isStale_eq_false_iff (mem_of_held? held)).mpr current
        · rw [step_of_resolution resolution, breaker_resolve held]
      · rw [if_neg (by simpa using current)] at effective
        cases effective

/-- Without an effective outcome or a reset a closed circuit stays as it is. -/
theorem IsBalanced.phase_of_ineffective (h : l.IsBalanced permitsOnly)
    (closed : l.breaker.state = .closed) (ineffective : l.effective? s = none)
    (other : s.action.isReset = false) : (l.step s).breaker.phase = l.breaker.phase := by
  apply step_cases (P := fun after => after.breaker.phase = l.breaker.phase)
  · exact Breaker.phase_allow_of_closed closed s.glance
  · intro working
    rw [breaker_acquire]
    exact Breaker.phase_acquire_of_closed closed s.glance
  · intro number outcome resolution
    rw [effective?_of_resolution resolution] at ineffective
    cases held : l.held? number with
    | none =>
      rw [Ledger.resolve, held]
    | some slip =>
      have earlier : slip.window ≠ l.window := by
        intro current
        rw [held, Option.any_some, if_pos (decide_eq_true current)] at ineffective
        cases ineffective
      have stale := h.isStale_of_window_ne (mem_of_held? held) earlier
      rw [breaker_resolve held, (Breaker.report_of_stale stale outcome s.glance).1]
      rfl
  · intro outcome record
    rw [effective?, record] at ineffective
    cases ineffective
  · intro reset
    rw [reset] at other
    cases other
  · exact fun _ => rfl

/-- The phase of a closed circuit after an effective outcome. -/
theorem IsBalanced.phase_of_effective (h : l.IsBalanced permitsOnly)
    (closed : l.breaker.state = .closed) {outcome : Outcome}
    (effective : l.effective? s = some outcome) {now : Reading} (read : s.glance = .ok now) :
    (l.step s).breaker.phase = l.breaker.settledPhase now outcome := by
  obtain ⟨permit, fresh, report⟩ := h.breaker_of_effective effective
  rw [report, read, Breaker.phase_report_of_closed closed fresh]

/-- The failures of a closed circuit after a step that leaves it closed. -/
theorem IsBalanced.failures_step (h : l.IsBalanced permitsOnly) (readable : s.IsReadable)
    {count : Nat} (counted : l.breaker.state = .closed → l.breaker.phase.failures = count)
    (after : (l.step s).breaker.state = .closed) :
    (l.step s).breaker.phase.failures =
      if (⟨l, s⟩ : Entry ε α).isRestart then 0
      else count + if (⟨l, s⟩ : Entry ε α).isFailure then 1 else 0 := by
  obtain ⟨now, read⟩ := readable
  by_cases closed : l.breaker.state = .closed
  · cases effective : l.effective? s with
    | none =>
      cases reset : s.action.isReset with
      | true =>
        rw [if_pos (by simp [Entry.isRestart, reset]), breaker_of_isReset reset, read,
          Breaker.phase_reset_of_closed closed]
      | false =>
        rw [if_neg (by simp [Entry.isRestart, reset, closed, effective]),
          if_neg (by simp [Entry.isFailure, effective]),
          h.phase_of_ineffective closed effective reset]
        exact counted closed
    | some outcome =>
      have reset := isReset_of_effective effective
      have phase := h.phase_of_effective closed effective read
      cases outcome with
      | success =>
        rw [if_pos (by simp [Entry.isRestart, closed, effective]), phase]
        rfl
      | failure =>
        rw [if_neg (by simp [Entry.isRestart, reset, closed, effective]),
          if_pos (by simp [Entry.isFailure, closed, effective]), ← counted closed, phase]
        by_cases below : l.breaker.phase.failures + 1 < l.breaker.threshold
        · rw [Breaker.settledPhase, if_pos below]
        · rw [Breaker.state, phase, Breaker.settledPhase, if_neg below] at after
          cases after
  · -- a circuit that has just closed starts its count
    cases l.turn s with
    | stays _ stays => exact absurd (stays.state_eq.symm.trans after) closed
    | enters target _ _ _ _ enters =>
      rw [if_pos (by simp [Entry.isRestart, closed, after]), enters.failures_eq]

/-- A closed circuit stops being closed with the effective failure that is the
last one it can stand. -/
theorem IsBalanced.leaves_closed_iff (h : l.IsBalanced permitsOnly)
    (closed : l.breaker.state = .closed) (readable : s.IsReadable) :
    (l.step s).breaker.state ≠ .closed ↔
      l.effective? s = some .failure ∧ l.breaker.phase.failures + 1 = l.breaker.threshold := by
  obtain ⟨now, read⟩ := readable
  have below : l.breaker.phase.failures < l.breaker.threshold :=
    (h.accounts.closed closed).1
  cases effective : l.effective? s with
  | none =>
    have still : (l.step s).breaker.state = .closed := by
      cases reset : s.action.isReset with
      | true =>
        rw [Breaker.state, breaker_of_isReset reset, read,
          Breaker.phase_reset_of_closed closed]
        exact closed
      | false =>
        rw [Breaker.state, h.phase_of_ineffective closed effective reset]
        exact closed
    simp [still]
  | some outcome =>
    have phase := h.phase_of_effective closed effective read
    rw [Breaker.state, phase]
    cases outcome with
    | success =>
      have still : (l.breaker.settledPhase now .success).state = .closed := closed
      simp [still]
    | failure =>
      by_cases more : l.breaker.phase.failures + 1 < l.breaker.threshold
      · have still : (l.breaker.settledPhase now .failure).state = .closed := by
          rw [Breaker.settledPhase, if_pos more]
          exact closed
        rw [still]
        exact ⟨fun other => absurd rfl other, fun last => absurd last.2 (Nat.ne_of_lt more)⟩
      · have opened : (l.breaker.settledPhase now .failure).state = .opened := by
          rw [Breaker.settledPhase, if_neg more]
          rfl
        rw [opened]
        exact ⟨fun _ => ⟨rfl, by omega⟩, fun _ => by decide⟩

/-- There is only one way out of the closed state. -/
theorem opened_of_leaves_closed (closed : l.breaker.state = .closed)
    (leaves : (l.step s).breaker.state ≠ .closed) : (l.step s).breaker.state = .opened := by
  cases l.turn s with
  | stays _ stays => exact absurd (stays.state_eq.trans closed) leaves
  | enters target _ _ _ edge enters =>
    rw [closed] at edge
    generalize s.action.isReset = byReset at edge
    cases edge
    exact enters.state_eq

/-! ## Runs -/

section Built

variable (name : String) (config : Config) (observers : List Observer) (created : Reading)

theorem failures_eq_streak {steps : List (Step ε α)} (readable : ∀ t ∈ steps, t.IsReadable)
    (closed : ((fresh name config observers created).run steps).breaker.state = .closed) :
    ((fresh name config observers created).run steps).breaker.phase.failures =
      (fresh name config observers created).streak steps := by
  induction steps using List.reverseRecOn with
  | nil => rfl
  | append_singleton steps s ih =>
    rw [run_concat] at closed ⊢
    rw [streak_concat]
    exact (isBalanced_run name config observers created steps).failures_step
      (readable s (by simp)) (ih fun t member => readable t (by simp [member])) closed

/-- While the clock can be read, the failures of a closed circuit are the
effective ones since it closed, was reset, or saw a success.  It stops being
closed exactly with the effective failure that makes them as many as the
threshold, and then it is opened. -/
theorem opens_exactly {steps : List (Step ε α)} {s : Step ε α}
    (readable : ∀ t ∈ steps ++ [s], t.IsReadable)
    (closed : ((fresh name config observers created).run steps).breaker.state = .closed) :
    ((fresh name config observers created).run steps).breaker.phase.failures =
        (fresh name config observers created).streak steps ∧
      ((((fresh name config observers created).run steps).step s).breaker.state ≠ .closed ↔
        ((fresh name config observers created).run steps).effective? s = some .failure ∧
          (fresh name config observers created).streak steps + 1 =
            config.sanitize.failureThreshold.toNat) ∧
      ((((fresh name config observers created).run steps).step s).breaker.state ≠ .closed →
        (((fresh name config observers created).run steps).step s).breaker.state = .opened) := by
  have failures := failures_eq_streak name config observers created
    (fun t member => readable t (List.mem_append_left [s] member)) closed
  have leaves := (isBalanced_run name config observers created steps).leaves_closed_iff closed
    (readable s (List.mem_append_right steps (List.mem_singleton_self s)))
  rw [failures, Breaker.threshold, config_fresh_run] at leaves
  exact ⟨failures, leaves, opened_of_leaves_closed closed⟩

end Built

/-- Two failures open the circuit and a reset closes it.  After that a failure with
a permit from before counts for nothing, and one without a permit counts. -/
def strainedSteps : List (Step Unit Unit) :=
  [⟨.acquire, .ok ⟨⟨0⟩, Clock.origin⟩⟩,
    ⟨.record .failure, .ok ⟨⟨0⟩, Clock.origin⟩⟩,
    ⟨.record .failure, .ok ⟨⟨0⟩, Clock.origin⟩⟩,
    ⟨.reset, .ok ⟨⟨5⟩, Clock.origin⟩⟩,
    ⟨.settle 0 .failure, .ok ⟨⟨6⟩, Clock.origin⟩⟩,
    ⟨.record .failure, .ok ⟨⟨7⟩, Clock.origin⟩⟩]

/-- One more failure makes two, and they open the circuit again. -/
theorem opens_exactly_with_second_failure :
    ((fresh "strained" ⟨2, 10, 1⟩ [] ⟨⟨0⟩, Clock.origin⟩).run
        strainedSteps).breaker.phase.failures = 1 ∧
      (((fresh "strained" ⟨2, 10, 1⟩ [] ⟨⟨0⟩, Clock.origin⟩).run strainedSteps).step
        (⟨.record .failure, .ok ⟨⟨8⟩, Clock.origin⟩⟩ : Step Unit Unit)).breaker.state =
          .opened := by
  have readable : ∀ t ∈ strainedSteps ++
      [(⟨.record .failure, .ok ⟨⟨8⟩, Clock.origin⟩⟩ : Step Unit Unit)], t.IsReadable := by
    simp [strainedSteps, Step.IsReadable]
  obtain ⟨failures, leaves, opened⟩ :=
    opens_exactly "strained" ⟨2, 10, 1⟩ [] ⟨⟨0⟩, Clock.origin⟩ readable (by decide)
  exact ⟨failures.trans (by decide), opened (leaves.mpr ⟨by decide, by decide⟩)⟩

end Ledger

end GuardedCache.Circuit
