import GuardedCache.Proofs.Circuit.Counting

/-!
# Counts that a word cannot hold

The calls of a half-open window are those that hold permits, of which there are no more than
probes, and those that are reported without one.  The successes among them end the window as soon
as there are as many as probes, so the calls of a window can be nearly twice as many as its
probes.  They fit in a word of 32 bits exactly if there are fewer than 2^31 probes.
-/

namespace GuardedCache.Circuit

variable {ε α : Type}

namespace Ledger

variable {l : Ledger}

/-- A half-open circuit with fewer than 2^31 probes can always count one more call. -/
theorem IsBalanced.canTake (h : l.IsBalanced False)
    (few : l.breaker.cap < UInt32.size / 2) (counting : Counting) :
    l.breaker.CanTake counting := by
  intro halfOpen
  have few : l.breaker.config.halfOpenMaxCalls.toNat < UInt32.size / 2 := few
  -- There are fewer than twice as many calls as probes: one for a permit at most for each probe,
  -- and fewer successes than probes.
  obtain ⟨_, _, _, _, calls⟩ := h.accounts.halfOpen halfOpen
  apply counting.next_of_lt .halfOpenCalls
  rw [maxCount]
  omega

theorem threshold_step (l : Ledger) (s : Step ε α) :
    (l.step s).breaker.threshold = l.breaker.threshold :=
  congrArg (fun config => config.failureThreshold.toNat) (l.keeps_step s).config_eq

theorem cap_step (l : Ledger) (s : Step ε α) : (l.step s).breaker.cap = l.breaker.cap :=
  congrArg (fun config => config.halfOpenMaxCalls.toNat) (l.keeps_step s).config_eq

theorem cap_run (l : Ledger) (steps : List (Step ε α)) :
    (l.run steps).breaker.cap = l.breaker.cap :=
  congrArg (fun config => config.halfOpenMaxCalls.toNat) (l.config_run steps)

/-- A half-open circuit with a number of calls, some of which have succeeded. -/
structure InWindow (l : Ledger) (calls successes : Nat) : Prop where
  halfOpen : l.breaker.state = .halfOpen
  calls_eq : l.breaker.phase.halfOpenCalls = calls
  successes_eq : l.breaker.phase.successes = successes

variable (now : Reading)

/-- A failure that is reported without a permit. -/
def bareFailure : Step ε α := ⟨.record .failure, .ok now⟩

/-- A success that is reported without a permit. -/
def bareSuccess : Step ε α := ⟨.record .success, .ok now⟩

/-- A call that asks for a permit and keeps it. -/
def keptProbe : Step ε α := ⟨.acquire, .ok now⟩

theorem phase_step_bareFailure (closed : l.breaker.state = .closed) :
    (l.step (bareFailure now : Step ε α)).breaker.phase = l.breaker.settledPhase now .failure :=
  Breaker.phase_report_of_closed closed (show l.breaker.isStale none = false from rfl) .failure
    now

/-- As many failures as are still missing open a closed circuit. -/
theorem opened_of_bareFailures (missing : Nat) (closed : l.breaker.state = .closed)
    (left : l.breaker.phase.failures + missing + 1 = l.breaker.threshold) :
    let after := l.run (List.replicate (missing + 1) (bareFailure now : Step ε α))
    after.breaker.state = .opened ∧ after.breaker.phase.since = now.instant := by
  -- The circuit stays closed until the last of the failures that are missing.
  induction missing generalizing l with
  | zero =>
    have phase := phase_step_bareFailure (ε := ε) (α := α) now closed
    rw [Breaker.settledPhase, if_neg (by omega)] at phase
    exact ⟨congrArg Phase.state phase, congrArg Phase.since phase⟩
  | succ missing ih =>
    have phase := phase_step_bareFailure (ε := ε) (α := α) now closed
    rw [Breaker.settledPhase, if_pos (by omega)] at phase
    rw [List.replicate_succ, run_cons]
    apply ih
    · rw [Breaker.state, phase]
      exact closed
    · rw [phase, threshold_step, ← left]
      simp only
      omega

/-- The first probe begins a window. -/
theorem inWindow_keptProbe (opened : l.breaker.state = .opened) (due : l.breaker.IsDue now) :
    (l.step (keptProbe now : Step ε α)).InWindow 1 0 := by
  have row := l.breaker.acquisition (.ok now)
  have after := l.breaker_acquire false (.ok now)
  change Ledger.InWindow (l.acquire false (.ok now)).2 1 0
  generalize l.breaker.acquire (.ok now) = effect at row after
  cases row with
  | woken _ _ _ => exact ⟨congrArg Breaker.state after, by rw [after]; rfl, by rw [after]; rfl⟩
  | refused _ full =>
    rcases full with ⟨_, early⟩ | ⟨halfOpen, _⟩
    · exact absurd due early
    · cases opened.symm.trans halfOpen
  | passed _ closed => cases opened.symm.trans closed
  | reserved _ halfOpen room => cases opened.symm.trans halfOpen

namespace InWindow

variable {calls successes : Nat}

theorem step_keptProbe (h : l.InWindow calls successes) (room : calls < l.breaker.cap) :
    (l.step (keptProbe now : Step ε α)).InWindow (calls + 1) successes := by
  have row := l.breaker.acquisition (.ok now)
  have after := l.breaker_acquire false (.ok now)
  change Ledger.InWindow (l.acquire false (.ok now)).2 (calls + 1) successes
  generalize l.breaker.acquire (.ok now) = effect at row after
  cases row with
  | reserved _ _ _ =>
    refine ⟨(congrArg Breaker.state after).trans h.halfOpen, ?_, ?_⟩
    · rw [after, ← h.calls_eq]
      rfl
    · rw [after, ← h.successes_eq]
      rfl
  | refused _ full =>
    rcases full with ⟨opened, _⟩ | ⟨_, full⟩
    · cases opened.symm.trans h.halfOpen
    · rw [h.calls_eq] at full
      exact absurd room (Nat.not_lt_of_le full)
  | passed _ closed => cases closed.symm.trans h.halfOpen
  | woken _ opened _ => cases opened.symm.trans h.halfOpen

theorem step_bareSuccess (h : l.InWindow calls successes)
    (below : successes + 1 < l.breaker.cap) :
    (l.step (bareSuccess now : Step ε α)).InWindow (calls + 1) (successes + 1) := by
  have row := l.breaker.report_row .success none (.ok now)
  change Ledger.InWindow (l.follow (l.breaker.report .success none (.ok now)))
    (calls + 1) (successes + 1)
  generalize l.breaker.report .success none (.ok now) = effect at row
  cases row with
  | progressed _ _ _ _ _ =>
    exact ⟨h.halfOpen, congrArg (· + 1) h.calls_eq, congrArg (· + 1) h.successes_eq⟩
  | recovered _ _ _ _ reached =>
    rw [h.successes_eq] at reached
    exact absurd below (Nat.not_lt_of_le reached)
  | healthy _ _ closed _ => cases closed.symm.trans h.halfOpen
  | stale _ stale => cases stale
  | ignored _ opened => cases opened.symm.trans h.halfOpen
  | forgiven _ _ _ closed => cases closed.symm.trans h.halfOpen
  | noted _ _ failure _ _ => cases failure
  | tripped _ _ failure _ _ => cases failure
  | relapsed _ _ failure _ => cases failure

/-- As long as there are probes left, calls get permits. -/
theorem run_keptProbes (h : l.InWindow calls successes) (more : Nat)
    (room : calls + more ≤ l.breaker.cap) :
    (l.run (List.replicate more (keptProbe now : Step ε α))).InWindow (calls + more)
      successes := by
  induction more generalizing l calls with
  | zero => exact h
  | succ more ih =>
    rw [List.replicate_succ, run_cons, Nat.add_comm more 1, ← Nat.add_assoc]
    apply ih (h.step_keptProbe now (by omega))
    rw [cap_step]
    omega

/-- As long as successes are missing, the window goes on, however many calls it has. -/
theorem run_bareSuccesses (h : l.InWindow calls successes) (more : Nat)
    (below : successes + more < l.breaker.cap) :
    (l.run (List.replicate more (bareSuccess now : Step ε α))).InWindow (calls + more)
      (successes + more) := by
  induction more generalizing l calls successes with
  | zero => exact h
  | succ more ih =>
    rw [List.replicate_succ, run_cons, Nat.add_comm more 1, ← Nat.add_assoc, ← Nat.add_assoc]
    apply ih (h.step_bareSuccess now (by omega))
    rw [cap_step]
    omega

end InWindow

section Crowd

variable (name : String) (config : Config) (observers : List Observer) (created : Reading)

/-- As many failures as the configuration asks for open a new circuit. -/
theorem opened_fresh_run :
    let after := (fresh name config observers created).run
      (List.replicate config.sanitize.failureThreshold.toNat (bareFailure created : Step ε α))
    after.breaker.state = .opened ∧ after.breaker.phase.since = created.instant := by
  have positive := (isBalanced_fresh name config observers created False).threshold_pos
  obtain ⟨missing, threshold⟩ :
      ∃ missing, config.sanitize.failureThreshold.toNat = missing + 1 :=
    Nat.exists_eq_add_one_of_ne_zero (Nat.ne_of_gt positive)
  rw [threshold]
  exact opened_of_bareFailures created missing rfl ((Nat.zero_add _).trans threshold.symm)

variable (late : Reading) (probes successes : Nat)

/-- A run that opens a circuit, lets calls in as probes that keep their permits, and then reports
successes without a permit. -/
def crowd : List (Step ε α) :=
  List.replicate config.sanitize.failureThreshold.toNat (bareFailure created) ++
    (List.replicate probes (keptProbe late) ++ List.replicate successes (bareSuccess late))

theorem crowd_succ :
    (crowd config created late probes (successes + 1) : List (Step ε α)) =
      crowd config created late probes successes ++ [bareSuccess late] := by
  simp only [crowd, List.replicate_succ', List.append_assoc]

variable (due : config.sanitize.resetTimeout < created.instant.elapsed late.instant)
  (asked : 0 < probes) (room : probes ≤ config.sanitize.halfOpenMaxCalls.toNat)
  (below : successes < config.sanitize.halfOpenMaxCalls.toNat)

include due asked room below

/-- The calls of a crowd are all counted in one window. -/
theorem inWindow_crowd :
    ((fresh name config observers created).run
      (crowd config created late probes successes : List (Step ε α))).InWindow
        (probes + successes) successes := by
  obtain ⟨opened, since⟩ := opened_fresh_run (ε := ε) (α := α) name config observers created
  have kept := config_fresh_run name config observers created (List.replicate
    config.sanitize.failureThreshold.toNat (bareFailure created : Step ε α))
  obtain ⟨more, rfl⟩ := Nat.exists_eq_add_one_of_ne_zero (Nat.ne_of_gt asked)
  rw [crowd, run_append, run_append]
  generalize (fresh name config observers created).run _ = l at opened since kept ⊢
  have cap : l.breaker.cap = config.sanitize.halfOpenMaxCalls.toNat := by
    rw [Breaker.cap, kept]
  have first : (l.step (keptProbe late : Step ε α)).InWindow 1 0 :=
    inWindow_keptProbe late opened (by rw [Breaker.IsDue, kept, since]; exact due)
  have filled := first.run_keptProbes (ε := ε) (α := α) late more
    (by rw [cap_step, cap]; omega)
  have done := filled.run_bareSuccesses (ε := ε) (α := α) late successes
    (by rw [cap_run, cap_step, cap]; omega)
  rw [Nat.add_comm 1 more, Nat.zero_add] at done
  rwa [List.replicate_succ, run_cons]

/-- A crowd of as many calls as a word can count is broken off by one more success. -/
theorem runBy_crowd (all : probes + successes = maxCount) :
    (fresh name config observers created).runBy .checked
      (crowd config created late probes (successes + 1) : List (Step ε α)) = none := by
  have window := inWindow_crowd (ε := ε) (α := α) name config observers created late probes
    successes due asked room below
  rw [crowd_succ, runBy_append]
  rcases (isBalanced_fresh name config observers created False).runBy_checked
      (crowd config created late probes successes : List (Step ε α)) with broken | done
  · rw [broken]
    rfl
  · rw [done, Option.bind_some, runBy_cons]
    generalize (fresh name config observers created).run _ = l at window ⊢
    have greatest : ¬ l.breaker.phase.halfOpenCalls < maxCount := by
      rw [window.calls_eq, all]
      exact Nat.lt_irrefl maxCount
    have full : l.performBy .checked (bareSuccess late : Step ε α) = none :=
      congrArg (Option.map _)
        (Breaker.reportBy_eq_none window.halfOpen (if_neg greatest) .success late)
    rw [full]
    rfl

end Crowd

section Built

variable (name : String) (config : Config) (observers : List Observer) (created : Reading)

/-- With 2^31 probes or more there is a run with more calls of one window than a word can count. -/
theorem exists_runBy_eq_none (many : UInt32.size / 2 ≤ config.sanitize.halfOpenMaxCalls.toNat) :
    ∃ steps : List (Step ε α),
      (fresh name config observers created).runBy .checked steps = none := by
  let probes := config.sanitize.halfOpenMaxCalls.toNat
  let late : Reading :=
    ⟨⟨created.instant.nanos + config.sanitize.resetTimeout.nanos + 1⟩, created.wall⟩
  have due : config.sanitize.resetTimeout < created.instant.elapsed late.instant := by
    change config.sanitize.resetTimeout.nanos <
      (created.instant.nanos + config.sanitize.resetTimeout.nanos + 1 -
        created.instant.nanos).toNat
    omega
  -- Every probe keeps its permit, and successes without a permit fill the rest of the word.  They
  -- are fewer than the probes, so the window is still open when the word is full.
  have word : probes ≤ maxCount := Nat.le_sub_one_of_lt config.sanitize.halfOpenMaxCalls.toNat_lt
  have half : 2147483648 ≤ probes := many
  have greatest : maxCount = 4294967295 := rfl
  exact ⟨_, runBy_crowd name config observers created late probes (maxCount - probes) due
    (by omega) (Nat.le_refl _) (by omega) (by omega)⟩

/-- How far words carry.  The failures and the successes are never too many for them, and neither
are the calls that hold permits.  The calls of a window that are reported without a permit can be
too many, and they are in some run exactly if the configuration asks for 2^31 probes or more. -/
theorem counts_in_words :
    (∀ (counting : Counting) (steps : List (Step ε α)),
      (∀ count, counting.next .halfOpenCalls count = some (count + 1)) →
        (fresh name config observers created).runBy counting steps =
          some ((fresh name config observers created).run steps)) ∧
    (∀ (counting : Counting) (steps : List (Step ε α)),
      (∀ s ∈ steps, ¬ s.action.IsBare) →
        (fresh name config observers created).runBy counting steps =
          some ((fresh name config observers created).run steps)) ∧
    ((∀ (counting : Counting) (steps : List (Step ε α)),
      (fresh name config observers created).runBy counting steps =
        some ((fresh name config observers created).run steps)) ↔
      config.sanitize.halfOpenMaxCalls.toNat < UInt32.size / 2) := by
  have balanced := isBalanced_fresh name config observers created False
  refine ⟨fun counting steps unlimited => ?_, fun counting steps permitted => ?_,
    fun fits => ?_, fun few counting steps => ?_⟩
  · exact balanced.runBy_eq fun _ _ _ _ _ _ _ => unlimited _
  · exact balanced.runBy_eq fun _ _ _ s member bare => absurd bare (permitted s member)
  · refine Nat.lt_of_not_le fun many => ?_
    obtain ⟨steps, broken⟩ := exists_runBy_eq_none (ε := ε) (α := α) name config observers
      created many
    cases broken.symm.trans (fits .checked steps)
  · refine balanced.runBy_eq fun m kept same _ _ _ => kept.canTake ?_ counting
    rw [Breaker.cap, same]
    exact few

/-- One permit is kept, and as many successes are reported without a permit as a word can
count. -/
theorem bare_successes_overflow :
    (fresh "probe" ⟨1, 10, 4294967295⟩ [] ⟨⟨0⟩, Clock.origin⟩).runBy .checked
      ((⟨.record .failure, .ok ⟨⟨0⟩, Clock.origin⟩⟩ : Step Unit Unit) ::
        ⟨.acquire, .ok ⟨⟨20000000⟩, Clock.origin⟩⟩ ::
        List.replicate 4294967295 ⟨.record .success, .ok ⟨⟨20000000⟩, Clock.origin⟩⟩) = none := by
  have due : Config.resetTimeout ⟨1, 10, 4294967295⟩ < Instant.elapsed ⟨0⟩ ⟨20000000⟩ := by
    decide
  exact runBy_crowd "probe" ⟨1, 10, 4294967295⟩ [] ⟨⟨0⟩, Clock.origin⟩
    ⟨⟨20000000⟩, Clock.origin⟩ 1 4294967294 due (by decide) (by decide) (by decide) rfl

end Built

end Ledger

end GuardedCache.Circuit
