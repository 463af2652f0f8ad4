import GuardedCache.Proofs.Circuit.Accounting

/-!
# Probes

A half-open window decides whether a circuit closes again.  No more permits
are issued in it than the configuration allows, whoever asks for them, so no
more guarded calls start in it either.  If outcomes are reported with permits
only, then the window closes the circuit exactly when the last of all those
permits has succeeded, and any one that fails opens it again.
-/

namespace GuardedCache.Circuit.Ledger

variable {ε α : Type} {permitsOnly : Prop} {l : Ledger}

/-! ## How many permits a window issues -/

/-- The permits of a window that were issued to guarded calls, one for each
work that was started. -/
def worksIn (l : Ledger) (window : Nat) : List Slip :=
  (l.issuedIn window).filter fun slip => slip.working

theorem length_issuedIn (l : Ledger) (window : Nat) :
    (l.issuedIn window).length = tally l.slips window anyFate := by
  rw [issuedIn, tally, ← List.countP_eq_length_filter]
  apply List.countP_congr
  simp [anyFate]

theorem length_worksIn_le (l : Ledger) (window : Nat) :
    (l.worksIn window).length ≤ (l.issuedIn window).length :=
  List.length_filter_le _ _

/-- Half-open windows keep to a number of probes. -/
structure KeepsCap (l : Ledger) (cap : Nat) : Prop where
  issued : ∀ window, l.states[window]? = some .halfOpen → (l.issuedIn window).length ≤ cap
  works : ∀ window, l.states[window]? = some .halfOpen → (l.worksIn window).length ≤ cap
  probe_iff : ∀ slip ∈ l.slips,
    slip.permit.probe = true ↔ l.states[slip.window]? = some .halfOpen

theorem IsBalanced.keepsCap (h : l.IsBalanced permitsOnly) : l.KeepsCap l.breaker.cap where
  issued window halfOpen := by
    rw [length_issuedIn]
    exact h.capped window halfOpen
  works window halfOpen := by
    have issued := h.capped window halfOpen
    rw [← length_issuedIn] at issued
    exact Nat.le_trans (l.length_worksIn_le window) issued
  probe_iff := h.slip_probe

/-- In every run a half-open window issues at most as many permits as the
configuration allows, and a permit is a probe exactly if it was issued in such
a window. -/
theorem probes_capped (name : String) (config : Config) (observers : List Observer)
    (created : Reading) (steps : List (Step ε α)) :
    ((fresh name config observers created).run steps).KeepsCap
      config.sanitize.halfOpenMaxCalls.toNat := by
  rw [← config_fresh_run name config observers created steps]
  exact (isBalanced_run name config observers created steps).keepsCap

/-! ## When a half-open window ends -/

/-- A success of the last open probe of the current window, all others of
which have succeeded, with as many probes as there can be. -/
def CompletesWindow (l : Ledger) (cap : Nat) (s : Step ε α) : Prop :=
  ∃ number slip now,
    s.action.resolution? = some (number, .success) ∧ s.glance = .ok now ∧
      l.held? number = some slip ∧ slip.window = l.window ∧
      (l.issuedIn l.window).length = cap ∧
      ∀ index other, l.slips[index]? = some other → other.window = l.window →
        other.permit.probe = true ∧ (index ≠ number → other.fate = .settled .success)

/-- A failure of a probe of the current window. -/
def FailsProbe (l : Ledger) (s : Step ε α) : Prop :=
  ∃ number slip now,
    s.action.resolution? = some (number, .failure) ∧ s.glance = .ok now ∧
      l.held? number = some slip ∧ slip.window = l.window

theorem breaker_resolve {number : Nat} {slip : Slip} (held : l.held? number = some slip)
    (outcome : Outcome) (glance : Glance) :
    (l.resolve number outcome glance).2.breaker =
      (l.breaker.report outcome (some slip.permit) glance).breaker := by
  rw [resolve, held]
  rfl

/-- Of the permits of a window, all but the one at hand have succeeded. -/
theorem tally_unsuccessful_eq_one_iff {slips : List Slip} {number : Nat} {slip : Slip}
    (found : slips[number]? = some slip) (pending : slip.fate = .pending) :
    (tally slips slip.window fun fate => !fate.isSuccess) = 1 ↔
      ∀ index other, slips[index]? = some other → other.window = slip.window →
        index ≠ number → other.fate = .settled .success := by
  have moved := tally_markSlip slips slip.window (fun fate => !fate.isSuccess) found
    (.settled .success)
  rw [pending, if_pos ⟨rfl, rfl⟩, if_neg (by simp [Fate.isSuccess])] at moved
  have zero : (tally slips slip.window fun fate => !fate.isSuccess) = 1 ↔
      (tally (markSlip slips number (.settled .success))
        slip.window fun fate => !fate.isSuccess) = 0 := by
    omega
  rw [zero, tally_eq_zero_iff]
  constructor
  · intro all index other get same different
    have kept : (markSlip slips number (.settled .success))[index]? = some other := by
      rw [getElem?_markSlip, get, Option.map_some, if_neg (Ne.symm different)]
    have succeeded := all other (List.mem_of_getElem? kept) same
    rwa [Bool.not_eq_false', Fate.isSuccess_eq_true_iff] at succeeded
  · intro all other member same
    obtain ⟨index, get⟩ := List.mem_iff_getElem?.mp member
    rw [getElem?_markSlip] at get
    obtain ⟨original, there, rfl⟩ := Option.map_eq_some_iff.mp get
    by_cases here : number = index
    · rw [if_pos here]
      rfl
    · rw [if_neg here] at same ⊢
      rw [all index original there same (Ne.symm here)]
      rfl

/-- The success of a probe is the last one that is needed exactly if all
others have succeeded and there are no more to come. -/
theorem IsBalanced.reached_iff (h : l.IsBalanced True) (halfOpen : l.breaker.state = .halfOpen)
    {number : Nat} {slip : Slip} (found : l.slips[number]? = some slip)
    (pending : slip.fate = .pending) (current : slip.window = l.window) :
    l.breaker.cap ≤ l.breaker.phase.successes + 1 ↔
      (l.issuedIn l.window).length = l.breaker.cap ∧
        ∀ index other, l.slips[index]? = some other → other.window = l.window →
          index ≠ number → other.fate = .settled .success := by
  have successes : tally l.slips l.window Fate.isSuccess = l.breaker.phase.successes :=
    (Balanced.halfOpen h halfOpen).sole trivial
  have capped : tally l.slips l.window anyFate ≤ l.breaker.cap := h.tally_window_le halfOpen
  have split := tally_anyFate_eq_add l.slips l.window Fate.isSuccess
  have others := tally_unsuccessful_eq_one_iff found pending
  rw [current] at others
  have open_ : (tally l.slips l.window fun fate => !fate.isSuccess) ≠ 0 := by
    intro none
    have := (tally_eq_zero_iff ..).mp none slip (List.mem_of_getElem? found) current
    rw [pending] at this
    cases this
  rw [← others, length_issuedIn]
  omega

/-- What the report of a permit does to a half-open circuit. -/
theorem IsBalanced.state_resolve (h : l.IsBalanced permitsOnly)
    (halfOpen : l.breaker.state = .halfOpen) {number : Nat} {slip : Slip}
    (held : l.held? number = some slip) (outcome : Outcome) (now : Reading) :
    (l.resolve number outcome (.ok now)).2.breaker.state =
      if slip.window = l.window then l.breaker.afterProbe outcome else .halfOpen := by
  have member := mem_of_held? held
  have fresh := h.isStale_eq_false_iff member
  rw [breaker_resolve held, Breaker.state_report halfOpen]
  by_cases current : slip.window = l.window
  · rw [fresh.mpr current, if_neg Bool.false_ne_true, if_pos current]
  · rw [if_pos (by rwa [← Bool.not_eq_false, fresh]), if_neg current]

/-- A half-open circuit stays so unless an outcome is reported or it is reset. -/
theorem state_step_of_halfOpen (halfOpen : l.breaker.state = .halfOpen) {s : Step ε α}
    (permitted : ¬ s.action.IsBare) (other : s.action ≠ .reset)
    (unresolved : s.action.resolution? = none) : (l.step s).breaker.state = .halfOpen := by
  apply step_cases (P := fun after => after.breaker.state = .halfOpen)
  · exact Breaker.state_allow halfOpen s.glance
  · intro working
    rw [breaker_acquire]
    exact Breaker.state_acquire halfOpen s.glance
  · intro number outcome resolution
    cases unresolved.symm.trans resolution
  · intro outcome record
    rw [record] at permitted
    exact absurd trivial permitted
  · exact fun reset => absurd reset other
  · exact fun _ => halfOpen

/-- The report that closes a half-open circuit completes its window. -/
theorem IsBalanced.completes_of_closes (h : l.IsBalanced True)
    (halfOpen : l.breaker.state = .halfOpen) {s : Step ε α} {number : Nat} {outcome : Outcome}
    (resolution : s.action.resolution? = some (number, outcome))
    (closed : (l.step s).breaker.state = .closed) : l.CompletesWindow l.breaker.cap s := by
  rw [step_of_resolution resolution] at closed
  cases held : l.held? number with
  | none =>
    rw [Ledger.resolve, held] at closed
    cases halfOpen.symm.trans closed
  | some slip =>
    obtain ⟨found, pending⟩ := held?_eq_some_iff.mp held
    cases glance : s.glance with
    | error fault =>
      rw [glance, breaker_resolve held, Breaker.state_report_error halfOpen] at closed
      cases closed
    | ok now =>
      rw [glance, h.state_resolve halfOpen held] at closed
      by_cases current : slip.window = l.window
      · rw [if_pos current, Breaker.afterProbe_eq_closed_iff] at closed
        obtain ⟨rfl, reached⟩ := closed
        obtain ⟨all, others⟩ := (h.reached_iff halfOpen found pending current).mp reached
        refine ⟨number, slip, now, resolution, glance, held, current, all, ?_⟩
        intro index other get same
        exact ⟨h.probe_of_halfOpen halfOpen (List.mem_of_getElem? get) same,
          others index other get same⟩
      · rw [if_neg current] at closed
        cases closed

/-- A half-open circuit whose outcomes are reported with permits closes, other
than by a reset, exactly when its window is completed. -/
theorem IsBalanced.closes_iff (h : l.IsBalanced True) (halfOpen : l.breaker.state = .halfOpen)
    {s : Step ε α} (permitted : ¬ s.action.IsBare) :
    (l.step s).breaker.state = .closed ∧ s.action ≠ .reset ↔
      l.CompletesWindow l.breaker.cap s := by
  constructor
  · rintro ⟨closed, other⟩
    cases resolution : s.action.resolution? with
    | none =>
      rw [state_step_of_halfOpen halfOpen permitted other resolution] at closed
      cases closed
    | some report => exact h.completes_of_closes halfOpen resolution closed
  · rintro ⟨number, slip, now, resolution, glance, held, current, all, others⟩
    obtain ⟨found, pending⟩ := held?_eq_some_iff.mp held
    have reached := (h.reached_iff halfOpen found pending current).mpr
      ⟨all, fun index other get same => (others index other get same).2⟩
    constructor
    · rw [step_of_resolution resolution, glance, h.state_resolve halfOpen held,
        if_pos current, Breaker.afterProbe_eq_closed_iff]
      exact ⟨rfl, reached⟩
    · intro reset
      rw [reset] at resolution
      cases resolution

theorem IsBalanced.opens_of_failsProbe (h : l.IsBalanced permitsOnly)
    (halfOpen : l.breaker.state = .halfOpen) {s : Step ε α} (fails : l.FailsProbe s) :
    (l.step s).breaker.state = .opened := by
  obtain ⟨number, slip, now, resolution, glance, held, current⟩ := fails
  rw [step_of_resolution resolution, glance, h.state_resolve halfOpen held, if_pos current]
  rfl

/-- If outcomes are reported with permits only, a half-open circuit closes,
other than by a reset, exactly when the last of all the probes of its window
succeeds, and it opens at once when one of them fails while the clock can be
read. -/
theorem halfOpen_verdict (name : String) (config : Config) (observers : List Observer)
    (created : Reading) {steps : List (Step ε α)} {s : Step ε α}
    (permitted : ∀ t ∈ steps ++ [s], ¬ t.action.IsBare)
    (halfOpen :
      ((fresh name config observers created).run steps).breaker.state = .halfOpen) :
    ((((fresh name config observers created).run steps).step s).breaker.state = .closed ∧
        s.action ≠ .reset ↔
      ((fresh name config observers created).run steps).CompletesWindow
        config.sanitize.halfOpenMaxCalls.toNat s) ∧
    (((fresh name config observers created).run steps).FailsProbe s →
      (((fresh name config observers created).run steps).step s).breaker.state = .opened) := by
  have balanced := (isBalanced_fresh name config observers created True).run
    fun t (member : t ∈ steps) _ => permitted t (List.mem_append_left [s] member)
  have last : ¬ s.action.IsBare := permitted s (List.mem_append_right steps (by simp))
  rw [← config_fresh_run name config observers created steps]
  exact ⟨balanced.closes_iff halfOpen last, balanced.opens_of_failsProbe halfOpen⟩

/-- A call that fails, and a probe that is asked for 20 ms later. -/
def wakingSteps : List (Step Unit Unit) :=
  [⟨.acquire, .ok ⟨⟨0⟩, Clock.origin⟩⟩,
    ⟨.settle 0 .failure, .ok ⟨⟨0⟩, Clock.origin⟩⟩,
    ⟨.start, .ok ⟨⟨20000000⟩, Clock.origin⟩⟩]

/-- The same with a second probe, which has succeeded already. -/
def secondProbeSteps : List (Step Unit Unit) :=
  wakingSteps ++ [⟨.acquire, .ok ⟨⟨20000000⟩, Clock.origin⟩⟩,
    ⟨.settle 2 .success, .ok ⟨⟨20000000⟩, Clock.origin⟩⟩]

/-- The first of two probes completes the window if it succeeds after the other one, and opens
the circuit if it is cancelled. -/
theorem halfOpen_verdict_of_two_probes :
    ((fresh "probe" ⟨1, 10, 2⟩ [] ⟨⟨0⟩, Clock.origin⟩).run secondProbeSteps).CompletesWindow 2
        (⟨.finish 1 (.done ()), .ok ⟨⟨20000000⟩, Clock.origin⟩⟩ : Step Unit Unit) ∧
      (((fresh "probe" ⟨1, 10, 2⟩ [] ⟨⟨0⟩, Clock.origin⟩).run secondProbeSteps).step
        (⟨.finish 1 .cancelled, .ok ⟨⟨20000000⟩, Clock.origin⟩⟩ :
          Step Unit Unit)).breaker.state = .opened := by
  constructor
  · exact (halfOpen_verdict "probe" ⟨1, 10, 2⟩ [] ⟨⟨0⟩, Clock.origin⟩
      (by simp [secondProbeSteps, wakingSteps, Action.IsBare]) (by decide)).1.mp
      ⟨by decide, nofun⟩
  · exact (halfOpen_verdict "probe" ⟨1, 10, 2⟩ [] ⟨⟨0⟩, Clock.origin⟩
      (by simp [secondProbeSteps, wakingSteps, Action.IsBare]) (by decide)).2
      ⟨1, ⟨⟨2, true⟩, 2, true, .pending⟩, _, rfl, rfl, by decide, by decide⟩

/-- A probe that is given up when the clock cannot be read does not open the
circuit. -/
theorem unread_failure_keeps_halfOpen :
    ¬ ∀ (name : String) (config : Config) (observers : List Observer) (created : Reading)
        (steps : List (Step Unit Unit)) (s : Step Unit Unit) (number : Nat) (slip : Slip),
      (∀ t ∈ steps ++ [s], ¬ t.action.IsBare) →
      ((fresh name config observers created).run steps).breaker.state = .halfOpen →
      s.action.resolution? = some (number, .failure) →
      ((fresh name config observers created).run steps).held? number = some slip →
      slip.window = ((fresh name config observers created).run steps).window →
      (((fresh name config observers created).run steps).step s).breaker.state = .opened := by
  intro all
  have opened := all "probe" ⟨1, 10, 1⟩ [] ⟨⟨0⟩, Clock.origin⟩ wakingSteps
    ⟨.discard 1, .error .instantOverflow⟩ 1 ⟨⟨2, true⟩, 2, true, .pending⟩
    (by simp [wakingSteps, Action.IsBare]) (by decide) rfl (by decide) (by decide)
  revert opened
  decide

end GuardedCache.Circuit.Ledger
