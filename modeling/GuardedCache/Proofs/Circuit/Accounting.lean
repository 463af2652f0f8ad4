import GuardedCache.Proofs.Circuit.Balance

/-!
# The accounts of a run

Every step of a ledger keeps its accounts balanced, whoever acts and whatever
the clock shows, so they balance after every run of a breaker that was just
built.  `Accounts` says what that means for the counters of the breaker: which
values they can have in each state, and that the probes of a half-open circuit
that are not yet successes are exactly the permits that are still held,
together with those that the clock took from their holders.
-/

namespace GuardedCache.Circuit

namespace Ledger

variable {ε α : Type} {permitsOnly : Prop} {l : Ledger}

/-- The counters of the breaker agree with the permits of the ledger, and if
`permitsOnly`, then there was no other way to report an outcome. -/
def IsBalanced (permitsOnly : Prop) (l : Ledger) : Prop :=
  Balanced permitsOnly l.breaker.config l.breaker.phase l.slips l.past

/-! ## What an operation of the breaker does to the windows -/

theorem follow_of_eq {β : Type} {effect : Effect β}
    (same : effect.breaker.state = l.breaker.state) :
    l.follow effect =
      { l with breaker := effect.breaker, journal := l.journal ++ effect.events } := by
  rw [follow, if_pos same]

theorem follow_of_ne {β : Type} {effect : Effect β}
    (other : effect.breaker.state ≠ l.breaker.state) :
    l.follow effect =
      { l with
        breaker := effect.breaker
        past := l.past ++ [l.breaker.state]
        journal := l.journal ++ effect.events } := by
  rw [follow, if_neg other]

theorem held?_eq_some_iff {number : Nat} {slip : Slip} :
    l.held? number = some slip ↔ l.slips[number]? = some slip ∧ slip.fate = .pending := by
  simp [held?, Option.filter_eq_some_iff]

theorem mem_of_held? {number : Nat} {slip : Slip} (held : l.held? number = some slip) :
    slip ∈ l.slips :=
  List.mem_of_getElem? (held?_eq_some_iff.mp held).1

namespace IsBalanced

/-- An operation that leaves the phase alone keeps the balance. -/
theorem follow_still {β : Type} (h : l.IsBalanced permitsOnly) {effect : Effect β}
    (config : effect.breaker.config = l.breaker.config)
    (phase : effect.breaker.phase = l.breaker.phase) :
    (l.follow effect).IsBalanced permitsOnly := by
  rw [follow_of_eq (congrArg Phase.state phase)]
  change Balanced permitsOnly effect.breaker.config effect.breaker.phase l.slips l.past
  rw [config, phase]
  exact h

/-- A transition keeps the balance. -/
theorem follow_enter {β : Type} (h : l.IsBalanced permitsOnly) (target : State) (now : Reading)
    {effect : Effect β} (other : target ≠ l.breaker.state)
    (config : effect.breaker.config = l.breaker.config)
    (phase : effect.breaker.phase = (l.breaker.enter target now).phase) :
    (l.follow effect).IsBalanced permitsOnly := by
  have state : effect.breaker.state = target := congrArg Phase.state phase
  rw [follow_of_ne (by rw [state]; exact other)]
  change Balanced permitsOnly effect.breaker.config effect.breaker.phase l.slips
    (l.past ++ [l.breaker.phase.state])
  rw [config, phase]
  exact Balanced.enter h rfl rfl rfl rfl

/-! ## Every step keeps the balance -/

theorem allow (h : l.IsBalanced permitsOnly) (glance : Glance) :
    (l.allow glance).2.IsBalanced permitsOnly := by
  have row := l.breaker.allowance glance
  rw [Ledger.allow]
  generalize l.breaker.allow glance = effect at row ⊢
  cases row with
  | unread fault => exact h.follow_still rfl rfl
  | passed now room => exact h.follow_still rfl rfl
  | refused now full => exact h.follow_still rfl rfl
  | woken now opened due =>
    exact h.follow_enter .halfOpen now (by rw [opened]; decide) rfl rfl

theorem acquire (h : l.IsBalanced permitsOnly) (working : Bool) (glance : Glance) :
    (l.acquire working glance).2.IsBalanced permitsOnly := by
  have row := l.breaker.acquisition glance
  rw [Ledger.acquire]
  generalize l.breaker.acquire glance = effect at row ⊢
  cases row with
  | unread fault => exact h.follow_still rfl rfl
  | refused now full => exact h.follow_still rfl rfl
  | passed now closed =>
    simp only
    rw [follow_of_eq rfl]
    have closed : l.breaker.phase.state = .closed := closed
    exact Balanced.hand h false (by rw [closed]; decide) (by rw [closed]; decide)
      (fun halfOpen => by cases closed.symm.trans halfOpen) working
  | reserved now halfOpen room =>
    simp only
    rw [follow_of_eq rfl]
    have halfOpen : l.breaker.phase.state = .halfOpen := halfOpen
    exact Balanced.hand h true (by rw [halfOpen]; decide) (by rw [halfOpen]; decide)
      (fun _ => room) working
  | woken now opened due =>
    simp only
    rw [follow_of_ne (by rw [opened]; exact fun same => by cases same)]
    have entered : Balanced permitsOnly l.breaker.config (l.breaker.enter .halfOpen now).phase
        l.slips (l.past ++ [l.breaker.phase.state]) := Balanced.enter h rfl rfl rfl rfl
    exact entered.hand true (Iff.intro (fun _ => rfl) (fun _ => rfl))
      (fun opened => by cases opened) (fun _ => h.cap_pos) working

/-- A permit of the current window is not stale, and no other one is fresh. -/
theorem isStale_eq_false_iff (h : l.IsBalanced permitsOnly) {slip : Slip}
    (member : slip ∈ l.slips) :
    l.breaker.isStale (some slip.permit) = false ↔ slip.window = l.window := by
  have epoch : l.breaker.phase.epoch = l.past.length := h.epoch_eq
  simp only [Breaker.isStale, h.slip_epoch slip member, epoch, window, decide_eq_false_iff_not,
    Decidable.not_not, ne_eq]

theorem isStale_of_window_ne (h : l.IsBalanced permitsOnly) {slip : Slip}
    (member : slip ∈ l.slips) (other : slip.window ≠ l.window) :
    l.breaker.isStale (some slip.permit) = true := by
  rw [← Bool.not_eq_false, h.isStale_eq_false_iff member]
  exact other

/-- An outcome in a closed circuit may set the failures to anything below the threshold. -/
theorem follow_failures {β : Type} (h : l.IsBalanced permitsOnly) {effect : Effect β}
    (closed : l.breaker.state = .closed) (config : effect.breaker.config = l.breaker.config)
    {failures : Nat} (below : failures < l.breaker.threshold)
    (phase : effect.breaker.phase = { l.breaker.phase with failures }) :
    (l.follow effect).IsBalanced permitsOnly := by
  have same : effect.breaker.state = l.breaker.state := by
    rw [Breaker.state, phase]
    rfl
  rw [follow_of_eq same]
  change Balanced permitsOnly effect.breaker.config effect.breaker.phase l.slips l.past
  rw [config, phase]
  exact Balanced.setFailures h closed below

theorem mark (h : l.IsBalanced permitsOnly) {number : Nat} {slip : Slip} {fate : Fate}
    (found : l.slips[number]? = some slip) (pending : slip.fate = .pending)
    (aside : l.breaker.state = .halfOpen → slip.window = l.window →
      fate.isSuccess = false ∧ fate.isFailure = false) :
    (l.mark number fate).IsBalanced permitsOnly :=
  Balanced.mark h found pending aside

/-- A report that leaves the phase alone only makes the fate of its permit known. -/
theorem mark_still {β : Type} (h : l.IsBalanced permitsOnly) {effect : Effect β}
    (config : effect.breaker.config = l.breaker.config)
    (phase : effect.breaker.phase = l.breaker.phase) {number : Nat} {slip : Slip} {fate : Fate}
    (found : l.slips[number]? = some slip) (pending : slip.fate = .pending)
    (aside : l.breaker.state = .halfOpen → slip.window = l.window →
      fate.isSuccess = false ∧ fate.isFailure = false) :
    ((l.follow effect).mark number fate).IsBalanced permitsOnly := by
  rw [follow_of_eq (congrArg Phase.state phase)]
  change Balanced permitsOnly effect.breaker.config effect.breaker.phase _ l.past
  rw [config, phase]
  exact Balanced.mark h found pending aside

/-- A report that ends the window of its permit makes the fate of the permit
known when that window is over. -/
theorem mark_enter {β : Type} (h : l.IsBalanced permitsOnly) (target : State) (now : Reading)
    {effect : Effect β} (other : target ≠ l.breaker.state)
    (config : effect.breaker.config = l.breaker.config)
    (phase : effect.breaker.phase = (l.breaker.enter target now).phase)
    {number : Nat} {slip : Slip} {fate : Fate}
    (found : l.slips[number]? = some slip) (pending : slip.fate = .pending) :
    ((l.follow effect).mark number fate).IsBalanced permitsOnly := by
  have earlier : slip.window ≤ l.past.length :=
    h.slip_window slip (List.mem_of_getElem? found)
  have entered := h.follow_enter target now other config phase
  have state : effect.breaker.state = target := congrArg Phase.state phase
  rw [follow_of_ne (by rw [state]; exact other)] at entered ⊢
  refine Balanced.mark entered found pending fun _ same => ?_
  simp only [List.length_append, List.length_singleton] at same
  omega

theorem resolve (h : l.IsBalanced permitsOnly) (number : Nat) (outcome : Outcome)
    (glance : Glance) : (l.resolve number outcome glance).2.IsBalanced permitsOnly := by
  rw [Ledger.resolve]
  cases held : l.held? number with
  | none => exact h
  | some slip =>
    obtain ⟨found, pending⟩ := held?_eq_some_iff.mp held
    have current := h.isStale_eq_false_iff (List.mem_of_getElem? found)
    have row := l.breaker.report_row outcome (some slip.permit) glance
    simp only [Breaker.settle]
    generalize l.breaker.report outcome (some slip.permit) glance = effect at row ⊢
    cases row with
    | healthy glance success closed clean =>
      exact h.mark_still rfl rfl found pending fun halfOpen => by
        cases closed.symm.trans halfOpen
    | unread fault unhealthy =>
      exact h.mark_still rfl rfl found pending fun _ _ => ⟨rfl, rfl⟩
    | stale now stale =>
      refine h.mark_still rfl rfl found pending fun _ same => ?_
      rw [current.mpr same] at stale
      cases stale
    | ignored now opened =>
      exact h.mark_still rfl rfl found pending fun halfOpen => by
        cases opened.symm.trans halfOpen
    | forgiven now fresh success closed =>
      refine IsBalanced.mark ?_ found pending ?_
      · exact h.follow_failures closed rfl h.threshold_pos rfl
      · intro halfOpen _
        cases closed.symm.trans halfOpen
    | noted now fresh failure closed below =>
      refine IsBalanced.mark ?_ found pending ?_
      · exact h.follow_failures closed rfl below rfl
      · intro halfOpen _
        cases closed.symm.trans halfOpen
    | tripped now fresh failure closed reached =>
      exact h.mark_enter .opened now (by rw [closed]; decide) rfl rfl found pending
    | progressed now fresh success halfOpen below =>
      subst success
      rw [follow_of_eq rfl]
      simp only [Option.isSome_some, if_true, Nat.add_zero]
      exact Balanced.succeedProbe h halfOpen below found pending (current.mp fresh)
    | recovered now fresh success halfOpen reached =>
      exact h.mark_enter .closed now (by rw [halfOpen]; decide) rfl rfl found pending
    | relapsed now fresh failure halfOpen =>
      exact h.mark_enter .opened now (by rw [halfOpen]; decide) rfl rfl found pending

theorem record (h : l.IsBalanced permitsOnly) (mixed : ¬ permitsOnly) (outcome : Outcome)
    (glance : Glance) : (l.record outcome glance).2.IsBalanced permitsOnly := by
  have row := l.breaker.report_row outcome none glance
  rw [Ledger.record]
  simp only [Breaker.record]
  generalize l.breaker.report outcome none glance = effect at row ⊢
  cases row with
  | healthy glance success closed clean => exact h.follow_still rfl rfl
  | unread fault unhealthy => exact h.follow_still rfl rfl
  | stale now stale => exact h.follow_still rfl rfl
  | ignored now opened => exact h.follow_still rfl rfl
  | forgiven now fresh success closed =>
    exact h.follow_failures closed rfl h.threshold_pos rfl
  | noted now fresh failure closed below => exact h.follow_failures closed rfl below rfl
  | tripped now fresh failure closed reached =>
    exact h.follow_enter .opened now (by rw [closed]; decide) rfl rfl
  | progressed now fresh success halfOpen below =>
    rw [follow_of_eq rfl]
    exact Balanced.succeed h mixed halfOpen below
  | recovered now fresh success halfOpen reached =>
    exact h.follow_enter .closed now (by rw [halfOpen]; decide) rfl rfl
  | relapsed now fresh failure halfOpen =>
    exact h.follow_enter .opened now (by rw [halfOpen]; decide) rfl rfl

theorem reset (h : l.IsBalanced permitsOnly) (glance : Glance) :
    (l.reset glance).2.IsBalanced permitsOnly := by
  have row := l.breaker.closure glance
  rw [Ledger.reset]
  generalize l.breaker.reset glance = effect at row ⊢
  cases row with
  | unread fault => exact h.follow_still rfl rfl
  | cleared now closed =>
    -- the other two counters of a closed circuit are zero already
    obtain ⟨_, successes, calls⟩ := Balanced.closed h closed
    refine h.follow_failures closed rfl h.threshold_pos ?_
    simp only [successes, calls]
  | closed now open_ => exact h.follow_enter .closed now open_.symm rfl rfl

theorem step (h : l.IsBalanced permitsOnly) (s : Step ε α)
    (allowed : permitsOnly → ¬ s.action.IsBare) : (l.step s).IsBalanced permitsOnly := by
  apply step_cases (P := IsBalanced permitsOnly)
  · exact h.allow s.glance
  · exact fun working => h.acquire working s.glance
  · exact fun number outcome _ => h.resolve number outcome s.glance
  · intro outcome record
    rw [record] at allowed
    exact h.record (fun only => allowed only trivial) outcome s.glance
  · exact fun _ => h.reset s.glance
  · exact fun _ => h

theorem run (h : l.IsBalanced permitsOnly) {steps : List (Step ε α)}
    (allowed : ∀ s ∈ steps, permitsOnly → ¬ s.action.IsBare) :
    (l.run steps).IsBalanced permitsOnly :=
  run_induction (fun s => permitsOnly → ¬ s.action.IsBare) h
    (fun _ s permitted balanced => balanced.step s permitted) allowed

end IsBalanced

/-! ## Runs of a breaker that was just built -/

section Built

variable (name : String) (config : Config) (observers : List Observer) (created : Reading)

theorem isBalanced_fresh (permitsOnly : Prop) :
    (fresh name config observers created).IsBalanced permitsOnly := by
  obtain ⟨threshold, _, cap⟩ :=
    config.sanitize.invalidField_eq_none_iff.mp config.invalidField_sanitize
  have pos : ∀ field : UInt32, field ≠ 0 → 0 < field.toNat := by
    intro field nonzero
    exact Nat.pos_of_ne_zero fun zero => nonzero (UInt32.toNat_inj.mp zero)
  exact {
    threshold_pos := pos _ threshold
    cap_pos := pos _ cap
    epoch_eq := rfl
    slip_epoch := nofun
    slip_window := nofun
    slip_probe := nofun
    capped := fun _ _ => Nat.zero_le _
    closed := fun _ => ⟨pos _ threshold, rfl, rfl⟩
    opened := nofun
    halfOpen := nofun }

theorem isBalanced_run (steps : List (Step ε α)) :
    ((fresh name config observers created).run steps).IsBalanced False :=
  (isBalanced_fresh name config observers created False).run fun _ _ => False.elim

theorem config_fresh_run (steps : List (Step ε α)) :
    ((fresh name config observers created).run steps).breaker.config = config.sanitize :=
  config_run _ steps

end Built

/-! ## Permits that the clock took -/

/-- No report was broken off. -/
def HasNoLoss (l : Ledger) : Prop := ∀ slip ∈ l.slips, slip.fate.isLost = false

theorem hasNoLoss_fresh (name : String) (config : Config) (observers : List Observer)
    (created : Reading) : (fresh name config observers created).HasNoLoss := by
  intro slip member
  cases member

theorem HasNoLoss.acquire (h : l.HasNoLoss) (working : Bool) (glance : Glance) :
    (l.acquire working glance).2.HasNoLoss := by
  intro slip member
  rcases mem_acquire member with member | pending
  · exact h slip member
  · rw [pending]
    rfl

theorem HasNoLoss.resolve (h : l.HasNoLoss) (number : Nat) (outcome : Outcome) (now : Reading) :
    (l.resolve number outcome (.ok now)).2.HasNoLoss := by
  rw [Ledger.resolve]
  cases l.held? number with
  | none => exact h
  | some held =>
    simp only [Breaker.settle, Breaker.report_ok_answer]
    intro slip member
    obtain ⟨original, known, rfl | rfl⟩ := mem_markSlip member
    · exact h slip known
    · rfl

/-- While the clock can be read, no report is broken off. -/
theorem HasNoLoss.step (h : l.HasNoLoss) {s : Step ε α} (readable : s.IsReadable) :
    (l.step s).HasNoLoss := by
  obtain ⟨now, glance⟩ := readable
  apply step_cases (P := HasNoLoss)
  · exact h
  · exact fun working => h.acquire working s.glance
  · intro number outcome _
    rw [glance]
    exact h.resolve number outcome now
  · exact fun _ _ => h
  · exact fun _ => h
  · exact fun _ => h

theorem HasNoLoss.run (h : l.HasNoLoss) {steps : List (Step ε α)}
    (readable : ∀ s ∈ steps, s.IsReadable) : (l.run steps).HasNoLoss :=
  run_induction Step.IsReadable h (fun _ _ clear kept => kept.step clear) readable

/-! ## What balanced accounts mean for the counters -/

/-- The permits of the current epoch that have a kind of fate. -/
def current (l : Ledger) (kind : Fate → Bool) : List Slip :=
  l.slips.filter fun slip =>
    decide (slip.permit.epoch = l.breaker.phase.epoch) && kind slip.fate

/-- The permits of the current epoch that are still held. -/
def unresolved (l : Ledger) : List Slip := l.current Fate.isPending

/-- The permits of the current epoch that were used up by a report that was
broken off. -/
def forfeited (l : Ledger) : List Slip := l.current Fate.isLost

theorem HasNoLoss.forfeited_eq_nil (h : l.HasNoLoss) : l.forfeited = [] := by
  rw [forfeited, current, List.filter_eq_nil_iff]
  intro slip member
  rw [h slip member, Bool.and_false]
  exact Bool.false_ne_true

/-- What the accounts of a ledger say about the counters of its breaker. -/
structure Accounts (l : Ledger) (config : Config) : Prop where
  config_eq : l.breaker.config = config
  closed : l.breaker.state = .closed →
    l.breaker.phase.failures < config.failureThreshold.toNat ∧
      l.breaker.phase.successes = 0 ∧ l.breaker.phase.halfOpenCalls = 0
  opened : l.breaker.state = .opened →
    l.breaker.phase.failures = 0 ∧ l.breaker.phase.successes = 0 ∧
      l.breaker.phase.halfOpenCalls = 0 ∧ l.unresolved = []
  halfOpen : l.breaker.state = .halfOpen →
    l.breaker.phase.failures = 0 ∧
      l.breaker.phase.successes < config.halfOpenMaxCalls.toNat ∧
      l.breaker.phase.halfOpenCalls =
        l.breaker.phase.successes + (l.unresolved.length + l.forfeited.length) ∧
      (∀ slip ∈ l.unresolved, slip.permit.probe = true) ∧
      l.breaker.phase.halfOpenCalls ≤ 2 * config.halfOpenMaxCalls.toNat - 1
  epoch_le : ∀ slip ∈ l.slips, slip.permit.epoch ≤ l.breaker.phase.epoch

theorem states_window (halfOpen : l.breaker.state = .halfOpen) :
    l.states[l.window]? = some .halfOpen :=
  (Balanced.current_state l.past l.breaker.state).trans (congrArg some halfOpen)

/-- The permits of the current half-open window are probes. -/
theorem IsBalanced.probe_of_halfOpen (h : l.IsBalanced permitsOnly)
    (halfOpen : l.breaker.state = .halfOpen) {slip : Slip} (member : slip ∈ l.slips)
    (current : slip.window = l.window) : slip.permit.probe = true := by
  rw [h.slip_probe slip member, current]
  exact states_window halfOpen

/-- The current half-open window has not issued too many permits. -/
theorem IsBalanced.tally_window_le (h : l.IsBalanced permitsOnly)
    (halfOpen : l.breaker.state = .halfOpen) :
    tally l.slips l.window anyFate ≤ l.breaker.config.halfOpenMaxCalls.toNat :=
  h.capped l.window (states_window halfOpen)

theorem IsBalanced.length_current (h : l.IsBalanced permitsOnly) (kind : Fate → Bool) :
    (l.current kind).length = tally l.slips l.window kind := by
  rw [current, tally, ← List.countP_eq_length_filter]
  apply List.countP_congr
  intro slip member
  rw [h.slip_epoch slip member, show l.breaker.phase.epoch = l.window from h.epoch_eq]

theorem IsBalanced.accounts (h : l.IsBalanced permitsOnly) : l.Accounts l.breaker.config where
  config_eq := rfl
  closed := h.closed
  opened opened := by
    obtain ⟨failures, successes, calls, issued⟩ := h.opened opened
    rw [tally_anyFate] at issued
    refine ⟨failures, successes, calls, List.eq_nil_of_length_eq_zero ?_⟩
    rw [unresolved, h.length_current]
    exact (by omega : tally l.slips l.past.length Fate.isPending = 0)
  halfOpen halfOpen := by
    obtain ⟨failures, successes, failed, succeeded, _, calls⟩ := Balanced.halfOpen h halfOpen
    have issued := h.tally_window_le halfOpen
    have split := tally_anyFate l.slips l.window
    simp only [window] at issued split
    refine ⟨failures, successes, ?_, ?_, ?_⟩
    · rw [unresolved, forfeited, h.length_current, h.length_current]
      rw [window]
      omega
    · intro slip member
      obtain ⟨member, now⟩ := List.mem_filter.mp member
      simp only [Bool.and_eq_true, decide_eq_true_eq] at now
      rw [h.slip_epoch slip member, h.epoch_eq] at now
      exact h.probe_of_halfOpen halfOpen member now.1
    · omega
  epoch_le slip member := by
    rw [h.slip_epoch slip member, h.epoch_eq]
    exact h.slip_window slip member

/-- The accounts of every run of a breaker that was just built.  Unless the
clock cannot be read at some step, no permit is ever forfeited. -/
theorem accounts_run (name : String) (config : Config) (observers : List Observer)
    (created : Reading) (steps : List (Step ε α)) :
    ((fresh name config observers created).run steps).Accounts config.sanitize ∧
      ((∀ s ∈ steps, s.IsReadable) →
        ((fresh name config observers created).run steps).forfeited = []) := by
  refine ⟨?_, fun readable => ?_⟩
  · rw [← config_fresh_run name config observers created steps]
    exact (isBalanced_run name config observers created steps).accounts
  · exact ((hasNoLoss_fresh name config observers created).run readable).forfeited_eq_nil

/-- The permits that are still held do not account for every probe: one that is
settled when the clock cannot be read keeps its place. -/
theorem unresolved_not_all_probes :
    ¬ ∀ (name : String) (config : Config) (observers : List Observer) (created : Reading)
        (steps : List (Step Unit Unit)),
      ((fresh name config observers created).run steps).breaker.state = .halfOpen →
        ((fresh name config observers created).run steps).breaker.phase.halfOpenCalls =
          ((fresh name config observers created).run steps).breaker.phase.successes +
            ((fresh name config observers created).run steps).unresolved.length := by
  intro all
  have broken := all "probe" ⟨1, 10, 1⟩ [] ⟨⟨0⟩, Clock.origin⟩
    [⟨.record .failure, .ok ⟨⟨0⟩, Clock.origin⟩⟩,
      ⟨.acquire, .ok ⟨⟨20000000⟩, Clock.origin⟩⟩,
      ⟨.settle 0 .success, .error .instantOverflow⟩] (by decide)
  revert broken
  decide

end Ledger

end GuardedCache.Circuit
