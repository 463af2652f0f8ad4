import GuardedCache.Proofs.Circuit.Ledger

/-!
# Balanced accounts

The counters of a breaker agree with the permits that its users hold.
`Balanced` ties the phase of a breaker to the permits that were issued and the
windows that are over.  This file says which changes keep it: a transition, a
permit that is handed out, one whose fate becomes known, and the outcomes that
a closed or a half-open circuit takes into account.

A probe whose report is broken off by the clock keeps its place in a half-open
window, although nobody holds its permit any more.  Such permits are counted
beside those that are still held.
-/

namespace GuardedCache.Circuit

namespace Fate

def isPending : Fate → Bool
  | .pending => true
  | _ => false

def isLost : Fate → Bool
  | .lost _ => true
  | _ => false

def isSuccess : Fate → Bool
  | .settled .success => true
  | _ => false

def isFailure : Fate → Bool
  | .settled .failure => true
  | _ => false

theorem isSuccess_eq_true_iff {fate : Fate} :
    fate.isSuccess = true ↔ fate = .settled .success := by
  rcases fate with _ | (_ | _) | _ <;> simp [isSuccess]

end Fate

/-- A change of its fate moves a permit from one count to another. -/
theorem countP_markSlip (kind : Slip → Bool) {slips : List Slip} {number : Nat} {slip : Slip}
    (found : slips[number]? = some slip) (fate : Fate) :
    (markSlip slips number fate).countP kind + (kind slip).toNat =
      slips.countP kind + (kind { slip with fate }).toNat := by
  obtain ⟨inside, _⟩ := List.getElem?_eq_some_iff.mp found
  obtain ⟨before, middle, after, rfl, rfl, modified⟩ :=
    List.exists_of_modify (fun slip : Slip => { slip with fate }) inside
  have here : middle = slip := by simpa using found
  subst here
  rw [markSlip, modified]
  simp only [List.countP_append, List.countP_cons]
  cases kind middle <;> cases kind { middle with fate } <;> simp <;> omega

/-- How many of the permits that were issued in a window have a kind of fate. -/
def tally (slips : List Slip) (window : Nat) (kind : Fate → Bool) : Nat :=
  slips.countP fun slip => decide (slip.window = window) && kind slip.fate

/-- Every permit has some fate. -/
def anyFate : Fate → Bool := fun _ => true

section Tally

variable (slips : List Slip) (window : Nat) (kind : Fate → Bool)

theorem tally_append_singleton (slip : Slip) :
    tally (slips ++ [slip]) window kind =
      tally slips window kind +
        if slip.window = window ∧ kind slip.fate = true then 1 else 0 := by
  simp [tally, List.countP_append, List.countP_singleton]

/-- Marking a permit takes it out of the tallies of its old fate and adds it to
those of its new one. -/
theorem tally_markSlip {number : Nat} {slip : Slip} (found : slips[number]? = some slip)
    (fate : Fate) :
    tally (markSlip slips number fate) window kind +
        (if slip.window = window ∧ kind slip.fate = true then 1 else 0) =
      tally slips window kind +
        (if slip.window = window ∧ kind fate = true then 1 else 0) := by
  have toNat (fate : Fate) : (decide (slip.window = window) && kind fate).toNat =
      if slip.window = window ∧ kind fate = true then 1 else 0 := by
    by_cases here : slip.window = window <;> cases kind fate <;> simp [here]
  rw [← toNat, ← toNat]
  exact countP_markSlip (fun slip => decide (slip.window = window) && kind slip.fate) found fate

/-- A permit is held, lost, or was settled with one of the two outcomes. -/
theorem tally_anyFate :
    tally slips window anyFate =
      tally slips window Fate.isPending + tally slips window Fate.isLost +
        (tally slips window Fate.isSuccess + tally slips window Fate.isFailure) := by
  induction slips with
  | nil => rfl
  | cons slip rest ih =>
    simp only [tally] at ih
    simp only [tally, List.countP_cons, ih]
    rcases slip.fate with _ | (_ | _) | _ <;>
      simp [anyFate, Fate.isPending, Fate.isLost, Fate.isSuccess, Fate.isFailure] <;> omega

theorem tally_anyFate_eq_add :
    tally slips window anyFate =
      tally slips window kind + tally slips window fun fate => !kind fate := by
  induction slips with
  | nil => rfl
  | cons slip rest ih =>
    simp only [tally] at ih
    simp only [tally, List.countP_cons, ih]
    cases kind slip.fate <;> simp [anyFate] <;> omega

theorem tally_eq_zero_iff :
    tally slips window kind = 0 ↔
      ∀ slip ∈ slips, slip.window = window → kind slip.fate = false := by
  simp [tally]

end Tally

/-- The counters of a half-open circuit agree with the permits of its window.
Each permit took a probe when it was issued and each success with a permit is
among the successes; the rest of both counters are calls without a permit, of
which there are none if outcomes are reported with permits only. -/
structure Probing (permitsOnly : Prop) (cap : Nat) (phase : Phase) (slips : List Slip)
    (window : Nat) : Prop where
  failures : phase.failures = 0
  successes : phase.successes < cap
  failed : tally slips window Fate.isFailure = 0
  succeeded : tally slips window Fate.isSuccess ≤ phase.successes
  sole : permitsOnly → tally slips window Fate.isSuccess = phase.successes
  calls : phase.halfOpenCalls + tally slips window Fate.isSuccess =
    phase.successes + tally slips window anyFate

/-- The phase of a breaker agrees with the permits that were issued and the
windows that are over. -/
structure Balanced (permitsOnly : Prop) (config : Config) (phase : Phase) (slips : List Slip)
    (past : List State) : Prop where
  threshold_pos : 0 < config.failureThreshold.toNat
  cap_pos : 0 < config.halfOpenMaxCalls.toNat
  epoch_eq : phase.epoch = past.length
  slip_epoch : ∀ slip ∈ slips, slip.permit.epoch = slip.window
  slip_window : ∀ slip ∈ slips, slip.window ≤ past.length
  slip_probe : ∀ slip ∈ slips,
    slip.permit.probe = true ↔ (past ++ [phase.state])[slip.window]? = some .halfOpen
  capped : ∀ window, (past ++ [phase.state])[window]? = some .halfOpen →
    tally slips window anyFate ≤ config.halfOpenMaxCalls.toNat
  closed : phase.state = .closed →
    phase.failures < config.failureThreshold.toNat ∧ phase.successes = 0 ∧
      phase.halfOpenCalls = 0
  opened : phase.state = .opened →
    phase.failures = 0 ∧ phase.successes = 0 ∧ phase.halfOpenCalls = 0 ∧
      tally slips past.length anyFate = 0
  halfOpen : phase.state = .halfOpen →
    Probing permitsOnly config.halfOpenMaxCalls.toNat phase slips past.length

namespace Balanced

variable {permitsOnly : Prop} {config : Config} {phase : Phase} {slips : List Slip}
  {past : List State}

/-- No permit was issued in a window that has not begun. -/
theorem tally_of_lt (h : Balanced permitsOnly config phase slips past) {window : Nat}
    (later : past.length < window) (kind : Fate → Bool) : tally slips window kind = 0 := by
  rw [tally_eq_zero_iff]
  intro slip member same
  have := h.slip_window slip member
  omega

theorem current_state (past : List State) (state : State) :
    (past ++ [state])[past.length]? = some state := by
  simp

/-- The windows that are over keep their states when another one begins. -/
theorem states_append (past : List State) (state next : State) {window : Nat}
    (earlier : window ≤ past.length) :
    ((past ++ [state]) ++ [next])[window]? = (past ++ [state])[window]? := by
  apply List.getElem?_append_left
  simp only [List.length_append, List.length_singleton]
  omega

/-- A transition to another state begins a window in which nothing has happened. -/
theorem enter (h : Balanced permitsOnly config phase slips past) {next : Phase}
    (epoch : next.epoch = phase.epoch + 1)
    (failures : next.failures = 0) (successes : next.successes = 0)
    (calls : next.halfOpenCalls = 0) :
    Balanced permitsOnly config next slips (past ++ [phase.state]) := by
  have length : (past ++ [phase.state]).length = past.length + 1 := by simp
  have empty : ∀ kind, tally slips (past ++ [phase.state]).length kind = 0 :=
    h.tally_of_lt (by omega)
  exact {
    threshold_pos := h.threshold_pos
    cap_pos := h.cap_pos
    epoch_eq := by rw [epoch, h.epoch_eq, length]
    slip_epoch := h.slip_epoch
    slip_window := by
      intro slip member
      have := h.slip_window slip member
      omega
    slip_probe := by
      intro slip member
      rw [states_append past phase.state next.state (h.slip_window slip member)]
      exact h.slip_probe slip member
    capped := by
      intro window state
      by_cases earlier : window ≤ past.length
      · rw [states_append past phase.state next.state earlier] at state
        exact h.capped window state
      · rw [h.tally_of_lt (by omega)]
        exact Nat.zero_le _
    closed := fun _ => ⟨by rw [failures]; exact h.threshold_pos, successes, calls⟩
    opened := fun _ => ⟨failures, successes, calls, empty anyFate⟩
    halfOpen := fun _ => {
      failures := failures
      successes := by rw [successes]; exact h.cap_pos
      failed := empty Fate.isFailure
      succeeded := by rw [empty]; exact Nat.zero_le _
      sole := fun _ => by rw [empty, successes]
      calls := by rw [empty, empty, successes, calls] } }

theorem tally_markSlip_anyFate {number : Nat} {slip : Slip}
    (found : slips[number]? = some slip) (fate : Fate) (window : Nat) :
    tally (markSlip slips number fate) window anyFate = tally slips window anyFate := by
  simpa [anyFate] using tally_markSlip slips window anyFate found fate

/-- When the fate of a permit becomes known, only the counters of a half-open
circuit are at stake. -/
private theorem markSlip_of_probing (h : Balanced permitsOnly config phase slips past)
    {number : Nat} {slip : Slip} (found : slips[number]? = some slip) {fate : Fate}
    {next : Phase} (state : next.state = phase.state) (epoch : next.epoch = phase.epoch)
    (outside : phase.state ≠ .halfOpen → next = phase)
    (inside : phase.state = .halfOpen →
      Probing permitsOnly config.halfOpenMaxCalls.toNat next (markSlip slips number fate)
        past.length) :
    Balanced permitsOnly config next (markSlip slips number fate) past where
  threshold_pos := h.threshold_pos
  cap_pos := h.cap_pos
  epoch_eq := epoch.trans h.epoch_eq
  slip_epoch other member := by
    obtain ⟨original, known, rfl | rfl⟩ := mem_markSlip member
    · exact h.slip_epoch other known
    · exact h.slip_epoch original known
  slip_window other member := by
    obtain ⟨original, known, rfl | rfl⟩ := mem_markSlip member
    · exact h.slip_window other known
    · exact h.slip_window original known
  slip_probe other member := by
    rw [state]
    obtain ⟨original, known, rfl | rfl⟩ := mem_markSlip member
    · exact h.slip_probe other known
    · exact h.slip_probe original known
  capped window halfOpen := by
    rw [state] at halfOpen
    rw [tally_markSlip_anyFate found]
    exact h.capped window halfOpen
  closed closed := by
    rw [state] at closed
    rw [outside (by rw [closed]; decide)]
    exact h.closed closed
  opened opened := by
    rw [state] at opened
    rw [outside (by rw [opened]; decide), tally_markSlip_anyFate found]
    exact h.opened opened
  halfOpen halfOpen := inside (state ▸ halfOpen)

/-- Marking a permit changes no account unless it settles a probe of the
current half-open window. -/
theorem mark (h : Balanced permitsOnly config phase slips past) {number : Nat} {slip : Slip}
    (found : slips[number]? = some slip) (held : slip.fate = .pending) {fate : Fate}
    (aside : phase.state = .halfOpen → slip.window = past.length →
      fate.isSuccess = false ∧ fate.isFailure = false) :
    Balanced permitsOnly config phase (markSlip slips number fate) past := by
  refine h.markSlip_of_probing found rfl rfl (fun _ => rfl) fun halfOpen => ?_
  have kept : ∀ kind : Fate → Bool, kind .pending = false →
      (slip.window = past.length → kind fate = false) →
      tally (markSlip slips number fate) past.length kind = tally slips past.length kind := by
    intro kind before after
    have moved := tally_markSlip slips past.length kind found fate
    have unsettled : ¬ (slip.window = past.length ∧ kind fate = true) := by
      rintro ⟨same, settled⟩
      rw [after same] at settled
      cases settled
    rw [held, before, if_neg (by simp), if_neg unsettled] at moved
    exact moved
  have failures := kept Fate.isFailure rfl fun same => (aside halfOpen same).2
  have successes := kept Fate.isSuccess rfl fun same => (aside halfOpen same).1
  have probing := h.halfOpen halfOpen
  constructor
  · exact probing.failures
  · exact probing.successes
  · rw [failures]
    exact probing.failed
  · rw [successes]
    exact probing.succeeded
  · rw [successes]
    exact probing.sole
  · rw [successes, tally_markSlip_anyFate found]
    exact probing.calls

/-- A permit is issued in a closed circuit, or as a probe of a half-open one
that has room for it. -/
theorem hand (h : Balanced permitsOnly config phase slips past) (probe : Bool)
    (kind : probe = true ↔ phase.state = .halfOpen) (flowing : phase.state ≠ .opened)
    (room : phase.state = .halfOpen →
      phase.halfOpenCalls < config.halfOpenMaxCalls.toNat) (working : Bool) :
    Balanced permitsOnly config
      { phase with halfOpenCalls := phase.halfOpenCalls + if probe then 1 else 0 }
      (slips ++ [⟨⟨phase.epoch, probe⟩, past.length, working, .pending⟩]) past := by
  have count : ∀ window fates, fates .pending = false →
      tally (slips ++ [⟨⟨phase.epoch, probe⟩, past.length, working, .pending⟩]) window
          fates = tally slips window fates := by
    intro window fates pending
    rw [tally_append_singleton, if_neg (by simp [pending])]
    rfl
  have issued :
      tally (slips ++ [⟨⟨phase.epoch, probe⟩, past.length, working, .pending⟩])
        past.length anyFate = tally slips past.length anyFate + 1 := by
    rw [tally_append_singleton, if_pos ⟨rfl, rfl⟩]
  exact {
    threshold_pos := h.threshold_pos
    cap_pos := h.cap_pos
    epoch_eq := h.epoch_eq
    slip_epoch := by
      intro slip member
      rcases List.mem_append.mp member with member | member
      · exact h.slip_epoch slip member
      · rw [List.mem_singleton.mp member]
        exact h.epoch_eq
    slip_window := by
      intro slip member
      rcases List.mem_append.mp member with member | member
      · exact h.slip_window slip member
      · exact Nat.le_of_eq (congrArg Slip.window (List.mem_singleton.mp member))
    slip_probe := by
      intro slip member
      rcases List.mem_append.mp member with member | member
      · exact h.slip_probe slip member
      · rw [List.mem_singleton.mp member]
        simpa using kind
    capped := by
      intro window halfOpen
      by_cases here : past.length = window
      · -- the new permit finds room among the probes, and every permit took one
        subst here
        rw [current_state] at halfOpen
        have probing := h.halfOpen (Option.some.inj halfOpen)
        have free := room (Option.some.inj halfOpen)
        have succeeded := probing.succeeded
        have calls := probing.calls
        rw [issued]
        omega
      · rw [tally_append_singleton, if_neg (by simp [here])]
        exact h.capped window halfOpen
    closed := by
      intro closed
      have plain : probe = false := by
        rw [Bool.eq_false_iff, ne_eq, kind, show phase.state = .closed from closed]
        decide
      rw [plain]
      exact h.closed closed
    opened := fun opened => absurd opened flowing
    halfOpen := by
      intro halfOpen
      have probing := h.halfOpen halfOpen
      rw [kind.mpr halfOpen] at count issued ⊢
      exact {
        failures := probing.failures
        successes := probing.successes
        failed := by rw [count _ _ rfl]; exact probing.failed
        succeeded := by rw [count _ _ rfl]; exact probing.succeeded
        sole := by rw [count _ _ rfl]; exact probing.sole
        calls := by
          have calls := probing.calls
          rw [count _ _ rfl, issued]
          simp only [if_true]
          omega } }

/-- The failures of a closed circuit may be anything below the threshold. -/
theorem setFailures (h : Balanced permitsOnly config phase slips past)
    (closed : phase.state = .closed) {failures : Nat}
    (below : failures < config.failureThreshold.toNat) :
    Balanced permitsOnly config { phase with failures } slips past where
  threshold_pos := h.threshold_pos
  cap_pos := h.cap_pos
  epoch_eq := h.epoch_eq
  slip_epoch := h.slip_epoch
  slip_window := h.slip_window
  slip_probe := h.slip_probe
  capped := h.capped
  closed _ := ⟨below, (h.closed closed).2⟩
  opened opened := by cases closed.symm.trans opened
  halfOpen halfOpen := by cases closed.symm.trans halfOpen

/-- A success without a permit takes a probe of a half-open circuit and is one
of its successes. -/
theorem succeed (h : Balanced permitsOnly config phase slips past) (mixed : ¬ permitsOnly)
    (halfOpen : phase.state = .halfOpen)
    (below : phase.successes + 1 < config.halfOpenMaxCalls.toNat) :
    Balanced permitsOnly config
      { phase with
        successes := phase.successes + 1
        halfOpenCalls := phase.halfOpenCalls + 1 } slips past where
  threshold_pos := h.threshold_pos
  cap_pos := h.cap_pos
  epoch_eq := h.epoch_eq
  slip_epoch := h.slip_epoch
  slip_window := h.slip_window
  slip_probe := h.slip_probe
  capped := h.capped
  closed closed := by cases halfOpen.symm.trans closed
  opened opened := by cases halfOpen.symm.trans opened
  halfOpen _ := by
    have probing := h.halfOpen halfOpen
    exact {
      failures := probing.failures
      successes := below
      failed := probing.failed
      succeeded := Nat.le_succ_of_le probing.succeeded
      sole := fun only => absurd only mixed
      calls := by
        have calls := probing.calls
        simp only
        omega }

/-- The success of a probe of the current half-open window is one of its
successes. -/
theorem succeedProbe (h : Balanced permitsOnly config phase slips past)
    (halfOpen : phase.state = .halfOpen)
    (below : phase.successes + 1 < config.halfOpenMaxCalls.toNat)
    {number : Nat} {slip : Slip} (found : slips[number]? = some slip)
    (held : slip.fate = .pending) (current : slip.window = past.length) :
    Balanced permitsOnly config { phase with successes := phase.successes + 1 }
      (markSlip slips number (.settled .success)) past := by
  refine h.markSlip_of_probing found rfl rfl (fun other => absurd halfOpen other) fun _ => ?_
  have probing := h.halfOpen halfOpen
  have fails : tally (markSlip slips number (.settled .success)) past.length Fate.isFailure =
      tally slips past.length Fate.isFailure := by
    have moved := tally_markSlip slips past.length Fate.isFailure found (.settled .success)
    rwa [held, if_neg (by simp [Fate.isFailure]), if_neg (by simp [Fate.isFailure])] at moved
  have succeeds : tally (markSlip slips number (.settled .success)) past.length Fate.isSuccess =
      tally slips past.length Fate.isSuccess + 1 := by
    have moved := tally_markSlip slips past.length Fate.isSuccess found (.settled .success)
    rwa [held, if_neg (by simp [Fate.isSuccess]), if_pos ⟨current, rfl⟩] at moved
  exact {
    failures := probing.failures
    successes := below
    failed := by rw [fails]; exact probing.failed
    succeeded := by rw [succeeds]; exact Nat.succ_le_succ probing.succeeded
    sole := fun only => by rw [succeeds, probing.sole only]
    calls := by
      have calls := probing.calls
      rw [succeeds, tally_markSlip_anyFate found]
      simp only
      omega }

end Balanced

end GuardedCache.Circuit
