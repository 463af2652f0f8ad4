import GuardedCache.Proofs.Circuit.Notices
import GuardedCache.Proofs.Circuit.Probes
import GuardedCache.Proofs.Circuit.Recovery

/-!
# Opened circuits and the rate of probes

From the moment a circuit opens until its timeout has passed it is shut: it
refuses every call and takes no outcome into account.  The first request after
that wakes it.  So half-open windows are a timeout apart, and the probes that a
run can see are bounded by the time that it takes.
-/

namespace GuardedCache.Circuit

variable {ε α : Type}

/-! ## An opened circuit -/

namespace Breaker

variable {b : Breaker} {now : Reading}

theorem allow_of_early (opened : b.state = .opened) (early : ¬ b.IsDue now) :
    b.allow (.ok now) = ⟨.ok false, b.countAdmission false, []⟩ := by
  simp only [allow, (b.verdict_eq_refuse_iff now).mpr (.inl ⟨opened, early⟩)]

theorem acquire_of_early (opened : b.state = .opened) (early : ¬ b.IsDue now) :
    b.acquire (.ok now) = ⟨.ok none, b.countAdmission false, []⟩ := by
  simp only [acquire, (b.verdict_eq_refuse_iff now).mpr (.inl ⟨opened, early⟩)]

theorem allow_of_due (opened : b.state = .opened) (due : b.IsDue now) :
    b.allow (.ok now) =
      ⟨.ok true, (b.enter .halfOpen now).countAdmission true, b.notices .halfOpen⟩ := by
  simp only [allow, (b.verdict_eq_probe_iff now).mpr ⟨opened, due⟩]

theorem acquire_of_due (opened : b.state = .opened) (due : b.IsDue now) :
    b.acquire (.ok now) = ⟨.ok (some ⟨b.phase.epoch + 1, true⟩),
      ((b.enter .halfOpen now).takeProbe).countAdmission true, b.notices .halfOpen⟩ := by
  simp only [acquire, (b.verdict_eq_probe_iff now).mpr ⟨opened, due⟩]

theorem phase_report_of_opened (opened : b.state = .opened) (outcome : Outcome)
    (permit : Option Permit) (glance : Glance) :
    (b.report outcome permit glance).breaker.phase = b.phase := by
  have row := b.report_row outcome permit glance
  generalize b.report outcome permit glance = effect at row ⊢
  cases row with
  | healthy _ success closed clean => rfl
  | unread fault unhealthy => rfl
  | stale now stale => rfl
  | ignored now _ => rfl
  | forgiven now fresh success closed => cases opened.symm.trans closed
  | noted now fresh failure closed below => cases opened.symm.trans closed
  | tripped now fresh failure closed reached => cases opened.symm.trans closed
  | progressed now fresh success halfOpen below => cases opened.symm.trans halfOpen
  | recovered now fresh success halfOpen reached => cases opened.symm.trans halfOpen
  | relapsed now fresh failure halfOpen => cases opened.symm.trans halfOpen

theorem isDue_iff : b.IsDue now ↔
    b.phase.since.nanos + b.config.resetTimeout.nanos < now.instant.nanos := by
  change b.config.resetTimeout.nanos < (now.instant.nanos - b.phase.since.nanos).toNat ↔ _
  omega

/-- Since a moment more time has passed than the half-open windows so far had to
wait for, up to the last change of state. -/
def IsSpaced (created : Instant) (b : Breaker) : Prop :=
  created.nanos + (b.totals.halfOpened * b.config.resetTimeout.nanos : Nat) ≤
      b.phase.since.nanos ∧
    (0 < b.totals.halfOpened →
      created.nanos + (b.totals.halfOpened * b.config.resetTimeout.nanos : Nat) <
        b.phase.since.nanos)

namespace IsSpaced

variable {after : Breaker} {created : Instant}

theorem of_stays (h : b.IsSpaced created) (config : after.config = b.config)
    (stays : b.Stays after) : after.IsSpaced created := by
  have halfOpened : after.totals.halfOpened = b.totals.halfOpened :=
    congrFun stays.entries_eq .halfOpen
  rw [IsSpaced, config, stays.since_eq, halfOpened]
  exact h

theorem of_enters {target : State} (h : b.IsSpaced created) (config : after.config = b.config)
    (enters : b.Enters target now after)
    (later : b.phase.since.nanos ≤ now.instant.nanos) : after.IsSpaced created := by
  obtain ⟨spaced, strictly⟩ := h
  have halfOpened : after.totals.halfOpened =
      b.totals.halfOpened + if target = .halfOpen then 1 else 0 :=
    enters.entries_eq .halfOpen
  rw [IsSpaced, config, enters.since_eq, halfOpened]
  -- only the way into a half-open window takes time, and it takes more than the timeout
  by_cases woken : target = .halfOpen
  · have due := isDue_iff.mp (enters.due woken)
    rw [if_pos woken, Nat.succ_mul]
    omega
  · rw [if_neg woken, Nat.add_zero]
    omega

theorem of_passage {β : Type} {byReset : Bool} {glance : Glance} {effect : Effect β}
    (h : b.IsSpaced created) (passage : b.Passage byReset glance effect)
    (later : ∀ now, glance = .ok now → b.phase.since.nanos ≤ now.instant.nanos) :
    effect.breaker.IsSpaced created := by
  rcases passage.turn with ⟨stays, _⟩ | ⟨target, now, read, _, enters, _⟩
  · exact h.of_stays passage.config_eq stays
  · exact h.of_enters passage.config_eq enters (later now read)

end IsSpaced

end Breaker

namespace Action

/-- An action that asks whether a call may proceed. -/
def asks : Action ε α → Bool
  | .allow => true
  | .acquire => true
  | .start => true
  | _ => false

/-- An action that reports an outcome, with a permit or without one. -/
def Reports (action : Action ε α) : Prop :=
  action.IsBare ∨ action.resolution?.isSome = true

end Action

namespace Reply

def isRefusal : Reply → Bool
  | .allowed (.ok false) => true
  | .acquired (.ok none) => true
  | _ => false

def isAdmission : Reply → Bool
  | .allowed (.ok true) => true
  | .acquired (.ok (some _)) => true
  | _ => false

end Reply

/-- The clock shows at most the deadline. -/
def Step.IsBy (s : Step ε α) (deadline : Int) : Prop :=
  ∃ now, s.glance = .ok now ∧ now.instant.nanos ≤ deadline

namespace Ledger

variable {l : Ledger} {s : Step ε α}

/-- When the timeout of an opened circuit has passed. -/
def deadline (l : Ledger) : Int :=
  l.breaker.phase.since.nanos + l.breaker.config.resetTimeout.nanos

theorem not_isDue_of_le {now : Reading} (early : now.instant.nanos ≤ l.deadline) :
    ¬ l.breaker.IsDue now := by
  rw [Breaker.isDue_iff]
  exact Int.not_lt.mpr early

/-- A request that comes too early is refused.  No permit is issued for it, and
nothing but the number of refusals changes. -/
theorem refuses_of_early (opened : l.breaker.state = .opened) (asks : s.action.asks = true)
    (early : s.IsBy l.deadline) :
    (l.perform s).1.isRefusal = true ∧ (l.step s).slips = l.slips ∧
      (l.step s).breaker = l.breaker.countAdmission false := by
  obtain ⟨action, glance⟩ := s
  obtain ⟨now, rfl, early⟩ := early
  have allow := Breaker.allow_of_early opened (not_isDue_of_le early)
  have acquire := Breaker.acquire_of_early opened (not_isDue_of_le early)
  cases action with
  | allow =>
    simp only [step, perform, Ledger.allow, allow]
    exact ⟨rfl, rfl, rfl⟩
  | acquire =>
    simp only [step, perform, Ledger.acquire, acquire]
    exact ⟨rfl, rfl, rfl⟩
  | start =>
    simp only [step, perform, Ledger.acquire, acquire]
    exact ⟨rfl, rfl, rfl⟩
  | _ => cases asks

/-- A guarded call that comes too early is refused and does no work. -/
theorem call_of_early (opened : l.breaker.state = .opened) (c : GuardedCall ε α)
    {now : Reading} (entry : c.entry = .ok now) (early : now.instant.nanos ≤ l.deadline) :
    (l.call c).1 = .refused l.breaker.name ∧ (l.call c).2.slips = l.slips := by
  have acquire := Breaker.acquire_of_early opened (not_isDue_of_le early)
  rw [call, Ledger.acquire, entry, acquire]
  exact ⟨rfl, rfl⟩

/-- A request that comes late enough is admitted and makes the circuit half-open. -/
theorem admits_of_late (opened : l.breaker.state = .opened) (asks : s.action.asks = true)
    {now : Reading} (read : s.glance = .ok now) (late : l.deadline < now.instant.nanos) :
    (l.perform s).1.isAdmission = true ∧ (l.step s).breaker.state = .halfOpen := by
  obtain ⟨action, glance⟩ := s
  cases read
  have due : l.breaker.IsDue now := Breaker.isDue_iff.mpr late
  have allow := Breaker.allow_of_due opened due
  have acquire := Breaker.acquire_of_due opened due
  cases action with
  | allow =>
    simp only [step, perform, Ledger.allow, allow]
    exact ⟨rfl, rfl⟩
  | acquire =>
    simp only [step, perform, Ledger.acquire, acquire]
    exact ⟨rfl, rfl⟩
  | start =>
    simp only [step, perform, Ledger.acquire, acquire]
    exact ⟨rfl, rfl⟩
  | _ => cases asks

theorem phase_of_resolution (opened : l.breaker.state = .opened) {number : Nat}
    {outcome : Outcome} (resolution : s.action.resolution? = some (number, outcome)) :
    (l.step s).breaker.phase = l.breaker.phase := by
  rw [step_of_resolution resolution]
  cases held : l.held? number with
  | none => rw [resolve, held]
  | some slip =>
    rw [breaker_resolve held]
    exact Breaker.phase_report_of_opened opened outcome (some slip.permit) s.glance

/-- An opened circuit takes no outcome into account. -/
theorem phase_of_reports (opened : l.breaker.state = .opened) (reports : s.action.Reports) :
    (l.step s).breaker.phase = l.breaker.phase := by
  rcases reports with bare | resolution
  · obtain ⟨action, glance⟩ := s
    cases action with
    | record outcome => exact Breaker.phase_report_of_opened opened outcome none glance
    | _ => cases bare
  · obtain ⟨⟨number, outcome⟩, resolution⟩ := Option.isSome_iff_exists.mp resolution
    exact phase_of_resolution opened resolution

/-- Only a reset or a late request gets an opened circuit to move. -/
theorem phase_of_waiting (opened : l.breaker.state = .opened)
    (unforced : s.action.isReset = false)
    (early : s.action.asks = true → s.IsBy l.deadline) :
    (l.step s).breaker.phase = l.breaker.phase := by
  cases asks : s.action.asks with
  | true =>
    rw [(refuses_of_early opened asks (early asks)).2.2]
    rfl
  | false =>
    obtain ⟨action, glance⟩ := s
    cases action with
    | settle number outcome => exact phase_of_reports opened (.inr rfl)
    | discard number => exact phase_of_reports opened (.inr rfl)
    | finish number work => exact phase_of_reports opened (.inr rfl)
    | record outcome => exact phase_of_reports opened (.inl trivial)
    | reset => cases unforced
    | addObserver observer => rfl
    | _ => cases asks

/-- The circuit opened at some point of a run, and since then it was not reset
and all requests came before the deadline. -/
def OpenedAt (l : Ledger) (timeout : Duration) (steps : List (Step ε α))
    (opening : Instant) : Prop :=
  ∃ before opener wait now,
    steps = before ++ opener :: wait ∧
    opener.glance = .ok now ∧ now.instant = opening ∧
    (l.run before).breaker.state ≠ .opened ∧
    ((l.run before).step opener).breaker.state = .opened ∧
    ∀ s ∈ wait, s.action.isReset = false ∧
      (s.action.asks = true → s.IsBy (opening.nanos + timeout.nanos))

/-- Requests up to the deadline are refused and start no work, outcomes change
nothing, and a request after the deadline makes the circuit half-open. -/
structure IsShut (ε α : Type) (l : Ledger) (deadline : Int) : Prop where
  opened : l.breaker.state = .opened
  refuses : ∀ s : Step ε α, s.action.asks = true → s.IsBy deadline →
    (l.perform s).1.isRefusal = true ∧ (l.step s).slips = l.slips ∧
      (l.step s).breaker.phase = l.breaker.phase
  refusesCall : ∀ (c : GuardedCall ε α) (now : Reading), c.entry = .ok now →
    now.instant.nanos ≤ deadline →
      (l.call c).1 = .refused l.breaker.name ∧ (l.call c).2.slips = l.slips
  ignores : ∀ s : Step ε α, s.action.Reports → (l.step s).breaker.phase = l.breaker.phase
  wakes : ∀ (s : Step ε α) (now : Reading), s.action.asks = true → s.glance = .ok now →
    deadline < now.instant.nanos →
      (l.perform s).1.isAdmission = true ∧ (l.step s).breaker.state = .halfOpen

theorem isShut_of_opened (opened : l.breaker.state = .opened) : l.IsShut ε α l.deadline where
  opened := opened
  refuses s asks early := by
    obtain ⟨refused, slips, breaker⟩ := refuses_of_early opened asks early
    refine ⟨refused, slips, ?_⟩
    rw [breaker]
    rfl
  refusesCall c now entry early := call_of_early opened c entry early
  ignores s reports := phase_of_reports opened reports
  wakes s now asks read late := admits_of_late opened asks read late

/-- While a circuit waits for its deadline its phase is that in which it opened. -/
theorem phase_run_of_waiting {steps : List (Step ε α)} (opened : l.breaker.state = .opened)
    (waiting : ∀ s ∈ steps, s.action.isReset = false ∧
      (s.action.asks = true → s.IsBy l.deadline)) :
    (l.run steps).breaker.phase = l.breaker.phase := by
  induction steps generalizing l with
  | nil => rfl
  | cons s steps ih =>
    obtain ⟨unforced, early⟩ := waiting s List.mem_cons_self
    have phase := phase_of_waiting opened unforced early
    have deadline : (l.step s).deadline = l.deadline := by
      rw [Ledger.deadline, Ledger.deadline, phase, (l.keeps_step s).config_eq]
    rw [run_cons, ih (by rw [Breaker.state, phase]; exact opened), phase]
    rw [deadline]
    exact fun t member => waiting t (List.mem_cons_of_mem s member)

theorem OpenedAt.isShut {timeout : Duration} {steps : List (Step ε α)} {opening : Instant}
    (h : l.OpenedAt timeout steps opening) (same : l.breaker.config.resetTimeout = timeout) :
    (l.run steps).IsShut ε α (opening.nanos + timeout.nanos) := by
  obtain ⟨before, opener, wait, now, rfl, read, rfl, other, opened, waiting⟩ := h
  -- the timer was set by the step that opened the circuit, and nothing in `wait` sets it
  have since : ((l.run before).step opener).breaker.phase.since = now.instant := by
    cases (l.run before).turn opener with
    | stays _ stays => exact absurd (stays.state_eq.symm.trans opened) other
    | enters _ shown seen _ _ enters =>
      cases read.symm.trans seen
      exact enters.since_eq
  have config : ((l.run before).step opener).breaker.config = l.breaker.config := by
    rw [← run_concat, config_run]
  have deadline : ((l.run before).step opener).deadline = now.instant.nanos + timeout.nanos := by
    rw [Ledger.deadline, since, config, same]
  rw [← deadline] at waiting ⊢
  have phase := phase_run_of_waiting opened waiting
  have last : (((l.run before).step opener).run wait).deadline =
      ((l.run before).step opener).deadline := by
    rw [Ledger.deadline, Ledger.deadline, phase, config_run]
  rw [run_append, run_cons, ← last]
  exact isShut_of_opened (by rw [Breaker.state, phase]; exact opened)

/-! ## Half-open windows are a timeout apart -/

/-- Since a moment more time has passed than the half-open windows so far had to
wait for, up to the last change of state. -/
def IsSpaced (created : Instant) (l : Ledger) : Prop :=
  created.nanos + (l.breaker.totals.halfOpened * l.breaker.config.resetTimeout.nanos : Nat) ≤
      l.breaker.phase.since.nanos ∧
    (0 < l.breaker.totals.halfOpened →
      created.nanos +
          (l.breaker.totals.halfOpened * l.breaker.config.resetTimeout.nanos : Nat) <
        l.breaker.phase.since.nanos)

theorem IsSpaced.step {created : Instant} (h : l.IsSpaced created) {now : Reading}
    (read : s.glance = .ok now) (later : l.breaker.phase.since.nanos ≤ now.instant.nanos) :
    (l.step s).IsSpaced created := by
  have spaced : l.breaker.IsSpaced created := h
  have config := (l.keeps_step s).config_eq
  cases l.turn s with
  | stays _ stays => exact spaced.of_stays config stays
  | enters target shown seen _ _ enters =>
    cases read.symm.trans seen
    exact spaced.of_enters config enters later

theorem Paced.isSpaced {created start last : Instant} {steps : List (Step ε α)}
    (paced : Paced start steps last) (l : Ledger) (spaced : l.IsSpaced created)
    (behind : l.breaker.phase.since.nanos ≤ start.nanos) :
    (l.run steps).IsSpaced created := by
  induction steps generalizing start l with
  | nil => exact spaced
  | cons s steps ih =>
    obtain ⟨now, read, later, paced⟩ := paced
    have shown : Paced l.breaker.phase.since [s] now.instant :=
      ⟨now, read, Int.le_trans behind later, Int.le_refl _⟩
    rw [run_cons]
    exact ih paced (l.step s) (spaced.step read (Int.le_trans behind later))
      (shown.since_le l (Int.le_refl _))

/-! ## How many probes there can be -/

/-- All permits that were issued as probes. -/
def probes (l : Ledger) : List Slip := l.slips.filter fun slip => slip.permit.probe

theorem states_run (l : Ledger) (steps : List (Step ε α)) :
    (l.run steps).states = l.states ++ (l.transitions steps).map Transition.target := by
  induction steps generalizing l with
  | nil => exact (List.append_nil _).symm
  | cons s steps ih =>
    rw [run_cons, ih, transitions_cons]
    cases l.turn s with
    | stays none stays past =>
      rw [none, states, states, past, stays.state_eq]
      rfl
    | enters target now read some edge enters past =>
      rw [some, states, states, past, enters.state_eq, List.map_append, List.append_assoc]
      rfl

/-- How many probes were issued in the first windows. -/
def probesBefore (slips : List Slip) (count : Nat) : Nat :=
  slips.countP fun slip => slip.permit.probe && decide (slip.window < count)

theorem probesBefore_succ (slips : List Slip) (count : Nat) :
    probesBefore slips (count + 1) = probesBefore slips count +
      slips.countP fun slip => slip.permit.probe && decide (slip.window = count) := by
  induction slips with
  | nil => rfl
  | cons slip rest ih =>
    simp only [probesBefore] at ih
    have last : slip.window < count + 1 ↔ slip.window < count ∨ slip.window = count :=
      Nat.lt_succ_iff_lt_or_eq
    simp only [probesBefore, List.countP_cons, ih, last]
    grind

/-- Each window that probes were issued in is half-open and has room for no more of
them than its cap. -/
theorem IsBalanced.probesBefore_le {permitsOnly : Prop} (h : l.IsBalanced permitsOnly)
    {count : Nat} (inside : count ≤ l.states.length) :
    probesBefore l.slips count ≤ (l.states.take count).count .halfOpen * l.breaker.cap := by
  induction count with
  | zero => simp [probesBefore]
  | succ count ih =>
    have shorter := ih (Nat.le_of_succ_le inside)
    have found : l.states[count]? = some l.states[count] := List.getElem?_eq_getElem inside
    rw [probesBefore_succ, List.take_add_one, found, Option.toList_some, List.count_append,
      List.count_singleton, Nat.add_mul]
    by_cases halfOpen : l.states[count] = .halfOpen
    · have capped : tally l.slips count anyFate ≤ l.breaker.cap :=
        h.capped count (found.trans (congrArg some halfOpen))
      have probes : (l.slips.countP fun slip => slip.permit.probe && decide (slip.window = count))
          ≤ tally l.slips count anyFate := by
        refine List.countP_mono_left fun slip _ probe => ?_
        rw [Bool.and_eq_true] at probe
        simpa [anyFate] using probe.2
      rw [if_pos (by simpa using halfOpen)]
      omega
    · have none : (l.slips.countP fun slip => slip.permit.probe && decide (slip.window = count))
          = 0 := by
        rw [List.countP_eq_zero]
        intro slip member here
        rw [Bool.and_eq_true, decide_eq_true_eq] at here
        obtain ⟨probe, rfl⟩ := here
        exact halfOpen (Option.some.inj (found.symm.trans ((h.slip_probe slip member).mp probe)))
      rw [none]
      omega

theorem IsBalanced.length_probes_le {permitsOnly : Prop} (h : l.IsBalanced permitsOnly) :
    l.probes.length ≤ l.states.count .halfOpen * l.breaker.cap := by
  have inside : ∀ slip ∈ l.slips, slip.window < l.states.length := by
    intro slip member
    rw [states, List.length_append, List.length_singleton]
    exact Nat.lt_succ_of_le (h.slip_window slip member)
  calc l.probes.length
      = l.slips.countP fun slip => slip.permit.probe := List.countP_eq_length_filter.symm
    _ = probesBefore l.slips l.states.length := by
        apply List.countP_congr
        intro slip member
        simp [inside slip member]
    _ ≤ (l.states.take l.states.length).count .halfOpen * l.breaker.cap :=
        h.probesBefore_le (Nat.le_refl _)
    _ = l.states.count .halfOpen * l.breaker.cap := by rw [List.take_length]

/-! ## Runs -/

section Built

variable (name : String) (config : Config) (observers : List Observer) (created : Reading)

theorem halfOpened_run (steps : List (Step ε α)) :
    ((fresh name config observers created).run steps).breaker.totals.halfOpened =
      ((fresh name config observers created).run steps).states.count .halfOpen := by
  rw [states_run, List.count_append]
  exact (entries_fresh_run name config observers created steps .halfOpen).trans
    (Nat.zero_add _).symm

/-- On a clock that can be read and is never set back, a circuit that opens is shut
until its timeout has passed.  So the time that a run takes is more than all its
half-open windows had to wait for, and no more probes are issued than all these
windows have room for. -/
theorem opened_windows_timed {steps : List (Step ε α)} {now : Instant}
    (paced : Paced created.instant steps now) :
    (∀ opening, (fresh name config observers created).OpenedAt config.sanitize.resetTimeout
        steps opening →
      ((fresh name config observers created).run steps).IsShut ε α
        (opening.nanos + config.sanitize.resetTimeout.nanos)) ∧
    (0 < ((fresh name config observers created).run steps).breaker.totals.halfOpened →
      ((fresh name config observers created).run steps).breaker.totals.halfOpened *
          config.sanitize.resetTimeout.nanos <
        (created.instant.elapsed now).nanos) ∧
    ((fresh name config observers created).run steps).probes.length ≤
      ((fresh name config observers created).run steps).breaker.totals.halfOpened *
        config.sanitize.halfOpenMaxCalls.toNat := by
  refine ⟨fun opening opened => opened.isShut rfl, fun woken => ?_, ?_⟩
  · have spaced : IsSpaced created.instant (fresh name config observers created) := by
      refine ⟨?_, fun woken => absurd woken (Nat.lt_irrefl 0)⟩
      simp [fresh, Breaker.build]
    have strictly := (paced.isSpaced _ spaced (Int.le_refl _)).2 woken
    have behind := paced.since_le (fresh name config observers created) (Int.le_refl _)
    rw [config_fresh_run] at strictly
    change _ < (now.nanos - created.instant.nanos).toNat
    omega
  · rw [halfOpened_run, ← config_fresh_run name config observers created steps]
    exact (isBalanced_run name config observers created steps).length_probes_le

end Built

/-- A failure opens the circuit, and a request comes when 10 ms have passed. -/
def hastySteps : List (Step Unit Unit) :=
  [⟨.record .failure, .ok ⟨⟨0⟩, Clock.origin⟩⟩, ⟨.allow, .ok ⟨⟨10000000⟩, Clock.origin⟩⟩]

def hastyStart (nanos : Int) : Step Unit Unit := ⟨.start, .ok ⟨⟨nanos⟩, Clock.origin⟩⟩

/-- With a timeout of 10 ms a call is still refused after exactly that time.  One
nanosecond later it is admitted, as the only probe of the first half-open window. -/
theorem opened_windows_timed_to_the_nanosecond :
    (((fresh "hasty" ⟨1, 10, 1⟩ [] ⟨⟨0⟩, Clock.origin⟩).run hastySteps).perform
        (hastyStart 10000000)).1.isRefusal = true ∧
      (((fresh "hasty" ⟨1, 10, 1⟩ [] ⟨⟨0⟩, Clock.origin⟩).run hastySteps).perform
        (hastyStart 10000001)).1.isAdmission = true ∧
      ((fresh "hasty" ⟨1, 10, 1⟩ [] ⟨⟨0⟩, Clock.origin⟩).run
        (hastySteps ++ [hastyStart 10000001])).breaker.totals.halfOpened * 10000000 <
          10000001 ∧
      ((fresh "hasty" ⟨1, 10, 1⟩ [] ⟨⟨0⟩, Clock.origin⟩).run
        (hastySteps ++ [hastyStart 10000001])).probes.length ≤ 1 := by
  have waited : Paced ⟨0⟩ hastySteps ⟨10000000⟩ :=
    ⟨_, rfl, by decide, _, rfl, by decide, Int.le_refl _⟩
  have served : Paced ⟨0⟩ (hastySteps ++ [hastyStart 10000001]) ⟨10000001⟩ :=
    ⟨_, rfl, by decide, _, rfl, by decide, _, rfl, by decide, Int.le_refl _⟩
  have opened : (fresh "hasty" ⟨1, 10, 1⟩ [] ⟨⟨0⟩, Clock.origin⟩).OpenedAt
      (Config.sanitize ⟨1, 10, 1⟩).resetTimeout hastySteps ⟨0⟩ := by
    refine ⟨[], _, [_], _, rfl, rfl, rfl, by decide, by decide, fun s member => ?_⟩
    rw [List.mem_singleton.mp member]
    exact ⟨rfl, fun _ => ⟨_, rfl, by decide⟩⟩
  have shut := (opened_windows_timed "hasty" ⟨1, 10, 1⟩ [] ⟨⟨0⟩, Clock.origin⟩ waited).1 ⟨0⟩ opened
  obtain ⟨_, spaced, capped⟩ :=
    opened_windows_timed "hasty" ⟨1, 10, 1⟩ [] ⟨⟨0⟩, Clock.origin⟩ served
  refine ⟨?_, ?_, ?_, capped⟩
  · exact (shut.refuses (hastyStart 10000000) rfl ⟨_, rfl, by decide⟩).1
  · exact (shut.wakes (hastyStart 10000001) _ rfl rfl (by decide)).1
  · exact spaced (by decide)

end Ledger

end GuardedCache.Circuit
