import Mathlib.Data.List.Induction
import GuardedCache.Proofs.Circuit.History
import GuardedCache.Proofs.Circuit.Totals

/-!
# Stale outcomes do not interfere

An outcome that is reported after a transition since the issue of its permit is
stale.  A run in which nobody reports stale outcomes shows the same as the run
with them, at every step that the two have in common: the same answers, states and
notices.  Only the totals of outcomes tell the two apart.

The runs are compared step by step.  `Twin` relates the ledgers after both: they
agree on everything but these totals and the fates of stale permits.
-/

namespace GuardedCache.Circuit

/-! ## Outcomes that are only counted -/

/-- The totals with some more outcomes. -/
def Totals.credit (t : Totals) (outcomes : List Outcome) : Totals :=
  { t with
    succeeded := t.succeeded + outcomes.count .success
    failed := t.failed + outcomes.count .failure }

/-- The totals of a breaker that has seen nothing but some outcomes. -/
def Totals.ofOutcomes (outcomes : List Outcome) : Totals where
  succeeded := outcomes.count .success
  failed := outcomes.count .failure

namespace Breaker

def credit (b : Breaker) (outcomes : List Outcome) : Breaker :=
  { b with totals := b.totals.credit outcomes }

end Breaker

def Effect.credit {β : Type} (effect : Effect β) (outcomes : List Outcome) : Effect β :=
  { effect with breaker := effect.breaker.credit outcomes }

namespace Breaker

variable (b : Breaker) (outcomes : List Outcome)

theorem credit_append (more : List Outcome) :
    b.credit (outcomes ++ more) = (b.credit outcomes).credit more := by
  simp only [credit, Totals.credit, List.count_append, Nat.add_assoc]

theorem credit_singleton (outcome : Outcome) : b.credit [outcome] = b.countOutcome outcome := by
  cases outcome <;> rfl

/-! To credit outcomes is to add totals, so each operation does the same to a breaker that
has counted more of them. -/

theorem allow_credit (glance : Glance) :
    (b.credit outcomes).allow glance = (b.allow glance).credit outcomes :=
  b.allow_plus (.ofOutcomes outcomes) glance

theorem acquire_credit (glance : Glance) :
    (b.credit outcomes).acquire glance = (b.acquire glance).credit outcomes :=
  b.acquire_plus (.ofOutcomes outcomes) glance

theorem report_credit (outcome : Outcome) (permit : Option Permit) (glance : Glance) :
    (b.credit outcomes).report outcome permit glance =
      (b.report outcome permit glance).credit outcomes :=
  b.report_plus (.ofOutcomes outcomes) outcome permit glance

theorem reset_credit (glance : Glance) :
    (b.credit outcomes).reset glance = (b.reset glance).credit outcomes :=
  b.reset_plus (.ofOutcomes outcomes) glance

/-- The breaker without its totals of outcomes. -/
def unscored (b : Breaker) : Breaker :=
  { b with totals := { b.totals with succeeded := 0, failed := 0 } }

theorem unscored_credit : (b.credit outcomes).unscored = b.unscored := rfl

end Breaker

variable {ε α : Type}

/-! ## Runs without stale outcomes -/

/-- What can be seen of a step: the answer, and afterwards the breaker and
everything that its observers have done. -/
structure View where
  reply : Reply
  breaker : Breaker
  journal : List Event

def Entry.view (e : Entry ε α) : View where
  reply := (e.before.perform e.step).1
  breaker := (e.before.step e.step).breaker.unscored
  journal := (e.before.step e.step).journal

namespace Ledger

/-- The step gives a permit back that was issued in an earlier window. -/
def isStray (l : Ledger) (s : Step ε α) : Bool :=
  match s.action.resolution? with
  | some (number, _) => l.slips[number]?.any fun slip => slip.window ≠ l.window
  | none => false

/-- The stale outcome that a step reports. -/
def strayed? (l : Ledger) (s : Step ε α) : Option Outcome :=
  match s.action.resolution? with
  | some (number, outcome) =>
    if l.isStray s && (l.held? number).isSome then some outcome else none
  | none => none

/-- The steps of a run, with the ledgers before them, that report no stale outcome. -/
def kept (l : Ledger) (steps : List (Step ε α)) : List (Entry ε α) :=
  (l.history steps).filter fun e => !e.before.isStray e.step

/-- The run without the reports of stale outcomes. -/
def prune (l : Ledger) (steps : List (Step ε α)) : List (Step ε α) :=
  (l.kept steps).map Entry.step

/-- The stale outcomes that are reported in a run. -/
def strays (l : Ledger) (steps : List (Step ε α)) : List Outcome :=
  (l.history steps).filterMap fun e => e.before.strayed? e.step

theorem kept_concat (l : Ledger) (steps : List (Step ε α)) (s : Step ε α) :
    l.kept (steps ++ [s]) =
      l.kept steps ++ if (l.run steps).isStray s then [] else [⟨l.run steps, s⟩] := by
  rw [kept, history_concat, List.filter_append, kept, List.filter_cons, List.filter_nil]
  cases (l.run steps).isStray s <;> rfl

theorem prune_concat (l : Ledger) (steps : List (Step ε α)) (s : Step ε α) :
    l.prune (steps ++ [s]) = l.prune steps ++ if (l.run steps).isStray s then [] else [s] := by
  rw [prune, kept_concat, List.map_append, prune]
  cases (l.run steps).isStray s <;> rfl

theorem strays_concat (l : Ledger) (steps : List (Step ε α)) (s : Step ε α) :
    l.strays (steps ++ [s]) = l.strays steps ++ ((l.run steps).strayed? s).toList := by
  rw [strays, history_concat, List.filterMap_append, strays, List.filterMap_cons,
    List.filterMap_nil]
  cases (l.run steps).strayed? s <;> rfl

theorem strayed?_of_kept {l : Ledger} {s : Step ε α} (kept : l.isStray s = false) :
    l.strayed? s = none := by
  rw [strayed?]
  cases s.action.resolution? <;> simp [kept]

end Ledger

/-! ## What a window remembers -/

/-- A permit as a window sees it, without its fate if it is from another one. -/
def Slip.seenIn (window : Nat) (slip : Slip) : Slip :=
  if slip.window = window then slip else { slip with fate := .pending }

namespace Slip

theorem seenIn_of_eq {window : Nat} {slip : Slip} (same : slip.window = window) :
    slip.seenIn window = slip :=
  if_pos same

theorem seenIn_of_ne {window : Nat} {slip : Slip} (other : slip.window ≠ window) :
    slip.seenIn window = { slip with fate := .pending } :=
  if_neg other

theorem window_seenIn (window : Nat) (slip : Slip) :
    (slip.seenIn window).window = slip.window := by
  by_cases same : slip.window = window
  · rw [seenIn_of_eq same]
  · rw [seenIn_of_ne same]

@[simp]
theorem seenIn_self (window : Nat) (slip : Slip) :
    (slip.seenIn window).seenIn window = slip.seenIn window := by
  by_cases same : slip.window = window
  · rw [seenIn_of_eq same, seenIn_of_eq same]
  · rw [seenIn_of_ne same]
    exact seenIn_of_ne same

/-- A later window sees nothing that an earlier one did not see. -/
theorem seenIn_seenIn {window later : Nat} {slip : Slip} (older : slip.window < later) :
    (slip.seenIn window).seenIn later = slip.seenIn later := by
  have other : slip.window ≠ later := Nat.ne_of_lt older
  rw [seenIn_of_ne other, seenIn_of_ne (by rw [window_seenIn]; exact other)]
  by_cases same : slip.window = window
  · rw [seenIn_of_eq same]
  · rw [seenIn_of_ne same]

theorem seenIn_mark (window : Nat) (slip : Slip) (fate : Fate) :
    { slip.seenIn window with fate }.seenIn window = { slip with fate }.seenIn window := by
  by_cases same : slip.window = window
  · rw [seenIn_of_eq same]
  · rw [seenIn_of_ne same]

end Slip

namespace Ledger

variable {l : Ledger}

/-- All permits as the current window sees them. -/
def memory (l : Ledger) : List Slip := l.slips.map (Slip.seenIn l.window)

theorem memory_mark (l : Ledger) (number : Nat) (fate : Fate) :
    (l.mark number fate).memory =
      (markSlip l.memory number fate).map (Slip.seenIn l.window) := by
  refine List.ext_getElem? fun index => ?_
  change ((markSlip l.slips number fate).map (Slip.seenIn l.window))[index]? = _
  simp only [memory, List.getElem?_map, getElem?_markSlip, Option.map_map]
  congr 1
  funext slip
  by_cases here : number = index
  · simp only [Function.comp, if_pos here, Slip.seenIn_mark]
  · simp only [Function.comp, if_neg here, Slip.seenIn_self]

/-- The window takes no notice of what becomes of a stale permit. -/
theorem memory_mark_of_ne {number : Nat} {slip : Slip} (found : l.slips[number]? = some slip)
    (stale : slip.window ≠ l.window) (fate : Fate) :
    (l.mark number fate).memory = l.memory := by
  refine List.ext_getElem? fun index => ?_
  change ((markSlip l.slips number fate).map (Slip.seenIn l.window))[index]? = _
  simp only [memory, List.getElem?_map, getElem?_markSlip, Option.map_map]
  by_cases here : number = index
  · subst here
    rw [found, Option.map_some, Option.map_some]
    simp only [Function.comp, if_true, Slip.seenIn_of_ne stale]
    exact congrArg some (Slip.seenIn_of_ne stale)
  · simp only [Function.comp_def, if_neg here]

/-- What the next window will see is settled by what this one sees. -/
theorem memory_later {permitsOnly : Prop} (h : l.IsBalanced permitsOnly) :
    l.slips.map (Slip.seenIn (l.window + 1)) = l.memory.map (Slip.seenIn (l.window + 1)) := by
  rw [memory, List.map_map]
  refine List.map_congr_left fun slip member => ?_
  exact (Slip.seenIn_seenIn (Nat.lt_succ_of_le (h.slip_window slip member))).symm

/-! ## Two runs side by side -/

/-- The ledgers after a run and after the same run without some outcomes.  All that
these leave behind are the totals and the fates of stale permits. -/
structure Twin (dropped : List Outcome) (full short : Ledger) : Prop where
  breaker_eq : full.breaker = short.breaker.credit dropped
  past_eq : full.past = short.past
  journal_eq : full.journal = short.journal
  memory_eq : full.memory = short.memory

namespace Twin

variable {dropped : List Outcome} {full short : Ledger} {permitsOnly : Prop}

theorem refl (l : Ledger) : Twin [] l l :=
  ⟨rfl, rfl, rfl, rfl⟩

theorem window_eq (h : Twin dropped full short) : full.window = short.window :=
  congrArg List.length h.past_eq

theorem state_eq (h : Twin dropped full short) : full.breaker.state = short.breaker.state := by
  rw [h.breaker_eq]
  rfl

theorem follow {β : Type} (h : Twin dropped full short) (known : full.IsBalanced permitsOnly)
    (known' : short.IsBalanced permitsOnly) (effect : Effect β) :
    Twin dropped (full.follow (effect.credit dropped)) (short.follow effect) := by
  have journal : full.journal ++ effect.events = short.journal ++ effect.events :=
    congrArg (· ++ effect.events) h.journal_eq
  by_cases same : effect.breaker.state = short.breaker.state
  · have same' : (effect.credit dropped).breaker.state = full.breaker.state :=
      Eq.trans same h.state_eq.symm
    rw [follow_of_eq same, follow_of_eq same']
    exact ⟨rfl, h.past_eq, journal, h.memory_eq⟩
  · -- all permits become stale at once, so what was known of the old ones is enough
    have other : (effect.credit dropped).breaker.state ≠ full.breaker.state := by
      rw [h.state_eq]
      exact same
    rw [follow_of_ne same, follow_of_ne other]
    refine ⟨rfl, ?_, journal, ?_⟩
    · rw [h.past_eq, h.state_eq]
    · have later : full.slips.map (Slip.seenIn (full.window + 1)) =
          short.slips.map (Slip.seenIn (short.window + 1)) := by
        rw [memory_later known, memory_later known', h.memory_eq, h.window_eq]
      simpa only [memory, window, List.length_append, List.length_singleton] using later

theorem hand (h : Twin dropped full short) (permit : Permit) (working : Bool) :
    Twin dropped (full.hand permit working) (short.hand permit working) := by
  refine ⟨h.breaker_eq, h.past_eq, h.journal_eq, ?_⟩
  have issued : ∀ l : Ledger, (l.hand permit working).memory =
      l.memory ++ [{ permit, window := l.window, working }] := by
    intro l
    change (l.slips ++ [_]).map (Slip.seenIn l.window) = _
    rw [List.map_append, List.map_singleton]
    exact congrArg (l.memory ++ [·]) (Slip.seenIn_of_eq rfl)
  rw [issued, issued, h.memory_eq, h.window_eq]

theorem mark (h : Twin dropped full short) (number : Nat) (fate : Fate) :
    Twin dropped (full.mark number fate) (short.mark number fate) := by
  refine ⟨h.breaker_eq, h.past_eq, h.journal_eq, ?_⟩
  rw [memory_mark, memory_mark, h.memory_eq, h.window_eq]

/-- Both runs know the same of a permit that is not stale. -/
theorem held?_eq (h : Twin dropped full short) {number : Nat}
    (current : ∀ slip, full.slips[number]? = some slip → slip.window = full.window) :
    full.held? number = short.held? number := by
  have seen : full.slips[number]?.map (Slip.seenIn full.window) =
      short.slips[number]?.map (Slip.seenIn full.window) := by
    rw [← List.getElem?_map, ← List.getElem?_map]
    change full.memory[number]? = _
    rw [h.memory_eq, h.window_eq]
    rfl
  have same : full.slips[number]? = short.slips[number]? := by
    cases found : full.slips[number]? with
    | none =>
      rw [found] at seen
      exact (Option.map_eq_none_iff.mp seen.symm).symm
    | some slip =>
      have here := current slip found
      rw [found, Option.map_some, Slip.seenIn_of_eq here] at seen
      obtain ⟨other, there, same⟩ := Option.map_eq_some_iff.mp seen.symm
      have window := congrArg Slip.window same
      rw [Slip.window_seenIn, here] at window
      rw [there, ← same, Slip.seenIn_of_eq window]
  rw [held?, held?, same]

end Twin

/-- Both runs get the same answer and stay twins. -/
def Agree {β : Type} (dropped : List Outcome) (full short : β × Ledger) : Prop :=
  full.1 = short.1 ∧ Twin dropped full.2 short.2

theorem Agree.map {β γ : Type} {dropped : List Outcome} {full short : β × Ledger}
    (h : Agree dropped full short) (f : β → γ) :
    Agree dropped (full.map f id) (short.map f id) :=
  ⟨congrArg f h.1, h.2⟩

/-- Totals of outcomes cannot be seen, so twins look the same. -/
theorem Agree.view_eq {dropped : List Outcome} {full short : Ledger} {s : Step ε α}
    (h : Agree dropped (full.perform s) (short.perform s)) :
    (⟨full, s⟩ : Entry ε α).view = (⟨short, s⟩ : Entry ε α).view := by
  obtain ⟨reply, after⟩ := h
  simp only [Entry.view, step, reply, after.breaker_eq, after.journal_eq,
    Breaker.unscored_credit]

namespace Twin

variable {dropped : List Outcome} {full short : Ledger} {permitsOnly : Prop}

section Operations

variable (h : Twin dropped full short) (known : full.IsBalanced permitsOnly)
  (known' : short.IsBalanced permitsOnly)

include h known known'

theorem allow (glance : Glance) : Agree dropped (full.allow glance) (short.allow glance) := by
  rw [Ledger.allow, Ledger.allow, h.breaker_eq, Breaker.allow_credit]
  exact ⟨rfl, h.follow known known' _⟩

theorem acquire (working : Bool) (glance : Glance) :
    Agree dropped (full.acquire working glance) (short.acquire working glance) := by
  rw [Ledger.acquire, Ledger.acquire, h.breaker_eq, Breaker.acquire_credit]
  generalize short.breaker.acquire glance = effect
  have followed := h.follow known known' effect
  rcases effect with ⟨fault | _ | permit, breaker, events⟩
  · exact ⟨rfl, followed⟩
  · exact ⟨rfl, followed⟩
  · exact ⟨rfl, followed.hand permit working⟩

theorem resolve {number : Nat}
    (current : ∀ slip, full.slips[number]? = some slip → slip.window = full.window)
    (outcome : Outcome) (glance : Glance) :
    Agree dropped (full.resolve number outcome glance) (short.resolve number outcome glance) := by
  rw [Ledger.resolve, Ledger.resolve, h.held?_eq current]
  cases short.held? number with
  | none => exact ⟨rfl, h⟩
  | some slip =>
    simp only [Breaker.settle, h.breaker_eq, Breaker.report_credit]
    exact ⟨rfl, (h.follow known known' _).mark number _⟩

theorem record (outcome : Outcome) (glance : Glance) :
    Agree dropped (full.record outcome glance) (short.record outcome glance) := by
  rw [Ledger.record, Ledger.record, h.breaker_eq, Breaker.record, Breaker.report_credit]
  exact ⟨rfl, h.follow known known' _⟩

theorem reset (glance : Glance) : Agree dropped (full.reset glance) (short.reset glance) := by
  rw [Ledger.reset, Ledger.reset, h.breaker_eq, Breaker.reset_credit]
  exact ⟨rfl, h.follow known known' _⟩

omit known known' in
theorem addObserver (observer : Observer) :
    Twin dropped (full.addObserver observer) (short.addObserver observer) := by
  refine ⟨?_, h.past_eq, h.journal_eq, h.memory_eq⟩
  rw [Ledger.addObserver, h.breaker_eq]
  rfl

/-- A step that reports no stale outcome does the same in both runs. -/
theorem perform {s : Step ε α} (kept : full.isStray s = false) :
    Agree dropped (full.perform s) (short.perform s) := by
  obtain ⟨action, glance⟩ := s
  have resolves : ∀ number outcome, action.resolution? = some (number, outcome) →
      Agree dropped (full.resolve number outcome glance)
        (short.resolve number outcome glance) := by
    intro number outcome resolution
    refine h.resolve known known' (fun slip found => ?_) outcome glance
    simpa [isStray, resolution, found] using kept
  cases action with
  | allow => exact (h.allow known known' glance).map Reply.allowed
  | acquire => exact (h.acquire known known' false glance).map Reply.acquired
  | start => exact (h.acquire known known' true glance).map Reply.acquired
  | settle number outcome => exact (resolves number outcome rfl).map Reply.reported
  | discard number => exact (resolves number .failure rfl).map Reply.reported
  | finish number work => exact (resolves number work.outcome rfl).map Reply.reported
  | record outcome => exact (h.record known known' outcome glance).map Reply.done
  | reset => exact (h.reset known known' glance).map Reply.done
  | addObserver observer => exact ⟨rfl, h.addObserver observer⟩

end Operations

/-- A stale outcome is counted, and nothing else comes of it. -/
theorem stray (h : Twin dropped full short) (known : full.IsBalanced permitsOnly)
    {s : Step ε α} (stray : full.isStray s = true) :
    Twin (dropped ++ (full.strayed? s).toList) (full.step s) short := by
  cases resolution : s.action.resolution? with
  | none => simp [isStray, resolution] at stray
  | some report =>
    obtain ⟨number, outcome⟩ := report
    rw [step_of_resolution resolution, Ledger.resolve]
    cases held : full.held? number with
    | none =>
      have nothing : full.strayed? s = none := by simp [strayed?, resolution, held]
      rw [nothing, Option.toList_none, List.append_nil]
      exact h
    | some slip =>
      have counted : full.strayed? s = some outcome := by
        simp [strayed?, resolution, held, stray]
      obtain ⟨found, _⟩ := held?_eq_some_iff.mp held
      have other : slip.window ≠ full.window := by
        simpa [isStray, resolution, found] using stray
      -- windows are counted from outside; the breaker tells by its epoch that one is over
      have stale := known.isStale_of_window_ne (mem_of_held? held) other
      obtain ⟨breaker, events⟩ := Breaker.report_of_stale stale outcome s.glance
      rw [counted, Option.toList_some]
      simp only [Breaker.settle]
      generalize full.breaker.report outcome (some slip.permit) s.glance = effect at breaker events
      have still : effect.breaker.state = full.breaker.state := by
        rw [breaker]
        rfl
      rw [follow_of_eq still, breaker, events, List.append_nil]
      refine ⟨?_, h.past_eq, h.journal_eq, ?_⟩
      · rw [Breaker.credit_append, Breaker.credit_singleton, ← h.breaker_eq]
        rfl
      · exact (memory_mark_of_ne found other _).trans h.memory_eq

end Twin

/-! ## Runs -/

section Built

variable (name : String) (config : Config) (observers : List Observer) (created : Reading)

theorem twin_run (steps : List (Step ε α)) :
    Twin ((fresh name config observers created).strays steps)
      ((fresh name config observers created).run steps)
      ((fresh name config observers created).run
        ((fresh name config observers created).prune steps)) := by
  -- whether a step is kept depends on the ledger before it, so the last one is split off
  induction steps using List.reverseRecOn with
  | nil => exact .refl _
  | append_singleton steps s ih =>
    have known := isBalanced_run name config observers created steps
    rw [run_concat, prune_concat, strays_concat]
    cases stray : ((fresh name config observers created).run steps).isStray s with
    | true =>
      rw [if_pos rfl, List.append_nil]
      exact ih.stray known stray
    | false =>
      rw [if_neg Bool.false_ne_true, run_concat, strayed?_of_kept stray, Option.toList_none,
        List.append_nil]
      exact (ih.perform known (isBalanced_run name config observers created _) stray).2

theorem view_kept (steps : List (Step ε α)) :
    ((fresh name config observers created).kept steps).map Entry.view =
      ((fresh name config observers created).history
        ((fresh name config observers created).prune steps)).map Entry.view := by
  induction steps using List.reverseRecOn with
  | nil => rfl
  | append_singleton steps s ih =>
    rw [kept_concat, prune_concat, List.map_append, ih]
    cases stray : ((fresh name config observers created).run steps).isStray s with
    | true =>
      rw [if_pos rfl, if_pos rfl, List.append_nil]
      exact List.append_nil _
    | false =>
      have agree := (twin_run name config observers created steps).perform
        (isBalanced_run name config observers created steps)
        (isBalanced_run name config observers created _) stray
      rw [if_neg Bool.false_ne_true, if_neg Bool.false_ne_true, history_concat, List.map_append,
        List.map_singleton, List.map_singleton, agree.view_eq]

/-- If the reports of stale outcomes are left out of a run, then every other step
gets the same answer, leaves the breaker in the same state and makes its
observers do the same.  Only the totals of outcomes differ, by those left out. -/
theorem strays_do_not_interfere (steps : List (Step ε α)) :
    ((fresh name config observers created).kept steps).map Entry.view =
        ((fresh name config observers created).history
          ((fresh name config observers created).prune steps)).map Entry.view ∧
      ((fresh name config observers created).run steps).breaker =
        ((fresh name config observers created).run
          ((fresh name config observers created).prune steps)).breaker.credit
            ((fresh name config observers created).strays steps) ∧
      ((fresh name config observers created).run steps).journal =
        ((fresh name config observers created).run
          ((fresh name config observers created).prune steps)).journal := by
  have twin := twin_run name config observers created steps
  exact ⟨view_kept name config observers created steps, twin.breaker_eq, twin.journal_eq⟩

end Built

/-- A permit is given up after the circuit has opened and closed again. -/
def belatedSteps : List (Step Unit Unit) :=
  [⟨.acquire, .ok ⟨⟨0⟩, Clock.origin⟩⟩,
    ⟨.record .failure, .ok ⟨⟨0⟩, Clock.origin⟩⟩,
    ⟨.reset, .ok ⟨⟨1⟩, Clock.origin⟩⟩,
    ⟨.discard 0, .ok ⟨⟨2⟩, Clock.origin⟩⟩]

example :
    (fresh "belated" ⟨1, 10, 1⟩ [] ⟨⟨0⟩, Clock.origin⟩).strays belatedSteps = [.failure] := by
  decide

end Ledger

end GuardedCache.Circuit
