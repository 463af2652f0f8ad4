import GuardedCache.Proofs.Circuit.Accounting
import GuardedCache.Proofs.Circuit.Passages

/-!
# The history of a run

The history of a run lists its steps, each with the ledger before it.  Whether
a step changed the state of the circuit is seen from outside, by comparing the
ledgers before and after it.  `Turn` says what comes with that: a step that
changed nothing told nobody, and one that did took an edge between two states
and told every observer that had joined by then.
-/

namespace GuardedCache.Circuit

variable {ε α : Type}

namespace Action

def isReset : Action ε α → Bool
  | .reset => true
  | _ => false

/-- The observers that join with an action. -/
def joining : Action ε α → List Observer
  | .addObserver observer => [observer]
  | _ => []

theorem isReset_eq_true_iff {action : Action ε α} : action.isReset = true ↔ action = .reset := by
  cases action <;> simp [isReset]

end Action

/-- A step of a run with the ledger before it. -/
structure Entry (ε α : Type) where
  before : Ledger
  step : Step ε α

namespace Ledger

/-- The change of state that is seen when a step is done. -/
def transition? (l : Ledger) (s : Step ε α) : Option Transition :=
  if (l.step s).breaker.state = l.breaker.state then none
  else some ⟨l.breaker.name, l.breaker.state, (l.step s).breaker.state⟩

def history (l : Ledger) : List (Step ε α) → List (Entry ε α)
  | [] => []
  | s :: steps => ⟨l, s⟩ :: (l.step s).history steps

/-- The changes of state in a run, in order. -/
def transitions (l : Ledger) (steps : List (Step ε α)) : List Transition :=
  (l.history steps).filterMap fun e => e.before.transition? e.step

theorem run_append (l : Ledger) (before after : List (Step ε α)) :
    l.run (before ++ after) = (l.run before).run after :=
  List.foldl_append

theorem run_concat (l : Ledger) (steps : List (Step ε α)) (s : Step ε α) :
    l.run (steps ++ [s]) = (l.run steps).step s :=
  l.run_append steps [s]

theorem history_append (l : Ledger) (before after : List (Step ε α)) :
    l.history (before ++ after) = l.history before ++ (l.run before).history after := by
  induction before generalizing l with
  | nil => rfl
  | cons s before ih => exact congrArg (⟨l, s⟩ :: ·) (ih (l.step s))

theorem history_concat (l : Ledger) (steps : List (Step ε α)) (s : Step ε α) :
    l.history (steps ++ [s]) = l.history steps ++ [⟨l.run steps, s⟩] :=
  l.history_append steps [s]

theorem transitions_cons (l : Ledger) (s : Step ε α) (steps : List (Step ε α)) :
    l.transitions (s :: steps) =
      (l.transition? s).toList ++ (l.step s).transitions steps := by
  rw [transitions, history, List.filterMap_cons]
  cases l.transition? s <;> rfl

theorem exists_of_mem_history {l : Ledger} {steps : List (Step ε α)} {e : Entry ε α}
    (member : e ∈ l.history steps) :
    ∃ before after, steps = before ++ e.step :: after ∧ e.before = l.run before := by
  induction steps generalizing l with
  | nil => cases member
  | cons s steps ih =>
    rcases List.mem_cons.mp member with rfl | member
    · exact ⟨[], steps, rfl, rfl⟩
    · obtain ⟨before, after, rfl, same⟩ := ih member
      exact ⟨s :: before, after, rfl, same⟩

/-! ## What a step does to the state -/

/-- A step lets an observer join, does nothing since its permit is not held, or
follows an operation of the breaker. -/
inductive Origin (l : Ledger) (s : Step ε α) : Prop where
  | joins (observer : Observer) (action : s.action = .addObserver observer)
      (after : l.step s = l.addObserver observer)
  | idle (quiet : s.action.joining = []) (after : l.step s = l)
  | follows {β : Type} (effect : Effect β) (quiet : s.action.joining = [])
      (passage : l.breaker.Passage s.action.isReset s.glance effect)
      (breaker : (l.step s).breaker = effect.breaker)
      (past : (l.step s).past = (l.follow effect).past)
      (journal : (l.step s).journal = (l.follow effect).journal)

/-- A step leaves the state alone and tells nobody, or it takes an edge to
another state and tells every observer. -/
inductive Turn (l : Ledger) (s : Step ε α) : Prop where
  | stays (none : l.transition? s = none) (stays : l.breaker.Stays (l.step s).breaker)
      (past : (l.step s).past = l.past) (journal : (l.step s).journal = l.journal)
  | enters (target : State) (now : Reading) (read : s.glance = .ok now)
      (some : l.transition? s = some ⟨l.breaker.name, l.breaker.state, target⟩)
      (edge : Edge s.action.isReset l.breaker.state target)
      (enters : l.breaker.Enters target now (l.step s).breaker)
      (past : (l.step s).past = l.past ++ [l.breaker.state])
      (journal : (l.step s).journal = l.journal ++ l.breaker.notices target)

private theorem origin_acquire {l : Ledger} {s : Step ε α} (working : Bool)
    (after : l.step s = (l.acquire working s.glance).2)
    (kind : s.action.isReset = false) (quiet : s.action.joining = []) : l.Origin s := by
  have passage := l.breaker.passage_acquire s.glance
  rw [← kind] at passage
  rw [acquire] at after
  refine .follows _ quiet passage ?_ ?_ ?_
  all_goals
    rw [after]
    generalize l.breaker.acquire s.glance = effect
    rcases effect with ⟨_ | _ | permit, breaker, events⟩ <;> rfl

private theorem origin_resolve {l : Ledger} {s : Step ε α} {number : Nat} {outcome : Outcome}
    (after : l.step s = (l.resolve number outcome s.glance).2)
    (kind : s.action.isReset = false) (quiet : s.action.joining = []) : l.Origin s := by
  rw [resolve] at after
  cases held : l.held? number with
  | none =>
    rw [held] at after
    exact .idle quiet after
  | some slip =>
    rw [held] at after
    have passage := l.breaker.passage_report outcome (some slip.permit) s.glance
    rw [← kind] at passage
    exact .follows _ quiet passage (by rw [after]; rfl) (by rw [after]; rfl)
      (by rw [after]; rfl)

theorem origin (l : Ledger) (s : Step ε α) : l.Origin s := by
  obtain ⟨action, glance⟩ := s
  cases action with
  | allow => exact .follows _ rfl (l.breaker.passage_allow glance) rfl rfl rfl
  | acquire => exact origin_acquire false rfl rfl rfl
  | start => exact origin_acquire true rfl rfl rfl
  | settle number outcome => exact origin_resolve rfl rfl rfl
  | discard number => exact origin_resolve rfl rfl rfl
  | finish number work => exact origin_resolve rfl rfl rfl
  | record outcome =>
    exact .follows _ rfl (l.breaker.passage_report outcome none glance) rfl rfl rfl
  | reset => exact .follows _ rfl (l.breaker.passage_reset glance) rfl rfl rfl
  | addObserver observer => exact .joins observer rfl rfl

theorem turn (l : Ledger) (s : Step ε α) : l.Turn s := by
  have still : l.breaker.Stays (l.step s).breaker → l.transition? s = none :=
    fun stays => if_pos stays.state_eq
  cases l.origin s with
  | joins observer action after =>
    have stays : l.breaker.Stays (l.step s).breaker := by
      rw [after]
      exact ⟨rfl, rfl, rfl, rfl, rfl⟩
    exact .stays (still stays) stays (by rw [after]; rfl) (by rw [after]; rfl)
  | idle quiet after =>
    have stays : l.breaker.Stays (l.step s).breaker := by
      rw [after]
      exact .refl l.breaker
    exact .stays (still stays) stays (by rw [after]) (by rw [after])
  | follows effect quiet passage breaker past journal =>
    rw [follow] at past journal
    rw [← breaker] at past
    rcases passage.turn with ⟨stays, silent⟩ | ⟨target, now, read, edge, enters, told⟩
    · rw [← breaker] at stays
      rw [if_pos stays.state_eq] at past
      rw [silent, List.append_nil] at journal
      exact .stays (still stays) stays past journal
    · rw [← breaker] at enters
      have other : (l.step s).breaker.state ≠ l.breaker.state := by
        rw [enters.state_eq]
        exact edge.ne.symm
      rw [if_neg other] at past
      rw [told] at journal
      refine .enters target now read ?_ edge enters past journal
      rw [transition?, if_neg other, enters.state_eq]

/-! ## Names and observers -/

theorem name_step (l : Ledger) (s : Step ε α) : (l.step s).breaker.name = l.breaker.name := by
  cases l.origin s with
  | joins observer action after =>
    rw [after]
    rfl
  | idle quiet after => rw [after]
  | follows effect quiet passage breaker past journal => rw [breaker, passage.name_eq]

/-- New observers join behind those that are there. -/
theorem observers_step (l : Ledger) (s : Step ε α) :
    (l.step s).breaker.observers = l.breaker.observers ++ s.action.joining := by
  cases l.origin s with
  | joins observer action after =>
    rw [after, action]
    rfl
  | idle quiet after => rw [after, quiet, List.append_nil]
  | follows effect quiet passage breaker past journal =>
    rw [breaker, quiet, List.append_nil, passage.observers_eq]

theorem name_run (l : Ledger) (steps : List (Step ε α)) :
    (l.run steps).breaker.name = l.breaker.name :=
  run_induction (P := fun after => after.breaker.name = l.breaker.name) (fun _ => True) rfl
    (fun after s _ same => (after.name_step s).trans same) fun _ _ => trivial

theorem observers_run (l : Ledger) (steps : List (Step ε α)) :
    (l.run steps).breaker.observers =
      l.breaker.observers ++ steps.flatMap fun s => s.action.joining := by
  induction steps generalizing l with
  | nil => exact (List.append_nil _).symm
  | cons s steps ih =>
    rw [run_cons, ih, observers_step, List.flatMap_cons, List.append_assoc]

end Ledger

end GuardedCache.Circuit
