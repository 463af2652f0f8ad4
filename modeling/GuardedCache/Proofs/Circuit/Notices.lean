import GuardedCache.Proofs.Circuit.History

/-!
# What observers are told

The changes of state in a run form a chain from the closed state to the current
one, and the totals of a breaker count its links.  Each link is announced when
it is made: to every observer that has joined by then, in the order of joining,
and before the next link.  An observer is known by its position among the
observers of its breaker, so two that look alike are told apart.
-/

namespace GuardedCache.Circuit

variable {ε α : Type}

/-- A change of state that an observer is told of. -/
structure Delivery where
  position : Nat
  observer : Observer
  transition : Transition
deriving DecidableEq, Repr

def Delivery.events (d : Delivery) : List Event := d.observer.notify d.transition

/-- One transition is announced to one observer after the other. -/
def announce (observers : List Observer) (transition : Transition) : List Delivery :=
  observers.zipIdx.map fun (observer, position) => ⟨position, observer, transition⟩

theorem flatMap_events_announce (observers : List Observer) (transition : Transition) :
    (announce observers transition).flatMap Delivery.events =
      observers.flatMap (·.notify transition) :=
  calc (announce observers transition).flatMap Delivery.events
    _ = (observers.zipIdx.map Prod.fst).flatMap (·.notify transition) := by
      rw [announce, List.flatMap_map, List.flatMap_map]
      rfl
    _ = observers.flatMap (·.notify transition) := by rw [List.zipIdx_map_fst]

/-- Of one announcement each observer hears once. -/
theorem filter_announce (observers : List Observer) (transition : Transition)
    (position : Nat) :
    ((announce observers transition).filter fun d => d.position = position).map
        Delivery.transition =
      if position < observers.length then [transition] else [] := by
  -- positions may begin anywhere, so that the tail of the observers is an instance
  have shifted : ∀ first, (((observers.zipIdx first).map fun (observer, position) =>
      (⟨position, observer, transition⟩ : Delivery)).filter fun d => d.position = position).map
        Delivery.transition =
      if first ≤ position ∧ position < first + observers.length then [transition] else [] := by
    induction observers with
    | nil =>
      intro first
      rw [if_neg (by simp only [List.length_nil]; omega)]
      rfl
    | cons observer rest ih =>
      intro first
      simp only [List.zipIdx_cons, List.map_cons, List.filter_cons, List.length_cons]
      by_cases here : first = position
      · rw [if_pos (decide_eq_true here), List.map_cons, ih, if_neg (by omega),
          if_pos (by omega)]
      · have same : first + 1 ≤ position ∧ position < first + 1 + rest.length ↔
            first ≤ position ∧ position < first + (rest.length + 1) := by
          omega
        rw [if_neg (by simpa using here), ih]
        simp only [same]
  simpa [announce] using shifted 0

namespace Ledger

/-- Everything that is announced in a run, in order. -/
def deliveries (l : Ledger) (steps : List (Step ε α)) : List Delivery :=
  (l.history steps).flatMap fun e =>
    (e.before.transition? e.step).toList.flatMap (announce e.before.breaker.observers)

/-- What the observer with a position hears in a run. -/
def received (l : Ledger) (position : Nat) (steps : List (Step ε α)) : List Transition :=
  ((l.deliveries steps).filter fun d => d.position = position).map Delivery.transition

/-! ## The chain of transitions -/

theorem chain (l : Ledger) (steps : List (Step ε α)) :
    l.breaker.state :: (l.transitions steps).map Transition.target =
      (l.transitions steps).map Transition.source ++ [(l.run steps).breaker.state] := by
  induction steps generalizing l with
  | nil => rfl
  | cons s steps ih =>
    have rest := ih (l.step s)
    rw [transitions_cons, run_cons]
    cases l.turn s with
    | stays none stays =>
      rw [none, ← stays.state_eq]
      exact rest
    | enters target now read some edge enters =>
      rw [some]
      rw [enters.state_eq] at rest
      exact congrArg (l.breaker.state :: ·) rest

theorem epoch_run (l : Ledger) (steps : List (Step ε α)) :
    (l.run steps).breaker.phase.epoch =
      l.breaker.phase.epoch + (l.transitions steps).length := by
  induction steps generalizing l with
  | nil => rfl
  | cons s steps ih =>
    rw [transitions_cons, run_cons, ih, List.length_append]
    cases l.turn s with
    | stays none stays =>
      rw [none, stays.epoch_eq, Option.toList_none, List.length_nil, Nat.zero_add]
    | enters target now read some edge enters =>
      rw [some, enters.epoch_eq, Option.toList_some, List.length_singleton, Nat.add_assoc]

theorem entries_run (l : Ledger) (steps : List (Step ε α)) (state : State) :
    (l.run steps).breaker.totals.entries state =
      l.breaker.totals.entries state +
        ((l.transitions steps).map Transition.target).count state := by
  induction steps generalizing l with
  | nil => rfl
  | cons s steps ih =>
    rw [transitions_cons, run_cons, ih, List.map_append, List.count_append]
    cases l.turn s with
    | stays none stays =>
      rw [none, stays.entries_eq, Option.toList_none, List.map_nil, List.count_nil,
        Nat.zero_add]
    | enters target now read some edge enters =>
      rw [some, enters.entries_eq, Option.toList_some, List.map_singleton,
        List.count_singleton, Nat.add_assoc]
      simp only [beq_iff_eq]

theorem length_eq_counts (states : List State) :
    states.length = states.count .opened + states.count .halfOpen + states.count .closed := by
  induction states with
  | nil => rfl
  | cons state rest ih =>
    rw [List.length_cons, ih]
    cases state <;> simp only [List.count_cons] <;> simp <;> omega

/-! ## Who hears of a transition -/

theorem deliveries_cons (l : Ledger) (s : Step ε α) (steps : List (Step ε α)) :
    l.deliveries (s :: steps) =
      (l.transition? s).toList.flatMap (announce l.breaker.observers) ++
        (l.step s).deliveries steps :=
  List.flatMap_cons

theorem journal_run (l : Ledger) (steps : List (Step ε α)) :
    (l.run steps).journal =
      l.journal ++ (l.deliveries steps).flatMap Delivery.events := by
  induction steps generalizing l with
  | nil => exact (List.append_nil _).symm
  | cons s steps ih =>
    rw [run_cons, ih, deliveries_cons, List.flatMap_append, ← List.append_assoc]
    congr 1
    cases l.turn s with
    | stays none stays past journal =>
      rw [none, journal]
      exact (List.append_nil _).symm
    | enters target now read some edge enters past journal =>
      rw [some, journal, Option.toList_some, List.flatMap_singleton,
        flatMap_events_announce]
      rfl

theorem received_append (l : Ledger) (position : Nat) (before after : List (Step ε α)) :
    l.received position (before ++ after) =
      l.received position before ++ (l.run before).received position after := by
  simp only [received, deliveries, history_append, List.flatMap_append, List.filter_append,
    List.map_append]

theorem received_cons (l : Ledger) (position : Nat) (s : Step ε α) (steps : List (Step ε α)) :
    l.received position (s :: steps) =
      (if position < l.breaker.observers.length then (l.transition? s).toList else []) ++
        (l.step s).received position steps := by
  rw [received, deliveries_cons, List.filter_append, List.map_append]
  congr 1
  cases l.transition? s with
  | none => exact (ite_self _).symm
  | some transition =>
    rw [Option.toList_some, List.flatMap_singleton, filter_announce]

/-- An observer hears of every transition once it has joined. -/
theorem received_of_lt {l : Ledger} {position : Nat}
    (joined : position < l.breaker.observers.length) (steps : List (Step ε α)) :
    l.received position steps = l.transitions steps := by
  induction steps generalizing l with
  | nil => rfl
  | cons s steps ih =>
    have later : position < (l.step s).breaker.observers.length := by
      rw [observers_step, List.length_append]
      omega
    rw [received_cons, transitions_cons, if_pos joined, ih later]

/-- An observer hears of no transition before it joins. -/
theorem received_of_le {l : Ledger} {position : Nat} {steps : List (Step ε α)}
    (absent : (l.run steps).breaker.observers.length ≤ position) :
    l.received position steps = [] := by
  induction steps generalizing l with
  | nil => rfl
  | cons s steps ih =>
    have grown : l.breaker.observers.length ≤ (l.run (s :: steps)).breaker.observers.length := by
      rw [observers_run, List.length_append]
      omega
    rw [received_cons, if_neg (by omega), ih absent]
    rfl

/-- An observer that joins in the middle of a run hears of the rest. -/
theorem received_of_join (l : Ledger) (before : List (Step ε α)) (observer : Observer)
    (glance : Glance) (after : List (Step ε α)) :
    l.received (l.run before).breaker.observers.length
        (before ++ ⟨.addObserver observer, glance⟩ :: after) =
      (l.run (before ++ [⟨.addObserver observer, glance⟩])).transitions after := by
  have joined : (l.run before).breaker.observers.length <
      ((l.run before).step
        (⟨.addObserver observer, glance⟩ : Step ε α)).breaker.observers.length := by
    rw [observers_step, List.length_append]
    exact Nat.lt_succ_self _
  rw [received_append, received_of_le (Nat.le_refl _), received_cons,
    if_neg (Nat.lt_irrefl _), run_concat, received_of_lt joined]
  rfl

/-- A delivery goes to the observer that its position names for good. -/
theorem observer_of_mem_deliveries {l : Ledger} {steps : List (Step ε α)} {d : Delivery}
    (member : d ∈ l.deliveries steps) :
    (l.run steps).breaker.observers[d.position]? = some d.observer := by
  obtain ⟨e, entry, told⟩ := List.mem_flatMap.mp member
  obtain ⟨transition, _, told⟩ := List.mem_flatMap.mp told
  obtain ⟨⟨observer, position⟩, indexed, rfl⟩ := List.mem_map.mp told
  obtain ⟨before, after, rfl, same⟩ := exists_of_mem_history entry
  have found := List.mem_zipIdx_iff_getElem?.mp indexed
  obtain ⟨inside, _⟩ := List.getElem?_eq_some_iff.mp found
  rw [run_append, observers_run, ← same, List.getElem?_append_left inside]
  exact found

/-! ## Everything together -/

/-- What a run of a breaker with a name leaves behind: a chain of transitions,
the announcements of them, and the totals that count them. -/
structure Chronicle (name : String) (l : Ledger) (steps : List (Step ε α)) : Prop where
  /-- Each transition begins where the one before it ended. -/
  chain : .closed :: (l.transitions steps).map Transition.target =
    (l.transitions steps).map Transition.source ++ [(l.run steps).breaker.state]
  edges : ∀ e ∈ l.history steps, ∀ t, e.before.transition? e.step = some t →
    t.breaker = name ∧ t.source ≠ t.target ∧ Edge e.step.action.isReset t.source t.target
  announced : (l.run steps).journal = (l.deliveries steps).flatMap Delivery.events
  addressed : ∀ d ∈ l.deliveries steps,
    (l.run steps).breaker.observers[d.position]? = some d.observer
  founders : ∀ position < l.breaker.observers.length,
    l.received position steps = l.transitions steps
  joiners : ∀ before observer glance after,
    steps = before ++ ⟨.addObserver observer, glance⟩ :: after →
      l.received (l.run before).breaker.observers.length steps =
        (l.run (before ++ [⟨.addObserver observer, glance⟩])).transitions after
  opened : (l.run steps).breaker.totals.opened =
    ((l.transitions steps).map Transition.target).count .opened
  halfOpened : (l.run steps).breaker.totals.halfOpened =
    ((l.transitions steps).map Transition.target).count .halfOpen
  closed : (l.run steps).breaker.totals.closed =
    ((l.transitions steps).map Transition.target).count .closed
  total : (l.run steps).breaker.totals.opened + (l.run steps).breaker.totals.halfOpened +
    (l.run steps).breaker.totals.closed = (l.run steps).breaker.phase.epoch

section Built

variable (name : String) (config : Config) (observers : List Observer) (created : Reading)

theorem entries_fresh_run (steps : List (Step ε α)) (state : State) :
    ((fresh name config observers created).run steps).breaker.totals.entries state =
      (((fresh name config observers created).transitions steps).map
        Transition.target).count state := by
  have none : (fresh name config observers created).breaker.totals.entries state = 0 := by
    cases state <;> rfl
  rw [entries_run, none, Nat.zero_add]

theorem edge_of_mem_history {steps : List (Step ε α)} {e : Entry ε α}
    (member : e ∈ (fresh name config observers created).history steps) {t : Transition}
    (changed : e.before.transition? e.step = some t) :
    t.breaker = name ∧ Edge e.step.action.isReset t.source t.target := by
  obtain ⟨before, _, _, same⟩ := exists_of_mem_history member
  cases e.before.turn e.step with
  | stays none => cases none.symm.trans changed
  | enters target now read some edge =>
    cases some.symm.trans changed
    refine ⟨?_, edge⟩
    rw [same, name_run]
    rfl

/-- Every run of a breaker that was just built leaves a chain of transitions
from the closed state behind.  They are announced under its name to all who
have joined, once and in order, and its totals count them. -/
theorem chronicle (steps : List (Step ε α)) :
    (fresh name config observers created).Chronicle name steps := by
  have opened := entries_fresh_run name config observers created steps .opened
  have halfOpened := entries_fresh_run name config observers created steps .halfOpen
  have closed := entries_fresh_run name config observers created steps .closed
  have epoch := (fresh name config observers created).epoch_run steps
  have length := length_eq_counts
    (((fresh name config observers created).transitions steps).map Transition.target)
  rw [List.length_map] at length
  exact {
    chain := (fresh name config observers created).chain steps
    edges := fun e member t changed => by
      obtain ⟨named, edge⟩ := edge_of_mem_history name config observers created member changed
      exact ⟨named, edge.ne, edge⟩
    announced := (fresh name config observers created).journal_run steps
    addressed := fun d member => observer_of_mem_deliveries member
    founders := fun position joined => received_of_lt joined steps
    joiners := by
      rintro before observer glance after rfl
      exact received_of_join _ before observer glance after
    opened := opened
    halfOpened := halfOpened
    closed := closed
    total := by
      change _ = 0 + _ at epoch
      simp only [Totals.entries] at opened halfOpened closed
      omega }

end Built

end Ledger

end GuardedCache.Circuit
