import Mathlib.Data.List.Forall2
import GuardedCache.Proofs.Protected.Calls
import GuardedCache.Proofs.Protected.Traffic

/-!
# Asking a store without breakers

What a store does for its callers can be told without sites and visits: it is asked when a call
ends, and answers from what it has in it then.  A `Queue` is a store with the calls that were
started, in the order of their starts, and what they were answered.

Visits that go around the breakers do the same (`Traffic.Serves.run`), so a queue says what they
come to in the words of the store alone.
-/

namespace GuardedCache.Protected

open Circuit Store

/-! ## Lists side by side -/

section Lists

variable {α β : Type} {R : α → β → Prop} {left : List α} {right : List β}

theorem exists_of_forall₂ (h : List.Forall₂ R left right) {index : Nat} {b : β}
    (found : right[index]? = some b) : ∃ a, left[index]? = some a ∧ R a b := by
  induction h generalizing index with
  | nil => cases found
  | cons related _ ih =>
    cases index with
    | zero =>
      cases found
      exact ⟨_, rfl, related⟩
    | succ index => exact ih found

/-- Where nothing is on the one side, nothing is on the other. -/
theorem getElem?_eq_none_of_forall₂ (h : List.Forall₂ R left right) {index : Nat}
    (absent : right[index]? = none) : left[index]? = none := by
  rw [List.getElem?_eq_none_iff] at absent ⊢
  rwa [h.length_eq]

theorem forall₂_concat (h : List.Forall₂ R left right) {a : α} {b : β} (related : R a b) :
    List.Forall₂ R (left ++ [a]) (right ++ [b]) :=
  List.rel_append h (.cons related .nil)

theorem forall₂_set (h : List.Forall₂ R left right) (place : Nat) {a : α} {b : β}
    (related : R a b) : List.Forall₂ R (left.set place a) (right.set place b) := by
  induction h generalizing place with
  | nil => exact .nil
  | cons head tail ih =>
    cases place with
    | zero => exact .cons related tail
    | succ place => exact .cons head (ih place)

end Lists

/-! ## A store and its callers -/

/-- A call for a request, and how long the store takes to answer it. -/
structure Errand where
  request : Request
  delay : Duration := .zero

/-- What has become of a request. -/
inductive Asked where
  | waiting (request : Request)
  | answered (reply : Except CacheError Response)

/-- A store, and what has become of the requests that were made, in their order. -/
structure Queue (σ : Type) where
  store : σ
  asked : List Asked := []

section Store

variable {σ : Type} (store : MessageStore σ)

namespace Queue

/-- A request that takes no time is answered at once. -/
def start (q : Queue σ) (e : Errand) : Queue σ :=
  if e.delay = .zero then
    { store := (store.answer e.request q.store).2
      asked := q.asked ++ [.answered (store.answer e.request q.store).1] }
  else { q with asked := q.asked ++ [.waiting e.request] }

/-- The store answers a request, if it still waits. -/
def finish (q : Queue σ) (number : Nat) : Queue σ :=
  match q.asked[number]? with
  | some (.waiting request) =>
    { store := (store.answer request q.store).2
      asked := q.asked.set number (.answered (store.answer request q.store).1) }
  | _ => q

/-- Whoever uses the breakers makes no difference to a store without them. -/
def step (q : Queue σ) : Move Errand σ → Queue σ
  | .start e => q.start store e
  | .finish number => q.finish store number
  | .use _ => q
  | .admin _ _ => q
  | .drift change => { q with store := change q.store }

def run (q : Queue σ) (moves : List (Move Errand σ)) : Queue σ := moves.foldl (step store) q

end Queue

/-! ## Visits around the breakers -/

/-- The call around the breakers. -/
def Errand.direct (e : Errand) : Visit σ :=
  { Visit.ofRequest store e.request e.delay with direct := true }

/-- A visit around the breakers has come as far as its request. -/
inductive Progress.Serves : Progress σ → Asked → Prop where
  | waiting (after : Duration) (e : Errand) :
      Progress.Serves (.waiting after ⟨e.direct store, none, .finished⟩) (.waiting e.request)
  | answered (reply : Except CacheError Response) :
      Progress.Serves (.ended (.direct (.ofExcept reply))) (.answered reply)

/-- The visits of a site around its breakers do what the store does. -/
structure Traffic.Serves (t : Traffic σ) (q : Queue σ) : Prop where
  store_eq : t.site.store = q.store
  stages : List.Forall₂ (Progress.Serves store) t.stages q.asked

namespace Traffic.Serves

variable {store} {t : Traffic σ} {q : Queue σ}

theorem start (h : t.Serves store q) (e : Errand) :
    (t.start (e.direct store)).Serves store (q.start store e) := by
  have due : Schedule.due (e.direct store).delay none (e.direct store).cancelAfter =
      ⟨e.delay, .finished⟩ := rfl
  have around : (e.direct store).start t.site = (e.direct store).send none none t.site := rfl
  rw [Traffic.start, around, Visit.send, due, Queue.start]
  by_cases instant : e.delay = .zero
  · simp only [if_pos instant]
    refine ⟨?_, ?_⟩
    · rw [← h.store_eq]
      rfl
    · rw [← h.store_eq]
      exact forall₂_concat h.stages (.answered _)
  · simp only [if_neg instant]
    exact ⟨h.store_eq, forall₂_concat h.stages (.waiting e.delay e)⟩

theorem finish (h : t.Serves store q) (number : Nat) :
    (t.finish number).Serves store (q.finish store number) := by
  cases found : q.asked[number]? with
  | none =>
    have absent := getElem?_eq_none_of_forall₂ h.stages found
    rw [finish_of_not_waiting (by rw [absent]; exact nofun), Queue.finish, found]
    exact h
  | some asked =>
    obtain ⟨stage, there, serves⟩ := exists_of_forall₂ h.stages found
    cases serves with
    | answered reply =>
      rw [finish_of_not_waiting (by rw [there]; exact nofun), Queue.finish, found]
      exact h
    | waiting after e =>
      rw [finish_of_waiting there, Queue.finish, found]
      refine ⟨?_, ?_⟩
      · rw [← h.store_eq]
        rfl
      · rw [← h.store_eq]
        exact forall₂_set h.stages number (.answered _)

theorem step (h : t.Serves store q) (m : Move Errand σ) :
    (t.step (m.map (·.direct store))).Serves store (q.step store m) := by
  cases m with
  | start e => exact h.start e
  | finish number => exact h.finish number
  | use u => exact ⟨h.store_eq, h.stages⟩
  | admin method target => exact ⟨h.store_eq, h.stages⟩
  | drift change => exact ⟨congrArg change h.store_eq, h.stages⟩

/-- Whatever calls start and end, in whatever order, the visits come to what the store does. -/
theorem run (h : t.Serves store q) (moves : List (Move Errand σ)) :
    (t.run (moves.map (.map (·.direct store)))).Serves store (q.run store moves) := by
  induction moves generalizing t q with
  | nil => exact h
  | cons m moves ih => exact ih (h.step m)

end Traffic.Serves

end Store

end GuardedCache.Protected
