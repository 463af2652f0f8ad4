import GuardedCache.Admin
import GuardedCache.Proofs.Circuit.Usage
import GuardedCache.Protected.Site

/-!
# Traffic at a site

Visits of a site overlap.  Between the start of a visit and its end others may start or
end, the breakers may be used by anyone or administered, and the store may change by
itself.  A run is a list of such moves in any order; when a visit ends is up to the run,
and not to the time that the visit takes.
-/

namespace GuardedCache

open Circuit

/-- The administration changes a fleet at most by forgetting a breaker or closing one. -/
theorem Admin.respond_snd (method : String) (target : Http.Target) (f : Fleet) :
    (respond method target f).2 = f ∨
      (∃ name, (respond method target f).2 = (f.remove name).2) ∨
      ∃ name, (respond method target f).2 = (f.resetNamed name).2 := by
  have asked (request : ResetRequest) :
      (reset request f).2 = f ∨ (∃ name, (reset request f).2 = (f.remove name).2) ∨
        ∃ name, (reset request f).2 = (f.resetNamed name).2 := by
    rw [reset]
    cases request.name.filter (· ≠ "") with
    | none => exact .inl rfl
    | some name =>
      by_cases keep : request.keepConfig = some true
      · simp only [if_pos keep]
        exact .inr (.inr ⟨name, rfl⟩)
      · simp only [if_neg keep]
        exact .inr (.inl ⟨name, rfl⟩)
  rw [respond]
  split
  · exact .inl rfl
  · split
    · exact .inl rfl
    · split
      · split
        · cases ResetRequest.ofQuery target.query with
          | ok request => exact asked request
          | error error => exact .inl rfl
        · exact .inl rfl
      · exact .inl rfl

theorem Circuit.Fleet.IsSound.respond {f : Fleet} (sound : f.IsSound) (method : String)
    (target : Http.Target) : (Admin.respond method target f).2.IsSound := by
  rcases Admin.respond_snd method target f with same | ⟨name, same⟩ | ⟨name, same⟩
  · rw [same]
    exact sound
  · rw [same]
    exact sound.afterUse (.remove name)
  · rw [same]
    exact sound.afterUse (.resetNamed name)

namespace Protected

/-- What can happen at a site. -/
inductive Move (ν σ : Type) where
  | start (visit : ν)
  /-- The store is done with the visit that has a number in the order of their starts. -/
  | finish (number : Nat)
  | use (u : Fleet.Use)
  | admin (method : String) (target : Http.Target)
  | drift (change : σ → σ)

namespace Move

variable {ν μ σ : Type}

/-- The move with another kind of visit. -/
def map (f : ν → μ) : Move ν σ → Move μ σ
  | .start visit => .start (f visit)
  | .finish number => .finish number
  | .use u => .use u
  | .admin method target => .admin method target
  | .drift change => .drift change

/-- The visit that starts. -/
def visit? : Move ν σ → Option ν
  | .start visit => some visit
  | _ => none

/-- A visit starts or ends. -/
def IsCall : Move ν σ → Prop
  | .start _ => True
  | .finish _ => True
  | _ => False

end Move

/-- How far a visit has come. -/
abbrev Progress (σ : Type) := Schedule.Stage (Visit.Open σ) VisitAnswer

theorem getElem?_concat_eq_some_iff {α : Type} {l : List α} {last a : α} {index : Nat} :
    (l ++ [last])[index]? = some a ↔ l[index]? = some a ∨ index = l.length ∧ last = a := by
  rcases Nat.lt_trichotomy index l.length with inside | rfl | outside
  · simp [List.getElem?_append_left inside, Nat.ne_of_lt inside]
  · simp
  · have beyond : (l ++ [last]).length ≤ index := by
      rw [List.length_append]
      exact outside
    simp [List.getElem?_eq_none beyond, List.getElem?_eq_none (Nat.le_of_lt outside),
      Nat.ne_of_gt outside]

/-- A site with all its visits, in the order of their starts. -/
structure Traffic (σ : Type) where
  site : Site σ
  stages : List (Progress σ) := []
  /-- The visits that the store has received. -/
  received : List (Visit σ) := []

namespace Traffic

variable {σ : Type}

def start (t : Traffic σ) (visit : Visit σ) : Traffic σ :=
  let (stage, site) := visit.start t.site
  { site
    stages := t.stages ++ [stage]
    received := if site.calls = t.site.calls then t.received else t.received ++ [visit] }

/-- The store is done with a visit, if it still waits. -/
def finish (t : Traffic σ) (number : Nat) : Traffic σ :=
  match t.stages[number]? with
  | some (.waiting _ rest) =>
    let (answer, site) := Visit.finish rest t.site
    { t with site, stages := t.stages.set number (.ended answer) }
  | _ => t

def withFleet (t : Traffic σ) (fleet : Fleet) : Traffic σ :=
  { t with site := { t.site with fleet } }

def step (t : Traffic σ) : Move (Visit σ) σ → Traffic σ
  | .start visit => t.start visit
  | .finish number => t.finish number
  | .use u => t.withFleet (t.site.fleet.afterUse u)
  | .admin method target => t.withFleet (Admin.respond method target t.site.fleet).2
  | .drift change => { t with site := { t.site with store := change t.site.store } }

def run (t : Traffic σ) (moves : List (Move (Visit σ) σ)) : Traffic σ := moves.foldl step t

/-- The answers to all visits; there is none as long as a visit waits. -/
def answers (t : Traffic σ) : List (Option VisitAnswer) :=
  t.stages.map fun
    | .ended answer => some answer
    | .waiting _ _ => none

/-- A move of a run, with what was there before. -/
structure Passage (σ : Type) where
  before : Traffic σ
  move : Move (Visit σ) σ

def Passage.after (p : Passage σ) : Traffic σ := p.before.step p.move

def history (t : Traffic σ) : List (Move (Visit σ) σ) → List (Passage σ)
  | [] => []
  | m :: moves => ⟨t, m⟩ :: (t.step m).history moves

@[simp]
theorem run_cons (t : Traffic σ) (m : Move (Visit σ) σ) (moves : List (Move (Visit σ) σ)) :
    t.run (m :: moves) = (t.step m).run moves := rfl

theorem run_append (t : Traffic σ) (moves more : List (Move (Visit σ) σ)) :
    t.run (moves ++ more) = (t.run moves).run more :=
  List.foldl_append

/-! ## What stays as it is -/

theorem finish_of_waiting {t : Traffic σ} {number : Nat} {after : Duration}
    {rest : Visit.Open σ} (waiting : t.stages[number]? = some (.waiting after rest)) :
    t.finish number =
      { t with
        site := (Visit.finish rest t.site).2
        stages := t.stages.set number (.ended (Visit.finish rest t.site).1) } := by
  rw [finish, waiting]

theorem finish_of_not_waiting {t : Traffic σ} {number : Nat}
    (idle : ∀ after rest, t.stages[number]? ≠ some (.waiting after rest)) :
    t.finish number = t := by
  rw [finish]
  split
  · next after rest waiting => exact absurd waiting (idle after rest)
  · rfl

/-- A visit that is over stays over, with the same answer. -/
theorem ended_step {t : Traffic σ} {number : Nat} {answer : VisitAnswer}
    (ended : t.stages[number]? = some (.ended answer)) (m : Move (Visit σ) σ) :
    (t.step m).stages[number]? = some (.ended answer) := by
  cases m with
  | start visit =>
    obtain ⟨inside, _⟩ := List.getElem?_eq_some_iff.mp ended
    exact (List.getElem?_append_left inside).trans ended
  | finish other =>
    rw [step, finish]
    split
    · next after rest waiting =>
      have different : other ≠ number := by
        rintro rfl
        cases ended.symm.trans waiting
      exact (List.getElem?_set_ne different).trans ended
    · exact ended
  | _ => exact ended

theorem ended_run {t : Traffic σ} {answer : VisitAnswer} (moves : List (Move (Visit σ) σ))
    (ended : .ended answer ∈ t.stages) : .ended answer ∈ (t.run moves).stages := by
  rw [List.mem_iff_getElem?] at ended ⊢
  obtain ⟨number, ended⟩ := ended
  refine ⟨number, ?_⟩
  induction moves generalizing t with
  | nil => exact ended
  | cons m moves ih => exact ih (ended_step ended m)

/-- What is said of all visits that are over at the end of a run can be said before. -/
theorem forall_stages_of_run {t : Traffic σ} (moves : List (Move (Visit σ) σ))
    {good : Progress σ → Bool} (waiting : ∀ after rest, good (.waiting after rest) = true)
    (last : ∀ stage ∈ (t.run moves).stages, good stage = true) :
    ∀ stage ∈ t.stages, good stage = true := by
  intro stage member
  cases stage with
  | ended answer => exact last _ (ended_run moves member)
  | waiting after rest => exact waiting after rest

end Traffic

end Protected

end GuardedCache
