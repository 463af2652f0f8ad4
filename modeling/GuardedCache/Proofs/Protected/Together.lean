import GuardedCache.Proofs.Protected.Traffic

/-!
# Visits that are started together

A site runs such visits on a timer.  What it does then is one of the runs of traffic, so
what holds of all of them holds of it.
-/

namespace GuardedCache.Protected

open Circuit

/-! ## Answers with numbers -/

section Numbered

variable {α : Type}

def numbered (answers : List α) : List (Nat × α) := answers.zipIdx.map Prod.swap

theorem mem_numbered_iff {answers : List α} {number : Nat} {answer : α} :
    (number, answer) ∈ numbered answers ↔ answers[number]? = some answer := by
  rw [← List.mk_mem_zipIdx_iff_getElem?]
  constructor
  · intro member
    obtain ⟨⟨_, _⟩, found, equal⟩ := List.mem_map.mp member
    cases equal
    exact found
  · exact fun found => List.mem_map.mpr ⟨(answer, number), found, rfl⟩

theorem numbered_increasing (answers : List α) :
    (numbered answers).Pairwise fun a b => a.1 < b.1 := by
  have numbers : (answers.zipIdx.map Prod.snd).Pairwise (· < ·) := by
    rw [List.zipIdx_map_snd]
    exact List.pairwise_lt_range'
  exact List.pairwise_map.mpr (List.pairwise_map.mp numbers)

theorem sorted_by_number (booked : List (Nat × α)) :
    (booked.mergeSort fun a b => decide (a.1 ≤ b.1)).Pairwise fun a b => a.1 ≤ b.1 := by
  have sorted : (booked.mergeSort fun a b => decide (a.1 ≤ b.1)).Pairwise
      fun a b => decide (a.1 ≤ b.1) = true := by
    refine List.pairwise_mergeSort (fun a b c first second => ?_) (fun a b => ?_) booked
    · rw [decide_eq_true_eq] at first second ⊢
      exact Nat.le_trans first second
    · simpa using Nat.le_total a.1 b.1
  exact sorted.imp of_decide_eq_true

/-- Answers that are sorted by their numbers stand where their numbers tell. -/
theorem map_snd_mergeSort {booked : List (Nat × α)} {answers : List α} (distinct : booked.Nodup)
    (mem_iff : ∀ number answer, (number, answer) ∈ booked ↔ answers[number]? = some answer) :
    (booked.mergeSort fun a b => decide (a.1 ≤ b.1)).map Prod.snd = answers := by
  have increasing := numbered_increasing answers
  have same : booked.Perm (numbered answers) := by
    refine (List.perm_ext_iff_of_nodup distinct ?_).mpr ?_
    · exact increasing.imp fun below equal => Nat.ne_of_lt below (congrArg Prod.fst equal)
    · exact fun entry => (mem_iff entry.1 entry.2).trans mem_numbered_iff.symm
  have antisymm (a b : Nat × α) (ha : a ∈ booked.mergeSort fun a b => decide (a.1 ≤ b.1))
      (hb : b ∈ numbered answers) (below : a.1 ≤ b.1) (above : b.1 ≤ a.1) : a = b := by
    obtain ⟨number, answer⟩ := a
    obtain ⟨number', answer'⟩ := b
    cases Nat.le_antisymm below above
    have left := (mem_iff number answer).mp (List.mem_mergeSort.mp ha)
    cases left.symm.trans (mem_numbered_iff.mp hb)
    rfl
  rw [List.Perm.eq_of_pairwise antisymm (sorted_by_number booked) (increasing.imp Nat.le_of_lt)
    ((List.mergeSort_perm booked _).trans same), numbered, List.map_map]
  exact List.zipIdx_map_fst 0 answers

end Numbered

/-! ## Visits with numbers -/

namespace Traffic

variable {σ : Type}

/-- The visits of a site are sorted into the answers of those that are over and the rest of
those that wait, each with its number. -/
structure Books (t : Traffic σ) (ended : List (Nat × VisitAnswer))
    (waiting : List (Schedule.Waiting (Visit.Open σ))) : Prop where
  mem_ended_iff : ∀ number answer,
    (number, answer) ∈ ended ↔ t.stages[number]? = some (.ended answer)
  mem_waiting_iff : ∀ w, w ∈ waiting ↔ t.stages[w.index]? = some (.waiting w.after w.rest)
  ended_nodup : ended.Nodup
  waiting_nodup : waiting.Nodup

namespace Books

variable {t : Traffic σ} {ended : List (Nat × VisitAnswer)}
  {waiting : List (Schedule.Waiting (Visit.Open σ))}

theorem perm {waiting' : List (Schedule.Waiting (Visit.Open σ))} (h : t.Books ended waiting)
    (order : waiting'.Perm waiting) : t.Books ended waiting' where
  mem_ended_iff := h.mem_ended_iff
  mem_waiting_iff w := order.mem_iff.trans (h.mem_waiting_iff w)
  ended_nodup := h.ended_nodup
  waiting_nodup := order.nodup_iff.mpr h.waiting_nodup

/-- A visit that is over as soon as it starts gets the next number. -/
theorem start_ended (h : t.Books ended waiting) {visit : Visit σ} {answer : VisitAnswer}
    (ends : (visit.start t.site).1 = .ended answer) :
    (t.start visit).Books (ended ++ [(t.stages.length, answer)]) waiting := by
  have stages : (t.start visit).stages = t.stages ++ [.ended answer] :=
    congrArg (t.stages ++ [·]) ends
  have absent : (t.stages.length, answer) ∉ ended := by
    rw [h.mem_ended_iff, List.getElem?_eq_none (Nat.le_refl _)]
    exact nofun
  constructor
  · intro number other
    rw [stages, List.mem_append, h.mem_ended_iff, getElem?_concat_eq_some_iff]
    simp [eq_comm]
  · intro w
    rw [stages, h.mem_waiting_iff, getElem?_concat_eq_some_iff]
    simp
  · rw [(List.perm_append_singleton _ _).nodup_iff]
    exact List.nodup_cons.mpr ⟨absent, h.ended_nodup⟩
  · exact h.waiting_nodup

/-- So does a visit that has to wait. -/
theorem start_waiting (h : t.Books ended waiting) {visit : Visit σ} {after : Duration}
    {rest : Visit.Open σ} (waits : (visit.start t.site).1 = .waiting after rest) :
    (t.start visit).Books ended (waiting ++ [⟨t.stages.length, after, rest⟩]) := by
  have stages : (t.start visit).stages = t.stages ++ [.waiting after rest] :=
    congrArg (t.stages ++ [·]) waits
  have absent : ⟨t.stages.length, after, rest⟩ ∉ waiting := by
    rw [h.mem_waiting_iff, List.getElem?_eq_none (Nat.le_refl _)]
    exact nofun
  constructor
  · intro number other
    rw [stages, h.mem_ended_iff, getElem?_concat_eq_some_iff]
    simp
  · rintro ⟨number, other, left⟩
    rw [stages, List.mem_append, h.mem_waiting_iff, getElem?_concat_eq_some_iff]
    simp [eq_comm]
  · exact h.ended_nodup
  · rw [(List.perm_append_singleton _ _).nodup_iff]
    exact List.nodup_cons.mpr ⟨absent, h.waiting_nodup⟩

/-- No two waiting visits have the same number. -/
theorem eq_of_index_eq (h : t.Books ended waiting) {v w : Schedule.Waiting (Visit.Open σ)}
    (hv : v ∈ waiting) (hw : w ∈ waiting) (same : v.index = w.index) : v = w := by
  have left := (h.mem_waiting_iff v).mp hv
  have right := (h.mem_waiting_iff w).mp hw
  obtain ⟨number, after, rest⟩ := v
  obtain ⟨number', after', rest'⟩ := w
  cases same
  cases left.symm.trans right
  rfl

/-- A visit that waits may end. -/
theorem finish {w : Schedule.Waiting (Visit.Open σ)} (h : t.Books ended (w :: waiting)) :
    (t.finish w.index).Books (ended ++ [(w.index, (Visit.finish w.rest t.site).1)]) waiting := by
  have waits := (h.mem_waiting_iff w).mp List.mem_cons_self
  have inside := (List.getElem?_eq_some_iff.mp waits).1
  obtain ⟨absent, distinct⟩ := List.nodup_cons.mp h.waiting_nodup
  have unbooked : (w.index, (Visit.finish w.rest t.site).1) ∉ ended := by
    rw [h.mem_ended_iff, waits]
    exact nofun
  rw [finish_of_waiting waits]
  constructor
  · intro number other
    rw [List.mem_append, h.mem_ended_iff]
    by_cases same : number = w.index
    · subst same
      simp [waits, List.getElem?_set_self inside, eq_comm]
    · simp [List.getElem?_set_ne (Ne.symm same), same]
  · intro v
    by_cases same : v.index = w.index
    · have away : v ∉ waiting := by
        intro member
        cases h.eq_of_index_eq (List.mem_cons_of_mem w member) List.mem_cons_self same
        exact absent member
      simp [same, List.getElem?_set_self inside, away]
    · have other : v ≠ w := fun equal => same (congrArg _ equal)
      rw [List.getElem?_set_ne (Ne.symm same), ← h.mem_waiting_iff, List.mem_cons]
      simp [other]
  · rw [(List.perm_append_singleton _ _).nodup_iff]
    exact List.nodup_cons.mpr ⟨unbooked, h.ended_nodup⟩
  · exact distinct

/-- The visits are started one after another. -/
theorem startAll (h : t.Books ended waiting) (visits : List (Visit σ)) :
    ∃ ended' waiting', Schedule.startAll Visit.start t.stages.length visits t.site =
        (ended', waiting', (t.run (visits.map .start)).site) ∧
      (t.run (visits.map .start)).Books (ended ++ ended') (waiting ++ waiting') := by
  induction visits generalizing t ended waiting with
  | nil =>
    refine ⟨[], [], rfl, ?_⟩
    rw [List.append_nil, List.append_nil]
    exact h
  | cons visit visits ih =>
    have length : (t.start visit).stages.length = t.stages.length + 1 := List.length_append
    have site : (t.start visit).site = (visit.start t.site).2 := rfl
    rw [List.map_cons, run_cons]
    rcases started : visit.start t.site with ⟨answer | ⟨after, rest⟩, next⟩
    · obtain ⟨ended', waiting', later, booked⟩ :=
        ih (h.start_ended (congrArg Prod.fst started))
      rw [length, site, started] at later
      rw [List.append_assoc] at booked
      refine ⟨(t.stages.length, answer) :: ended', waiting', ?_, booked⟩
      simp only [Schedule.startAll, started, later]
      rfl
    · obtain ⟨ended', waiting', later, booked⟩ :=
        ih (h.start_waiting (congrArg Prod.fst started))
      rw [length, site, started] at later
      rw [List.append_assoc] at booked
      refine ⟨ended', ⟨t.stages.length, after, rest⟩ :: waiting', ?_, booked⟩
      simp only [Schedule.startAll, started, later]
      rfl

/-- The visits that wait end one after another. -/
theorem finishAll (h : t.Books ended waiting) :
    ∃ answers, Schedule.finishAll Visit.finish waiting t.site =
        (answers, (t.run (waiting.map (.finish ·.index))).site) ∧
      (t.run (waiting.map (.finish ·.index))).Books (ended ++ answers) [] := by
  induction waiting generalizing t ended with
  | nil =>
    refine ⟨[], rfl, ?_⟩
    rw [List.append_nil]
    exact h
  | cons w waiting ih =>
    have waits := (h.mem_waiting_iff w).mp List.mem_cons_self
    have site : (t.finish w.index).site = (Visit.finish w.rest t.site).2 := by
      rw [finish_of_waiting waits]
    obtain ⟨answers, later, booked⟩ := ih h.finish
    rw [site] at later
    rw [List.append_assoc] at booked
    refine ⟨(w.index, (Visit.finish w.rest t.site).1) :: answers, ?_, booked⟩
    simp only [Schedule.finishAll, later]
    rfl

/-- If nothing waits, then every visit is over. -/
theorem exists_answers (h : t.Books ended []) :
    ∃ answers : List VisitAnswer, t.stages = answers.map .ended := by
  have ended : ∀ stage ∈ t.stages, ∃ answer, stage = .ended answer := by
    intro stage member
    obtain ⟨number, found⟩ := List.mem_iff_getElem?.mp member
    cases stage with
    | ended answer => exact ⟨answer, rfl⟩
    | waiting after rest => cases (h.mem_waiting_iff ⟨number, after, rest⟩).mpr found
  generalize t.stages = stages at ended
  induction stages with
  | nil => exact ⟨[], rfl⟩
  | cons stage stages ih =>
    obtain ⟨⟨answer, rfl⟩, rest⟩ := List.forall_mem_cons.mp ended
    obtain ⟨answers, rfl⟩ := ih rest
    exact ⟨answer :: answers, rfl⟩

/-- If nothing waits, then the answers are those that are booked, in the order of their
numbers. -/
theorem answers_eq (h : t.Books ended []) :
    t.answers = ((ended.mergeSort fun a b => decide (a.1 ≤ b.1)).map Prod.snd).map some := by
  obtain ⟨answers, stages⟩ := h.exists_answers
  have booked : ∀ number answer, (number, answer) ∈ ended ↔ answers[number]? = some answer := by
    intro number answer
    rw [h.mem_ended_iff, stages, List.getElem?_map]
    simp
  rw [map_snd_mergeSort h.ended_nodup booked, Traffic.answers, stages, List.map_map]
  rfl

end Books

end Traffic

/-- What a site does with visits that are started together is traffic: all of them start, and
then those that still wait end in some order. -/
theorem Site.run_is_traffic {σ : Type} (site : Site σ) (visits : List (Visit σ)) :
    ∃ order : List Nat,
      (({ site } : Traffic σ).run (visits.map .start ++ order.map .finish)).site =
          (site.run visits).2 ∧
        (({ site } : Traffic σ).run (visits.map .start ++ order.map .finish)).answers =
          (site.run visits).1.map some := by
  have empty : ({ site } : Traffic σ).Books [] [] := by
    constructor <;> simp
  obtain ⟨ended, waiting, started, booked⟩ := empty.startAll visits
  have sorted := booked.perm (List.mergeSort_perm waiting fun a b => decide (a.after ≤ b.after))
  obtain ⟨answers, finished, booked⟩ := sorted.finishAll
  have ran : site.run visits =
      (((ended ++ answers).mergeSort fun a b => decide (a.1 ≤ b.1)).map Prod.snd,
        ((({ site } : Traffic σ).run (visits.map .start)).run
          ((waiting.mergeSort fun a b => decide (a.after ≤ b.after)).map
            (.finish ·.index))).site) := by
    have started : Schedule.startAll Visit.start 0 visits site =
        (ended, waiting, (({ site } : Traffic σ).run (visits.map .start)).site) := started
    rw [Site.run, Schedule.run]
    simp only [started, finished]
  refine ⟨(waiting.mergeSort fun a b => decide (a.after ≤ b.after)).map (·.index), ?_⟩
  rw [List.map_map, Traffic.run_append, ran]
  exact ⟨rfl, booked.answers_eq⟩

end GuardedCache.Protected
