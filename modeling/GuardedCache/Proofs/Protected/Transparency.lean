import GuardedCache.Proofs.Protected.Asking
import GuardedCache.Proofs.Protected.Calm

/-!
# A healthy store does not notice its breakers

As long as the store answers every call in time, a protected cache does what the store
would do without it: the same calls reach it in the same order, and every caller gets what
the store answered.  The breakers stay closed throughout, whatever failures they may have
seen before, and tell nobody anything.

The two runs are compared move by move.  In one the visits go through the breakers, in the
other around them; `Mirrors` relates what both have come to.  What the second one comes to is
what the store does when it is asked without sites and visits.
-/

namespace GuardedCache

open Circuit Store

namespace Protected

/-! ## Calls with and without breakers -/

/-- What the caller of a protected cache is told if the store has answered: what a read
has found is a hit, and nothing is a miss. -/
def told : Response → Answer
  | .done => .written
  | .message (some value) => .message (.hit value)
  | .message none => .message .miss
  | .history (some value) => .history (.hit value)
  | .history none => .history .miss

theorem ofResponse_eq_told (response : Response) : Answer.ofResponse response = told response := by
  rcases response with _ | (_ | _) | (_ | _) <;> rfl

section Store

variable {σ : Type} (store : MessageStore σ)

/-- The call through the breakers. -/
def Errand.guarded (e : Errand) : Visit σ := .ofRequest store e.request e.delay

/-- A visit through the breakers has come as far as one around them. -/
inductive StageMirrors (f : Fleet) :
    Progress σ → Progress σ → Prop where
  | ended (response : Response) :
      StageMirrors f (.ended (.guarded (told response))) (.ended (.direct (.done response)))
  | waiting (after : Duration) (e : Errand) (grant : Grant)
      (found : f.find? e.request.operation.breakerName = some grant.handle) :
      StageMirrors f (.waiting after ⟨e.guarded store, some grant, .finished⟩)
        (.waiting after ⟨e.direct store, none, .finished⟩)

theorem StageMirrors.mono {f g : Fleet} (stays : StaysClosed f g)
    {guarded bare : Progress σ}
    (h : StageMirrors store f guarded bare) : StageMirrors store g guarded bare := by
  cases h with
  | ended response => exact .ended response
  | waiting after e grant found => exact .waiting after e grant (stays.kept _ _ found)

/-- The visits through the breakers have come as far as those around them. -/
abbrev StagesMirror (f : Fleet) : List (Progress σ) → List (Progress σ) → Prop :=
  List.Forall₂ (StageMirrors store f)

/-! ## Two sites side by side -/

/-- The store has answered if the visit is over. -/
def isAnswered : Progress σ → Bool
  | .ended (.direct (.done _)) => true
  | .ended _ => false
  | .waiting _ _ => true

theorem exists_of_isAnswered {answer : VisitAnswer}
    (answered : isAnswered (.ended answer : Progress σ) = true) :
    ∃ response, answer = .direct (.done response) := by
  rcases answer with _ | (response | _ | _ | _)
  · cases answered
  · exact ⟨response, rfl⟩
  · cases answered
  · cases answered
  · cases answered

/-- The visit was not broken off. -/
def isUnbroken : Progress σ → Bool
  | .ended (.guarded (.aborted _)) => false
  | _ => true

theorem ne_aborted {answer : Answer}
    (unbroken : isUnbroken (.ended (.guarded answer) : Progress σ) = true) (text : String) :
    answer ≠ .aborted text := by
  rintro rfl
  cases unbroken

/-- A visit that is not broken off has started when the clock could be read. -/
theorem Errand.exists_reading {e : Errand} {site : Site σ}
    (unbroken : isUnbroken ((e.guarded store).start site).1 = true) :
    ∃ now, site.fleet.clock.read = .ok now := by
  cases read : site.fleet.clock.read with
  | ok now => exact ⟨now, rfl⟩
  | error fault =>
    rw [Errand.guarded, Site.start_ofRequest, Site.start_of_fault _ _ read] at unbroken
    cases unbroken

/-- The store has not noticed whether there are breakers, and those have noticed nothing. -/
structure Alike (guarded bare : Site σ) : Prop where
  sound : guarded.fleet.IsSound
  closed : IsClosed guarded.fleet
  store_eq : guarded.store = bare.store
  calls_eq : guarded.calls = bare.calls

/-- A visit has gone on, through the breakers and around them. -/
structure GoesOn (site : Site σ) (calls : Nat)
    (guarded bare : Progress σ × Site σ) : Prop where
  stage : StageMirrors store guarded.2.fleet guarded.1 bare.1
  calms : IsClosed.Calms site.fleet guarded.2.fleet
  alike : Alike guarded.2 bare.2
  calls_eq : guarded.2.calls = site.calls + calls

namespace Alike

variable {store} {guarded bare : Site σ} {e : Errand}

/-- The store finishes a visit in the same way. -/
theorem finish (h : Alike guarded bare) (grant : Grant)
    (found : guarded.fleet.find? e.request.operation.breakerName = some grant.handle)
    (unbroken : isUnbroken
      (.ended (Visit.finish ⟨e.guarded store, some grant, .finished⟩ guarded).1 : Progress σ) =
        true)
    (answered : isAnswered
      (.ended (Visit.finish ⟨e.direct store, none, .finished⟩ bare).1 : Progress σ) = true) :
    GoesOn store guarded 0
      (.ended (Visit.finish ⟨e.guarded store, some grant, .finished⟩ guarded).1,
        (Visit.finish ⟨e.guarded store, some grant, .finished⟩ guarded).2)
      (.ended (Visit.finish ⟨e.direct store, none, .finished⟩ bare).1,
        (Visit.finish ⟨e.direct store, none, .finished⟩ bare).2) := by
  -- both visits ask the same store, so what the one around the breakers is told says what
  -- the other is told
  obtain ⟨response, done⟩ := exists_of_isAnswered answered
  have reply : WorkEnd.ofExcept (store.answer e.request guarded.store).1 = .done response := by
    rw [h.store_eq]
    exact VisitAnswer.direct.inj done
  have asked : Visit.finish ⟨e.guarded store, some grant, .finished⟩ guarded =
      (.guarded (Protected.finish e.request.operation grant (.done response) guarded.fleet).1,
        { guarded with
          store := (store.answer e.request guarded.store).2
          fleet :=
            (Protected.finish e.request.operation grant (.done response) guarded.fleet).2 }) := by
    simp only [Visit.finish, Visit.settleStore, Errand.guarded, Visit.ofRequest, reply]
  rw [asked] at unbroken
  obtain ⟨g, finished, calms⟩ :=
    h.closed.finish h.sound found grant.permit response (ne_aborted unbroken)
  have ended : Visit.finish ⟨e.guarded store, some grant, .finished⟩ guarded =
      (.guarded (told response),
        { guarded with store := (store.answer e.request guarded.store).2, fleet := g }) := by
    rw [asked, finished, ofResponse_eq_told]
  have store_eq : (store.answer e.request guarded.store).2 =
      (Visit.finish ⟨e.direct store, none, .finished⟩ bare).2.store := by
    rw [h.store_eq]
    rfl
  rw [ended, done]
  exact {
    stage := .ended response
    calms := calms
    alike := ⟨calms.sound, calms.stays.closed, store_eq, h.calls_eq⟩
    calls_eq := rfl }

theorem send_eq {visit : Visit σ} {grant : Option Grant} {deadline : Option Duration}
    (due : Schedule.due visit.delay deadline visit.cancelAfter = ⟨visit.delay, .finished⟩)
    (site : Site σ) :
    visit.send grant deadline site =
      let site := { site with calls := site.calls + 1 }
      if visit.delay = .zero then
        (.ended (Visit.finish ⟨visit, grant, .finished⟩ site).1,
          (Visit.finish ⟨visit, grant, .finished⟩ site).2)
      else (.waiting visit.delay ⟨visit, grant, .finished⟩, site) := by
  rw [Visit.send]
  simp only [due]

/-- The store receives a visit in the same way. -/
theorem start (h : Alike guarded bare) (intime : e.delay ≤ guarded.deadline e.request.operation)
    (unbroken : isUnbroken ((e.guarded store).start guarded).1 = true)
    (answered : isAnswered ((e.direct store).start bare).1 = true) :
    GoesOn store guarded 1 ((e.guarded store).start guarded) ((e.direct store).start bare) := by
  obtain ⟨now, read⟩ := e.exists_reading store unbroken
  obtain ⟨handle, permit, g, started, found, calms⟩ :=
    h.closed.start h.sound guarded.table e.request.operation read
  have due : Schedule.due e.delay (some (guarded.deadline e.request.operation)) none =
      ⟨e.delay, .finished⟩ := if_neg (Nat.not_lt.mpr intime)
  have through : (e.guarded store).start guarded =
      (e.guarded store).send (some ⟨handle, permit⟩)
        (some (guarded.deadline e.request.operation)) { guarded with fleet := g } := by
    rw [Errand.guarded, Site.start_ofRequest, started]
  have around : (e.direct store).start bare = (e.direct store).send none none bare := if_pos rfl
  have alike : Alike { guarded with fleet := g, calls := guarded.calls + 1 }
      { bare with calls := bare.calls + 1 } :=
    ⟨calms.sound, calms.stays.closed, h.store_eq, congrArg (· + 1) h.calls_eq⟩
  rw [around, send_eq rfl] at answered ⊢
  rw [through, send_eq due] at unbroken ⊢
  -- a visit that takes no time ends as it starts
  by_cases instant : e.delay = .zero
  · have instant : (e.direct store).delay = .zero ∧ (e.guarded store).delay = .zero :=
      ⟨instant, instant⟩
    simp only [if_pos instant.1, if_pos instant.2] at answered unbroken ⊢
    have ends := alike.finish ⟨handle, permit⟩ found unbroken answered
    exact {
      stage := ends.stage
      calms := calms.trans ends.calms
      alike := ends.alike
      calls_eq := ends.calls_eq }
  · have waits : (e.direct store).delay ≠ .zero ∧ (e.guarded store).delay ≠ .zero :=
      ⟨instant, instant⟩
    simp only [if_neg waits.1, if_neg waits.2]
    exact {
      stage := .waiting e.delay e ⟨handle, permit⟩ found
      calms := calms
      alike := alike
      calls_eq := rfl }

end Alike

theorem mem_set_of_found {α : Type} {l : List α} {index : Nat} {old : α}
    (found : l[index]? = some old) (new : α) : new ∈ l.set index new :=
  List.mem_set (List.getElem?_eq_some_iff.mp found).1 new

/-! ## Traffic through breakers and around them -/

namespace Traffic

/-- What may happen at a site with a healthy store: a call takes no longer than its deadline,
and nobody else does anything to the five breakers. -/
def Admits (t : Traffic σ) : Move Errand σ → Prop
  | .start e => e.delay ≤ t.site.deadline e.request.operation
  | .finish _ => True
  | .use u => LeavesAlone t.site.fleet (t.site.fleet.afterUse u)
  | .admin method target => LeavesAlone t.site.fleet (Admin.respond method target t.site.fleet).2
  | .drift _ => True

/-- Nothing else happens in a run. -/
def IsUndisturbed : Traffic σ → List (Move Errand σ) → Prop
  | _, [] => True
  | t, m :: moves => t.Admits m ∧ (t.step (m.map (·.guarded store))).IsUndisturbed moves

/-- The five breakers are still closed, and if a call has started or ended, then no observer
has done anything. -/
structure Passage.IsQuiet (origin : Site σ) (p : Passage σ) : Prop where
  stays : StaysClosed origin.fleet p.after.site.fleet
  journal_eq : p.move.IsCall → p.after.site.fleet.journal = p.before.site.fleet.journal

/-- What two runs have come to, one through the breakers and one around them, in which the
same calls have started. -/
structure Mirrors (origin : Site σ) (errands : List Errand) (guarded bare : Traffic σ) :
    Prop where
  alike : Alike guarded.site bare.site
  stays : StaysClosed origin.fleet guarded.site.fleet
  stages : StagesMirror store guarded.site.fleet guarded.stages bare.stages
  calls_eq : guarded.site.calls = origin.calls + errands.length
  received_eq : guarded.received = errands.map (·.guarded store)

namespace Mirrors

variable {store} {origin : Site σ} {errands : List Errand} {guarded bare : Traffic σ}

/-- A visit goes on, whether it starts or ends. -/
theorem goOn (h : Mirrors store origin errands guarded bare) {calls : Nat}
    {through around : Progress σ × Site σ}
    (goesOn : GoesOn store guarded.site calls through around) :
    Alike through.2 around.2 ∧ StaysClosed origin.fleet through.2.fleet ∧
      StagesMirror store through.2.fleet guarded.stages bare.stages :=
  ⟨goesOn.alike, h.stays.trans goesOn.calms.stays,
    h.stages.imp fun _ _ mirrors => mirrors.mono store goesOn.calms.stays⟩

theorem start (h : Mirrors store origin errands guarded bare) {e : Errand}
    (intime : e.delay ≤ guarded.site.deadline e.request.operation)
    (unbroken : isUnbroken ((e.guarded store).start guarded.site).1 = true)
    (answered : isAnswered ((e.direct store).start bare.site).1 = true) :
    Mirrors store origin (errands ++ [e]) (guarded.start (e.guarded store))
        (bare.start (e.direct store)) ∧
      (guarded.start (e.guarded store)).site.fleet.journal = guarded.site.fleet.journal := by
  have goesOn := h.alike.start intime unbroken answered
  obtain ⟨alike, stays, stages⟩ := h.goOn goesOn
  have received : ((e.guarded store).start guarded.site).2.calls ≠ guarded.site.calls := by
    rw [goesOn.calls_eq]
    exact Nat.succ_ne_self _
  refine ⟨?_, goesOn.calms.journal_eq⟩
  exact {
    alike := alike
    stays := stays
    stages := forall₂_concat stages goesOn.stage
    calls_eq := by
      rw [List.length_append, ← Nat.add_assoc, ← h.calls_eq]
      exact goesOn.calls_eq
    received_eq := by
      rw [List.map_append, ← h.received_eq]
      exact if_neg received }

theorem finish (h : Mirrors store origin errands guarded bare) {number : Nat}
    (unbroken : ∀ stage ∈ (guarded.finish number).stages, isUnbroken stage = true)
    (answered : ∀ stage ∈ (bare.finish number).stages, isAnswered stage = true) :
    Mirrors store origin errands (guarded.finish number) (bare.finish number) ∧
      (guarded.finish number).site.fleet.journal = guarded.site.fleet.journal := by
  have idle (quiet : ∀ after rest, bare.stages[number]? ≠ some (.waiting after rest))
      (quiet' : ∀ after rest, guarded.stages[number]? ≠ some (.waiting after rest)) :
      guarded.finish number = guarded ∧ bare.finish number = bare :=
    ⟨finish_of_not_waiting quiet', finish_of_not_waiting quiet⟩
  cases found : bare.stages[number]? with
  | none =>
    have found' := getElem?_eq_none_of_forall₂ h.stages found
    obtain ⟨same, same'⟩ := idle (by rw [found]; exact nofun) (by rw [found']; exact nofun)
    rw [same, same']
    exact ⟨h, rfl⟩
  | some stage =>
    obtain ⟨other, found', mirrors⟩ := exists_of_forall₂ h.stages found
    cases mirrors with
    | ended response =>
      obtain ⟨same, same'⟩ := idle (by rw [found]; exact nofun) (by rw [found']; exact nofun)
      rw [same, same']
      exact ⟨h, rfl⟩
    | waiting after e grant registered =>
      rw [finish_of_waiting found] at answered ⊢
      rw [finish_of_waiting found'] at unbroken ⊢
      have last := answered _ (mem_set_of_found found _)
      have last' := unbroken _ (mem_set_of_found found' _)
      have goesOn := h.alike.finish grant registered last' last
      obtain ⟨alike, stays, stages⟩ := h.goOn goesOn
      refine ⟨?_, goesOn.calms.journal_eq⟩
      exact {
        alike := alike
        stays := stays
        stages := forall₂_set stages number goesOn.stage
        calls_eq := goesOn.calls_eq.trans h.calls_eq
        received_eq := h.received_eq }

/-- Nobody else does anything to the five breakers. -/
theorem leave (h : Mirrors store origin errands guarded bare) {fleet : Fleet}
    (alone : LeavesAlone guarded.site.fleet fleet) (sound : fleet.IsSound) (fleet' : Fleet) :
    Mirrors store origin errands (guarded.withFleet fleet) (bare.withFleet fleet') where
  alike := ⟨sound, (h.alike.closed.leave alone).closed, h.alike.store_eq, h.alike.calls_eq⟩
  stays := h.stays.trans (h.alike.closed.leave alone)
  stages := h.stages.imp fun _ _ mirrors => mirrors.mono store (h.alike.closed.leave alone)
  calls_eq := h.calls_eq
  received_eq := h.received_eq

/-- Every move does the same to both. -/
theorem step (h : Mirrors store origin errands guarded bare) {m : Move Errand σ}
    (admits : guarded.Admits m)
    (unbroken : ∀ stage ∈ (guarded.step (m.map (·.guarded store))).stages,
      isUnbroken stage = true)
    (answered : ∀ stage ∈ (bare.step (m.map (·.direct store))).stages, isAnswered stage = true) :
    Mirrors store origin (errands ++ m.visit?.toList) (guarded.step (m.map (·.guarded store)))
        (bare.step (m.map (·.direct store))) ∧
      (m.IsCall → (guarded.step (m.map (·.guarded store))).site.fleet.journal =
        guarded.site.fleet.journal) := by
  cases m with
  | start e =>
    have last : isAnswered ((e.direct store).start bare.site).1 = true :=
      answered _ (List.mem_append_right _ (List.mem_singleton.mpr rfl))
    have last' : isUnbroken ((e.guarded store).start guarded.site).1 = true :=
      unbroken _ (List.mem_append_right _ (List.mem_singleton.mpr rfl))
    obtain ⟨mirrors, quiet⟩ := h.start admits last' last
    exact ⟨mirrors, fun _ => quiet⟩
  | finish number =>
    obtain ⟨mirrors, quiet⟩ := h.finish unbroken answered
    simp only [Move.visit?, Option.toList_none, List.append_nil]
    exact ⟨mirrors, fun _ => quiet⟩
  | use u =>
    simp only [Move.visit?, Option.toList_none, List.append_nil]
    exact ⟨h.leave admits (h.alike.sound.afterUse u) _, False.elim⟩
  | admin method target =>
    simp only [Move.visit?, Option.toList_none, List.append_nil]
    exact ⟨h.leave admits (h.alike.sound.respond method target) _, False.elim⟩
  | drift change =>
    simp only [Move.visit?, Option.toList_none, List.append_nil]
    refine ⟨?_, False.elim⟩
    exact { h with alike := { h.alike with store_eq := congrArg change h.alike.store_eq } }

/-- What is said of every move holds of a run. -/
theorem run (h : Mirrors store origin errands guarded bare) (moves : List (Move Errand σ))
    (undisturbed : guarded.IsUndisturbed store moves)
    (unbroken : ∀ stage ∈ (guarded.run (moves.map (.map (·.guarded store)))).stages,
      isUnbroken stage = true)
    (answered : ∀ stage ∈ (bare.run (moves.map (.map (·.direct store)))).stages,
      isAnswered stage = true) :
    Mirrors store origin (errands ++ moves.filterMap Move.visit?)
        (guarded.run (moves.map (.map (·.guarded store))))
        (bare.run (moves.map (.map (·.direct store)))) ∧
      ∀ p ∈ guarded.history (moves.map (.map (·.guarded store))), p.IsQuiet origin := by
  induction moves generalizing errands guarded bare with
  | nil =>
    refine ⟨?_, fun p member => by cases member⟩
    rw [List.filterMap_nil, List.append_nil]
    exact h
  | cons m moves ih =>
    obtain ⟨admits, undisturbed⟩ := undisturbed
    rw [List.map_cons, run_cons] at unbroken answered
    have sofar := forall_stages_of_run _ (fun _ _ => rfl) answered
    have sofar' := forall_stages_of_run _ (fun _ _ => rfl) unbroken
    obtain ⟨mirrors, quiet⟩ := h.step admits sofar' sofar
    obtain ⟨rest, later⟩ := ih mirrors undisturbed unbroken answered
    refine ⟨?_, fun p member => ?_⟩
    · rw [List.append_assoc] at rest
      rw [List.filterMap_cons]
      cases started : m.visit? with
      | none =>
        rw [started] at rest
        exact rest
      | some e =>
        rw [started] at rest
        exact rest
    · rcases List.mem_cons.mp member with rfl | member
      · refine ⟨mirrors.stays, fun call => quiet ?_⟩
        cases m <;> exact call
      · exact later p member

end Mirrors

end Traffic

/-! ## The whole run -/

/-- What the caller of a protected cache is told in place of what the store has answered. -/
def VisitAnswer.told : VisitAnswer → VisitAnswer
  | .direct (.done response) => .guarded (Protected.told response)
  | answer => answer

theorem StagesMirror.answers_eq {guarded bare : Traffic σ} {f : Fleet}
    (h : StagesMirror store f guarded.stages bare.stages) :
    guarded.answers = bare.answers.map (Option.map VisitAnswer.told) := by
  rw [Traffic.answers, Traffic.answers, List.map_map, ← List.forall₂_eq_eq_eq,
    List.forall₂_map_left_iff, List.forall₂_map_right_iff]
  refine h.imp fun other stage mirrors => ?_
  cases mirrors <;> rfl

/-- A caller is told what the store has answered, and nothing as long as it has not. -/
inductive TellsAsked : Option VisitAnswer → Asked → Prop where
  | waiting (request : Request) : TellsAsked none (.waiting request)
  | answered (response : Response) :
      TellsAsked (some (.guarded (told response))) (.answered (.ok response))

/-- What a visit was answered, if it is over. -/
def answerOf? : Progress σ → Option VisitAnswer
  | .ended answer => some answer
  | .waiting _ _ => none

theorem Traffic.answers_eq_map (t : Traffic σ) : t.answers = t.stages.map answerOf? :=
  List.map_congr_left fun stage _ => by cases stage <;> rfl

theorem TellsAsked.of_mirrors {f : Fleet} {guarded bare : Progress σ} {asked : Asked}
    (mirrors : StageMirrors store f guarded bare) (serves : bare.Serves store asked) :
    TellsAsked (answerOf? guarded) asked := by
  cases mirrors with
  | waiting after e grant registered =>
    generalize Visit.Open.mk (e.direct store) none .finished = sent at serves
    cases serves
    exact .waiting _
  | ended response =>
    generalize same : VisitAnswer.direct (.done response) = answer at serves
    cases serves with
    | answered reply =>
      rcases reply with error | other
      · cases same
      · cases same
        exact .answered response

/-- The callers of a protected cache are told what a store answers that does what the visits
around the breakers do. -/
theorem StagesMirror.tellsAsked {guarded bare : Traffic σ} {f : Fleet} {q : Queue σ}
    (h : StagesMirror store f guarded.stages bare.stages) (serves : bare.Serves store q) :
    List.Forall₂ TellsAsked guarded.answers q.asked := by
  rw [Traffic.answers_eq_map, List.forall₂_map_left_iff]
  obtain ⟨_, stages⟩ := serves
  generalize guarded.stages = through, bare.stages = around, q.asked = asked at h stages
  induction h generalizing asked with
  | nil =>
    cases stages
    exact .nil
  | cons mirrors _ ih =>
    cases stages with
    | cons serves rest => exact .cons (.of_mirrors store mirrors serves) (ih _ rest)

/-- A run through the breakers is like the one around them. -/
structure IsTransparent (site : Site σ) (moves : List (Move Errand σ))
    (guarded bare : Traffic σ) : Prop where
  /-- Every caller is told what the store has answered. -/
  answers_eq : guarded.answers = bare.answers.map (Option.map VisitAnswer.told)
  store_eq : guarded.site.store = bare.site.store
  /-- That is what the store answers to the requests when it is asked by nobody else. -/
  answers_asked : List.Forall₂ TellsAsked guarded.answers
    (({ store := site.store } : Queue σ).run store moves).asked
  store_asked : guarded.site.store = (({ store := site.store } : Queue σ).run store moves).store
  /-- The store receives the calls that were made, in the order of their starts. -/
  received_eq : guarded.received = (moves.filterMap Move.visit?).map (·.guarded store)
  calls_eq : guarded.site.calls = site.calls + (moves.filterMap Move.visit?).length
  bare_calls_eq : bare.site.calls = guarded.site.calls
  /-- The breakers stay closed all the time, and no call makes the observers do anything. -/
  quiet : ∀ p ∈ ({ site } : Traffic σ).history (moves.map (.map (·.guarded store))),
    p.IsQuiet site

/-- Breakers that are closed do not come between a store and its callers as long as the
store answers every call in time and no call is broken off, in whatever order calls start and
end. -/
theorem healthy_store_is_transparent {site : Site σ} (sound : site.fleet.IsSound)
    (closed : IsClosed site.fleet) (moves : List (Move Errand σ))
    (undisturbed : Traffic.IsUndisturbed store { site } moves)
    (unbroken : ∀ stage ∈
      (({ site } : Traffic σ).run (moves.map (.map (·.guarded store)))).stages,
      isUnbroken stage = true)
    (answered : ∀ stage ∈
      (({ site } : Traffic σ).run (moves.map (.map (·.direct store)))).stages,
      isAnswered stage = true) :
    IsTransparent store site moves
      (({ site } : Traffic σ).run (moves.map (.map (·.guarded store))))
      (({ site } : Traffic σ).run (moves.map (.map (·.direct store)))) := by
  have initial : Traffic.Mirrors store site [] { site } { site } := {
    alike := ⟨sound, closed, rfl, rfl⟩
    stays := closed.leave (.refl site.fleet)
    stages := .nil
    calls_eq := rfl
    received_eq := rfl }
  have served : ({ site } : Traffic σ).Serves store { store := site.store } := ⟨rfl, .nil⟩
  have serves := served.run moves
  obtain ⟨mirrors, quiet⟩ := initial.run moves undisturbed unbroken answered
  exact {
    answers_eq := mirrors.stages.answers_eq
    store_eq := mirrors.alike.store_eq
    answers_asked := StagesMirror.tellsAsked store mirrors.stages serves
    store_asked := mirrors.alike.store_eq.trans serves.store_eq
    received_eq := mirrors.received_eq
    calls_eq := mirrors.calls_eq
    bare_calls_eq := mirrors.alike.calls_eq.symm
    quiet := quiet }

end Store

/-- A deletion of what is not there takes a while; meanwhile something else is not found. -/
def vainMoves : List (Move Errand Backend) :=
  [.start ⟨.deleteMessage "a", .ofMillis 5⟩, .start ⟨.getMessage "b", .zero⟩,
    .use (.advance (.ofMillis 5)), .finish 0]

theorem vain_calls_are_transparent :
    let site : Site Backend := { fleet := {}, table := .builtIn, store := .memory {} }
    let store := Backend.messageStore none
    let guarded := ({ site } : Traffic Backend).run (vainMoves.map (.map (·.guarded store)))
    let bare := ({ site } : Traffic Backend).run (vainMoves.map (.map (·.direct store)))
    (∀ stage ∈ guarded.stages, isUnbroken stage = true) ∧
      (∀ stage ∈ bare.stages, isAnswered stage = true) ∧
        IsTransparent store site vainMoves guarded bare := by
  intro site store guarded bare
  have unbroken : ∀ stage ∈ guarded.stages, isUnbroken stage = true := by decide
  have answered : ∀ stage ∈ bare.stages, isAnswered stage = true := by decide
  have closed : IsClosed site.fleet := fun operation handle found => by cases found
  have undisturbed : Traffic.IsUndisturbed store { site } vainMoves :=
    ⟨show (_ ≤ _) by decide, show (_ ≤ _) by decide, .of_turnsClock _ rfl, trivial, trivial⟩
  refine ⟨unbroken, answered, ?_⟩
  exact healthy_store_is_transparent store (.of_unregistered rfl) closed vainMoves undisturbed
    unbroken answered

end Protected

end GuardedCache
