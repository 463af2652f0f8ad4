import GuardedCache.Http.Exchange
import GuardedCache.Proofs.Protected.Calls

/-!
# What a failed write says of its cause

A write fails since its breaker refuses it, since its deadline passes, or since the store says
so.  The error of the write becomes an error of the service and then a response, and in the
response the three can still be told apart: by the status, by the time after which to try again,
and by the text.
-/

namespace GuardedCache.Protected

open Circuit Store

/-- The operations that change what is stored. -/
def IsWrite : Operation → Prop
  | .getMessage => False
  | .getChatMessages => False
  | _ => True

variable {σ : Type}

namespace Visit

/-- The deadline passes while the caller still waits for the store. -/
def IsLate (visit : Visit σ) (site : Site σ) : Prop :=
  site.deadline visit.operation < visit.delay ∧
    ∀ span, visit.cancelAfter = some span → ¬ span < site.deadline visit.operation

/-- The store answers with an error while the caller still waits for it. -/
def Reports (visit : Visit σ) (site : Site σ) (cause : CacheError) : Prop :=
  ¬ site.deadline visit.operation < visit.delay ∧
    (∀ span, visit.cancelAfter = some span → ¬ span < visit.delay) ∧
      (visit.ask site.store).1 = .failed cause

/-- How the wait of a visit ends. -/
def ending (visit : Visit σ) (site : Site σ) : Schedule.Ending :=
  (Schedule.due visit.delay (some (site.deadline visit.operation)) visit.cancelAfter).ending

/-- What a visit comes to in its wait for the store. -/
def work (visit : Visit σ) (site : Site σ) : WorkEnd CacheError Response :=
  match visit.ending site with
  | .finished => (visit.ask site.store).1
  | .expired => .failed (.timeout (site.deadline visit.operation))
  | .cancelled => .cancelled

theorem work_eq_failed_iff {visit : Visit σ} {site : Site σ} {error : CacheError} :
    visit.work site = .failed error ↔
      visit.IsLate site ∧ error = .timeout (site.deadline visit.operation) ∨
        visit.Reports site error := by
  rw [work, ending, IsLate, Reports, Schedule.due]
  by_cases late : site.deadline visit.operation < visit.delay
  · cases cancel : visit.cancelAfter with
    | none => simp [Schedule.Due.limit, late, eq_comm]
    | some span =>
      by_cases sooner : span < site.deadline visit.operation <;>
        simp [Schedule.Due.limit, late, sooner, eq_comm]
  · cases cancel : visit.cancelAfter with
    | none => simp [Schedule.Due.limit, late]
    | some span =>
      by_cases sooner : span < visit.delay <;> simp [Schedule.Due.limit, late, sooner]

/-- The end of a visit that has a grant. -/
theorem finish_of_grant (visit : Visit σ) (site : Site σ) (grant : Grant) (fleet : Fleet)
    (calls : Nat) :
    (finish ⟨visit, some grant, visit.ending site⟩ { site with fleet, calls }).1 =
        .guarded (.ofResult visit.operation (fleet.finishCall grant (visit.work site)).1) ∧
      (finish ⟨visit, some grant, visit.ending site⟩ { site with fleet, calls }).2.calls =
        calls := by
  rw [finish, settleStore, work]
  cases visit.ending site <;> exact ⟨rfl, rfl⟩

end Visit

namespace Site

/-- The breaker of an operation refuses a call. -/
def Refuses (site : Site σ) (operation : Operation) : Prop :=
  ∃ now, site.fleet.clock.read = .ok now ∧ site.admits operation now = false

/-- The breaker of an operation lets a call through. -/
def LetsThrough (site : Site σ) (operation : Operation) : Prop :=
  ∃ now, site.fleet.clock.read = .ok now ∧ site.admits operation now = true

/-- What a guarded visit comes to, with the number of calls that the store has received then. -/
inductive ComesTo (site : Site σ) (visit : Visit σ) (later : Clock) : VisitAnswer → Nat → Prop where
  /-- The breaker could not decide. -/
  | faulted (unread : ∀ now, site.fleet.clock.read ≠ .ok now) (text : String) :
      ComesTo site visit later (.guarded (.aborted text)) site.calls
  | refused (refuses : site.Refuses visit.operation) :
      ComesTo site visit later
        (.guarded (.refused visit.operation visit.operation.breakerName)) site.calls
  | worked (passes : site.LetsThrough visit.operation) :
      ComesTo site visit later (.guarded (.ofResult visit.operation (visit.work site).result))
        (site.calls + 1)
  /-- The outcome could not be reported. -/
  | brokenOff (passes : site.LetsThrough visit.operation) (unread : ∀ now, later.read ≠ .ok now)
      (text : String) : ComesTo site visit later (.guarded (.aborted text)) (site.calls + 1)

/-- The outcome of a call can only be reported while the clock can be read. -/
theorem finishCall_fst {ε α : Type} (f : Fleet) (grant : Grant) (work : WorkEnd ε α) :
    (f.finishCall grant work).1 = work.result ∨
      (∀ now, f.clock.read ≠ .ok now) ∧
        ∃ text, (f.finishCall grant work).1 = .aborted text := by
  cases read : f.clock.read with
  | ok now => exact .inl (congrArg Prod.fst (Fleet.finishCall_of_read read grant work))
  | error fault =>
    have unread (now : Reading) : (Except.error fault : Glance) ≠ .ok now := nofun
    rw [Fleet.finishCall]
    generalize f.settle grant.handle grant.permit work.outcome = settled
    rcases settled with ⟨_ | _, _⟩
    · exact .inr ⟨unread, _, rfl⟩
    · exact .inl rfl

/-- A visit that is granted asks the store once. -/
theorem callUntil_of_grant {site : Site σ} {visit : Visit σ} (guarded : visit.direct = false)
    (later : Clock) {grant : Grant} {fleet : Fleet}
    (granted : start site.table visit.operation site.fleet = (.granted grant, fleet)) :
    ∃ clock, (clock = fleet.clock ∨ clock = later) ∧
      (site.callUntil visit later).1 = .guarded (.ofResult visit.operation
        (Fleet.finishCall { fleet with clock } grant (visit.work site)).1) ∧
      (site.callUntil visit later).2.calls = site.calls + 1 := by
  rw [callUntil, start_of_guarded guarded, granted]
  simp only [Visit.send]
  by_cases instant : (Schedule.due visit.delay (some (site.deadline visit.operation))
      visit.cancelAfter).after = .zero
  · rw [if_pos instant]
    exact ⟨fleet.clock, .inl rfl, visit.finish_of_grant site grant fleet (site.calls + 1)⟩
  · rw [if_neg instant]
    exact ⟨later, .inr rfl,
      visit.finish_of_grant site grant { fleet with clock := later } (site.calls + 1)⟩

theorem comesTo_callUntil {site : Site σ} (sound : site.fleet.IsSound) {visit : Visit σ}
    (guarded : visit.direct = false) (later : Clock) :
    site.ComesTo visit later (site.callUntil visit later).1
      (site.callUntil visit later).2.calls := by
  cases read : site.fleet.clock.read with
  | error fault =>
    rw [callUntil, start_of_guarded guarded, start_of_fault site.table _ read]
    have unread (now : Reading) : site.fleet.clock.read ≠ .ok now := by
      intro same
      cases read.symm.trans same
    exact .faulted unread fault.message
  | ok now =>
    obtain ⟨handle, g, approaches⟩ := exists_approaches sound visit.operation read
    cases admits : site.admits visit.operation now with
    | false =>
      rw [callUntil, start_of_guarded guarded, approaches.start_of_refuse admits]
      exact .refused ⟨now, read, admits⟩
    | true =>
      obtain ⟨permit, _, granted⟩ := approaches.start_of_admits admits
      obtain ⟨clock, moment, answer, calls⟩ := callUntil_of_grant guarded later granted
      rw [answer, calls]
      have passes : site.LetsThrough visit.operation := ⟨now, read, admits⟩
      rcases finishCall_fst { (g.acquire handle).2 with clock } ⟨handle, permit⟩ (visit.work site)
        with same | ⟨unread, text, same⟩
      · rw [same]
        exact .worked passes
      · rw [same]
        refine .brokenOff passes (fun atEnd => ?_) text
        -- the clock could be read when the visit began, so it must have moved since
        rcases moment with rfl | rfl
        · exact absurd approaches.read (unread now)
        · exact unread atEnd

/-! ## Errors of writes -/

theorem refused_of_isWrite {operation : Operation} (write : IsWrite operation) (breaker : String) :
    Answer.refused operation breaker = .notWritten (.unavailable breaker) := by
  cases operation with
  | getMessage => exact write.elim
  | getChatMessages => exact write.elim
  | _ => rfl

theorem failed_of_isWrite {operation : Operation} (write : IsWrite operation)
    (error : CacheError) : Answer.failed operation error = .notWritten (.cache error) := by
  cases operation with
  | getMessage => exact write.elim
  | getChatMessages => exact write.elim
  | _ => rfl

/-- A write that the store was asked for fails with the error that the wait for the store came
to. -/
theorem ofResult_eq_notWritten_iff {operation : Operation} (write : IsWrite operation)
    {work : WorkEnd CacheError Response} {error : WriteError} :
    Answer.ofResult operation work.result = .notWritten error ↔
      ∃ cause, work = .failed cause ∧ error = .cache cause := by
  cases work with
  | done response => cases response <;> simp [Answer.ofResult, WorkEnd.result, Answer.ofResponse]
  | failed cause => simp [Answer.ofResult, WorkEnd.result, failed_of_isWrite write, eq_comm]
  | aborted text => simp [Answer.ofResult, WorkEnd.result]
  | cancelled => simp [Answer.ofResult, WorkEnd.result]

theorem Refuses.not_letsThrough {site : Site σ} {operation : Operation}
    (refuses : site.Refuses operation) : ¬ site.LetsThrough operation := by
  rintro ⟨now, read, admits⟩
  obtain ⟨other, also, denies⟩ := refuses
  cases read.symm.trans also
  cases admits.symm.trans denies

/-- Where the error of a write comes from. -/
inductive Stems (site : Site σ) (visit : Visit σ) : WriteError → (calls : Nat) → Prop where
  | refused (refuses : site.Refuses visit.operation) :
      Stems site visit (.unavailable visit.operation.breakerName) site.calls
  | failed (passes : site.LetsThrough visit.operation) (cause : CacheError)
      (failed : visit.work site = .failed cause) : Stems site visit (.cache cause) (site.calls + 1)

theorem ComesTo.stems {site : Site σ} {visit : Visit σ} {later : Clock} {answer : VisitAnswer}
    {calls : Nat} {error : WriteError} (comes : site.ComesTo visit later answer calls)
    (write : IsWrite visit.operation) (failed : answer = .guarded (.notWritten error)) :
    site.Stems visit error calls := by
  cases comes with
  | faulted unread text => cases failed
  | refused refuses =>
    rw [refused_of_isWrite write] at failed
    cases failed
    exact .refused refuses
  | worked passes =>
    obtain ⟨cause, work, rfl⟩ :=
      (ofResult_eq_notWritten_iff write).mp (VisitAnswer.guarded.inj failed)
    exact .failed passes cause work
  | brokenOff passes unread text => cases failed

theorem ComesTo.of_refuses {site : Site σ} {visit : Visit σ} {later : Clock}
    {answer : VisitAnswer} {calls : Nat} (comes : site.ComesTo visit later answer calls)
    (refuses : site.Refuses visit.operation) :
    answer = .guarded (.refused visit.operation visit.operation.breakerName) := by
  cases comes with
  | faulted unread text =>
    obtain ⟨now, read, _⟩ := refuses
    exact absurd read (unread now)
  | refused _ => rfl
  | worked passes => exact absurd passes refuses.not_letsThrough
  | brokenOff passes unread text => exact absurd passes refuses.not_letsThrough

theorem ComesTo.of_letsThrough {site : Site σ} {visit : Visit σ} {later : Clock}
    {answer : VisitAnswer} {calls : Nat} (comes : site.ComesTo visit later answer calls)
    (passes : site.LetsThrough visit.operation) {atEnd : Reading} (read : later.read = .ok atEnd) :
    answer = .guarded (.ofResult visit.operation (visit.work site).result) := by
  cases comes with
  | faulted unread text =>
    obtain ⟨now, readable, _⟩ := passes
    exact absurd readable (unread now)
  | refused refuses => exact absurd passes refuses.not_letsThrough
  | worked _ => rfl
  | brokenOff _ unread text => exact absurd read (unread atEnd)

/-! ## Responses -/

/-- What the body of a response says of an error of the store. -/
def causeText : CacheError → String
  | .redis text => "Cache error: " ++ ("Redis error: " ++ text)
  | .serialization text => "Cache error: " ++ ("Serialization error: " ++ text)
  | .timeout span => "Cache error: " ++ ("Cache operation timed out after " ++ span.text)
  | .backend text => "Cache error: " ++ ("Cache backend error: " ++ text)

/-- What the response to a failed write says, and of what. -/
structure ShowsCause (site : Site σ) (visit : Visit σ) (calls : Nat)
    (response : Http.Response) : Prop where
  refused : response.status = 503 ∧ response.retryAfter ≠ none ↔
    site.Refuses visit.operation ∧ calls = site.calls
  late : response.status = 504 ↔ site.LetsThrough visit.operation ∧
    (visit.IsLate site ∨ ∃ span, visit.Reports site (.timeout span))
  failed : response.status = 502 ↔ site.LetsThrough visit.operation ∧
    ∃ cause, visit.Reports site cause ∧ ∀ span, cause ≠ .timeout span
  exhaustive : response.status = 503 ∨ response.status = 504 ∨ response.status = 502
  retryAfter : response.status ≠ 503 → response.retryAfter = none
  refusalText : site.Refuses visit.operation → response.body =
    "Service temporarily unavailable: " ++
      ("circuit breaker '" ++ visit.operation.breakerName ++ "' is open")
  lateText : site.LetsThrough visit.operation → visit.IsLate site →
    response.body = causeText (.timeout (site.deadline visit.operation))
  failureText : ∀ cause, site.LetsThrough visit.operation → visit.Reports site cause →
    response.body = causeText cause

/-- The response that tells of the error of a write. -/
def responseTo (error : WriteError) : Http.Response :=
  .ofError (.ofWrite error)

theorem responseTo_unavailable (breaker : String) :
    (responseTo (.unavailable breaker)).status = 503 ∧
      (responseTo (.unavailable breaker)).retryAfter = some 10 ∧
      (responseTo (.unavailable breaker)).body =
        "Service temporarily unavailable: " ++ ("circuit breaker '" ++ breaker ++ "' is open") :=
  ⟨rfl, rfl, rfl⟩

theorem status_responseTo (cause : CacheError) :
    (responseTo (.cache cause)).status = 504 ∧ (∃ span, cause = .timeout span) ∨
      (responseTo (.cache cause)).status = 502 ∧ ∀ span, cause ≠ .timeout span := by
  cases cause with
  | timeout span => exact .inl ⟨rfl, span, rfl⟩
  | redis text => exact .inr ⟨rfl, fun _ => nofun⟩
  | serialization text => exact .inr ⟨rfl, fun _ => nofun⟩
  | backend text => exact .inr ⟨rfl, fun _ => nofun⟩

theorem retryAfter_responseTo (cause : CacheError) :
    (responseTo (.cache cause)).retryAfter = none := by
  cases cause <;> rfl

theorem body_responseTo (cause : CacheError) :
    (responseTo (.cache cause)).body = causeText cause := by
  cases cause <;> rfl

theorem Refuses.showsCause {site : Site σ} {visit : Visit σ}
    (refuses : site.Refuses visit.operation) :
    site.ShowsCause visit site.calls (responseTo (.unavailable visit.operation.breakerName)) := by
  have shut := refuses.not_letsThrough
  obtain ⟨status, retry, body⟩ := responseTo_unavailable visit.operation.breakerName
  generalize responseTo (.unavailable visit.operation.breakerName) = response at *
  exact {
    refused := iff_of_true ⟨status, by simp [retry]⟩ ⟨refuses, rfl⟩
    late := iff_of_false (by simp [status]) fun passes => shut passes.1
    failed := iff_of_false (by simp [status]) fun passes => shut passes.1
    exhaustive := .inl status
    retryAfter := fun other => absurd status other
    refusalText := fun _ => body
    lateText := fun passes => absurd passes shut
    failureText := fun _ passes => absurd passes shut }

theorem LetsThrough.showsCause {site : Site σ} {visit : Visit σ} {cause : CacheError} {calls : Nat}
    (passes : site.LetsThrough visit.operation) (failed : visit.work site = .failed cause) :
    site.ShowsCause visit calls (responseTo (.cache cause)) := by
  have passed : ¬ site.Refuses visit.operation := fun refuses => refuses.not_letsThrough passes
  -- there is only one thing that the wait for the store came to
  have late : visit.IsLate site → cause = .timeout (site.deadline visit.operation) := fun late =>
    WorkEnd.failed.inj (failed.symm.trans (Visit.work_eq_failed_iff.mpr (.inl ⟨late, rfl⟩)))
  have reported : ∀ other, visit.Reports site other → cause = other := fun other reports =>
    WorkEnd.failed.inj (failed.symm.trans (Visit.work_eq_failed_iff.mpr (.inr reports)))
  have body := body_responseTo cause
  have retry := retryAfter_responseTo cause
  have status := status_responseTo cause
  generalize responseTo (.cache cause) = response at *
  have timely : response.status = 504 ↔ ∃ span, cause = .timeout span := by
    rcases status with ⟨status, span, rfl⟩ | ⟨status, other⟩
    · exact iff_of_true status ⟨span, rfl⟩
    · exact iff_of_false (by simp [status]) fun ⟨span, same⟩ => other span same
  have otherwise : response.status = 502 ↔ ∀ span, cause ≠ .timeout span := by
    rcases status with ⟨status, span, rfl⟩ | ⟨status, other⟩
    · exact iff_of_false (by simp [status]) fun other => other span rfl
    · exact iff_of_true status other
  have reach : visit.IsLate site ∧ cause = .timeout (site.deadline visit.operation) ∨
      visit.Reports site cause := Visit.work_eq_failed_iff.mp failed
  refine {
    refused := iff_of_false (fun same => same.2 retry) fun refuses => passed refuses.1
    late := timely.trans ⟨?_, ?_⟩
    failed := otherwise.trans ⟨?_, ?_⟩
    exhaustive := .inr (status.imp And.left And.left)
    retryAfter := fun _ => retry
    refusalText := fun refuses => absurd refuses passed
    lateText := fun _ isLate => late isLate ▸ body
    failureText := fun _ _ reports => reported _ reports ▸ body }
  · rintro ⟨span, rfl⟩
    exact ⟨passes, reach.imp And.left fun reports => ⟨span, reports⟩⟩
  · rintro ⟨_, isLate | ⟨span, reports⟩⟩
    · exact ⟨_, late isLate⟩
    · exact ⟨span, reported _ reports⟩
  · intro other
    have reports := reach.resolve_left fun isLate => other _ isLate.2
    exact ⟨passes, cause, reports, other⟩
  · rintro ⟨_, told, reports, other⟩
    rw [reported told reports]
    exact other

theorem Stems.showsCause {site : Site σ} {visit : Visit σ} {error : WriteError} {calls : Nat}
    (stems : site.Stems visit error calls) : site.ShowsCause visit calls (responseTo error) := by
  cases stems with
  | refused refuses => exact refuses.showsCause
  | failed passes cause failed => exact passes.showsCause failed

/-- The response to a failed write shows its cause, and each cause does make a write fail.  The
clock must be readable for that when the outcome is reported. -/
theorem failed_write_shows_cause {site : Site σ} (sound : site.fleet.IsSound) {visit : Visit σ}
    (guarded : visit.direct = false) (write : IsWrite visit.operation) (later : Clock) :
    (∀ error, (site.callUntil visit later).1 = .guarded (.notWritten error) →
      site.ShowsCause visit (site.callUntil visit later).2.calls (responseTo error)) ∧
    (site.Refuses visit.operation →
      ∃ error, (site.callUntil visit later).1 = .guarded (.notWritten error)) ∧
    (∀ cause atEnd, site.LetsThrough visit.operation → later.read = .ok atEnd →
      visit.IsLate site ∨ visit.Reports site cause →
      ∃ error, (site.callUntil visit later).1 = .guarded (.notWritten error)) := by
  have comes := comesTo_callUntil sound guarded later
  refine ⟨fun error failed => (comes.stems write failed).showsCause, fun refuses => ?_,
    fun cause atEnd passes read ends => ?_⟩
  · rw [comes.of_refuses refuses, refused_of_isWrite write]
    exact ⟨_, rfl⟩
  · obtain ⟨error, failed⟩ : ∃ error, visit.work site = .failed error := by
      rcases ends with late | reports
      · exact ⟨_, Visit.work_eq_failed_iff.mpr (.inl ⟨late, rfl⟩)⟩
      · exact ⟨cause, Visit.work_eq_failed_iff.mpr (.inr reports)⟩
    rw [comes.of_letsThrough passes read, failed]
    exact ⟨.cache error, congrArg VisitAnswer.guarded (failed_of_isWrite write error)⟩

/-- The message cannot be deleted, since the store is down. -/
theorem failed_delete_shows_cause :
    let site : Site Unit := { fleet := {}, table := .builtIn, store := () }
    let visit : Visit Unit := ⟨.deleteMessage, fun store => (.failed (.backend "down"), store),
      .zero, none, false⟩
    (site.callUntil visit {}).1 = .guarded (.notWritten (.cache (.backend "down"))) ∧
      (responseTo (.cache (.backend "down"))).status = 502 ∧
      (responseTo (.cache (.backend "down"))).body = "Cache error: Cache backend error: down" := by
  intro site visit
  have write : IsWrite visit.operation := trivial
  have reports : visit.Reports site (.backend "down") := ⟨by decide, nofun, rfl⟩
  have passes : site.LetsThrough .deleteMessage := ⟨⟨⟨0⟩, Clock.origin⟩, by decide, by decide⟩
  have answer : (site.callUntil visit {}).1 =
      .guarded (.notWritten (.cache (.backend "down"))) := by decide
  have shows := (failed_write_shows_cause (.of_unregistered rfl) rfl write {}).1 _ answer
  exact ⟨answer, shows.failed.mpr ⟨passes, _, reports, fun _ => nofun⟩,
    shows.failureText _ passes reports⟩

end Site

end GuardedCache.Protected
