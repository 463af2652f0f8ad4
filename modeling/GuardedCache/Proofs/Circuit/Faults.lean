import GuardedCache.Circuit.Job
import GuardedCache.Proofs.Circuit.Accounting
import GuardedCache.Proofs.Circuit.Registration

/-!
# Clocks that cannot be read

A clock that has been moved past the last instant cannot be read, and an operation that needs the
time is broken off where it asks for it.  `BrokenOff` says what has happened by then: at most an
outcome has been counted and its permit used up.

A permit also goes out of scope when its report is broken off, and one whose outcome has not been
reported counts as a failure then.  A `Ticket` is a permit that remembers whether its outcome has
been reported.  It remembers that before the report begins, so no outcome is counted twice.
-/

namespace GuardedCache

namespace Clock

/-- The clock has been moved past the last instant that timers can use. -/
def IsBeyond (c : Clock) : Prop := maxInstantSeconds < c.offset.wholeSeconds

theorem read_of_isBeyond {c : Clock} (beyond : c.IsBeyond) :
    c.read = .error .instantOverflow :=
  if_neg (Nat.not_le_of_lt beyond)

theorem exists_read {c : Clock} (within : ¬ c.IsBeyond) : ∃ now, c.read = .ok now :=
  ⟨_, if_pos (Nat.le_of_not_lt within)⟩

/-- A clock that cannot be moved on as far as it is told to stays where it is. -/
theorem advance_of_overflow {f : Circuit.Fleet} {span : Duration}
    (overflow : maxSeconds < (f.clock.offset + span).wholeSeconds) :
    f.advance span = (.error .durationOverflow, f) := by
  have stays : f.clock.advance span = .error .durationOverflow :=
    if_neg (Nat.not_le_of_lt overflow)
  rw [Circuit.Fleet.advance, stays]

end Clock

namespace Circuit

/-! ## Tickets -/

/-- A permit in the hands of its holder. -/
structure Ticket where
  permit : Permit
  /-- Whether the report of its outcome has begun. -/
  recorded : Bool := false

namespace Breaker

/-- The breaker after a ticket went out of scope.  One whose outcome nobody has reported counts as
a failure. -/
def release (b : Breaker) (ticket : Ticket) (glance : Glance) :
    Effect (Except ClockFault Unit) :=
  if ticket.recorded then ⟨.ok (), b, []⟩ else b.settle ticket.permit .failure glance

/-- The breaker after a ticket was used to report an outcome.  The ticket goes out of scope then,
whether the report was done or broken off. -/
def redeem (b : Breaker) (ticket : Ticket) (outcome : Outcome) (glance : Glance) :
    Effect (Except ClockFault Unit) :=
  let used := { ticket with recorded := true }
  let reported := b.settle used.permit outcome glance
  let released := reported.breaker.release used glance
  ⟨reported.answer, released.breaker, reported.events ++ released.events⟩

/-- A ticket that was used does nothing more when it goes out of scope. -/
theorem redeem_eq_settle (b : Breaker) (ticket : Ticket) (outcome : Outcome) (glance : Glance) :
    b.redeem ticket outcome glance = b.settle ticket.permit outcome glance := by
  have nothing (after : Breaker) :
      after.release { ticket with recorded := true } glance = ⟨.ok (), after, []⟩ := if_pos rfl
  rw [redeem]
  simp only [nothing, List.append_nil]

/-- An outcome that tells a circuit nothing: a success of one that is closed and has seen no
failure. -/
def IsNoNews (b : Breaker) (outcome : Outcome) : Prop :=
  outcome = .success ∧ b.state = .closed ∧ b.phase.failures = 0

theorem report_of_isNoNews {b : Breaker} {outcome : Outcome} (noNews : b.IsNoNews outcome)
    (permit : Option Permit) (glance : Glance) :
    b.report outcome permit glance = ⟨.ok (), b.countOutcome outcome, []⟩ :=
  if_pos ⟨noNews.1, b.isHealthy_iff.mpr noNews.2⟩

theorem report_of_error {b : Breaker} {outcome : Outcome} (news : ¬ b.IsNoNews outcome)
    (permit : Option Permit) (fault : ClockFault) :
    b.report outcome permit (.error fault) = ⟨.error fault, b.countOutcome outcome, []⟩ :=
  if_neg fun healthy => news ⟨healthy.1, b.isHealthy_iff.mp healthy.2⟩

end Breaker

/-! ## Operations that are broken off -/

/-- The fault with which an operation was broken off. -/
def Reply.fault? : Reply → Option ClockFault
  | .allowed (.error fault) => some fault
  | .acquired (.error fault) => some fault
  | .reported (some (.error fault)) => some fault
  | .done (.error fault) => some fault
  | _ => none

variable {ε α : Type}

/-- The outcome that an action reports. -/
def Action.outcome? : Action ε α → Option Outcome
  | .record outcome => some outcome
  | action => action.resolution?.map Prod.snd

theorem Action.outcome?_of_resolution {action : Action ε α} {number : Nat} {outcome : Outcome}
    (gives : action.resolution? = some (number, outcome)) : action.outcome? = some outcome := by
  cases action with
  | settle n o => cases gives; rfl
  | discard n => cases gives; rfl
  | finish n work => cases gives; rfl
  | _ => cases gives

namespace Ledger

/-- An action cannot be done without the time. -/
inductive NeedsTime (l : Ledger) : Action ε α → Prop where
  | allow : NeedsTime l .allow
  | acquire : NeedsTime l .acquire
  | start : NeedsTime l .start
  | reset : NeedsTime l .reset
  | record (outcome : Outcome) (news : ¬ l.breaker.IsNoNews outcome) : NeedsTime l (.record outcome)
  | resolve {action : Action ε α} {number : Nat} {outcome : Outcome} {slip : Slip}
      (gives : action.resolution? = some (number, outcome)) (held : l.held? number = some slip)
      (news : ¬ l.breaker.IsNoNews outcome) : NeedsTime l action

/-- What is left of an action that was broken off: its outcome was counted, once, and its permit
was used up.  All else is as it was, and no work was begun. -/
structure BrokenOff (l : Ledger) (action : Action ε α) (after : Ledger) : Prop where
  phase : after.breaker.phase = l.breaker.phase
  config : after.breaker.config = l.breaker.config
  observers : after.breaker.observers = l.breaker.observers
  journal : after.journal = l.journal
  past : after.past = l.past
  totals : after.breaker.totals = { l.breaker.totals with
    succeeded := l.breaker.totals.succeeded + if action.outcome? = some .success then 1 else 0
    failed := l.breaker.totals.failed + if action.outcome? = some .failure then 1 else 0 }
  unspent : action.resolution? = none → after.slips = l.slips
  spent : ∀ number outcome, action.resolution? = some (number, outcome) →
    after.slips = markSlip l.slips number (.lost outcome) ∧ after.held? number = none

theorem follow_countOutcome {β : Type} (l : Ledger) (answer : β) (outcome : Outcome) :
    l.follow ⟨answer, l.breaker.countOutcome outcome, []⟩ =
      { l with breaker := l.breaker.countOutcome outcome } := by
  rw [follow_of_eq rfl, List.append_nil]

theorem follow_same {β : Type} (l : Ledger) (answer : β) :
    l.follow ⟨answer, l.breaker, []⟩ = l := by
  rw [follow_of_eq rfl, List.append_nil]

theorem held?_markSlip (l : Ledger) {number : Nat} {fate : Fate} (known : fate ≠ .pending) :
    (l.mark number fate).held? number = none := by
  rw [held?, mark, getElem?_markSlip]
  cases l.slips[number]? with
  | none => rfl
  | some slip => simp [known]

theorem totals_countOutcome (t : Totals) (outcome : Outcome) :
    t.countOutcome outcome = { t with
      succeeded := t.succeeded + if some outcome = some .success then 1 else 0
      failed := t.failed + if some outcome = some .failure then 1 else 0 } := by
  cases outcome <;> rfl

theorem brokenOff_of_idle {l : Ledger} {action : Action ε α} (silent : action.outcome? = none)
    (gives : action.resolution? = none) : l.BrokenOff action l where
  phase := rfl
  config := rfl
  observers := rfl
  journal := rfl
  past := rfl
  totals := by rw [silent]; rfl
  unspent _ := rfl
  spent number outcome given := by cases gives.symm.trans given

/-- A report that is broken off has counted the outcome and used up the permit. -/
theorem brokenOff_resolve {l : Ledger} {action : Action ε α} {number : Nat} {outcome : Outcome}
    (gives : action.resolution? = some (number, outcome)) :
    l.BrokenOff action
      ({ l with breaker := l.breaker.countOutcome outcome }.mark number (.lost outcome)) where
  phase := rfl
  config := rfl
  observers := rfl
  journal := rfl
  past := rfl
  totals := by
    rw [Action.outcome?_of_resolution gives]
    exact totals_countOutcome l.breaker.totals outcome
  unspent none := by cases gives.symm.trans none
  spent other reported given := by
    cases gives.symm.trans given
    exact ⟨rfl, held?_markSlip _ nofun⟩

theorem perform_of_resolution {action : Action ε α} {number : Nat} {outcome : Outcome}
    (gives : action.resolution? = some (number, outcome)) (l : Ledger) (glance : Glance) :
    l.perform ⟨action, glance⟩ = (l.resolve number outcome glance).map .reported id := by
  cases action with
  | settle n o => cases gives; rfl
  | discard n => cases gives; rfl
  | finish n work => cases gives; rfl
  | _ => cases gives

theorem resolve_of_news {l : Ledger} {number : Nat} {outcome : Outcome} {slip : Slip}
    (held : l.held? number = some slip) (news : ¬ l.breaker.IsNoNews outcome) (fault : ClockFault) :
    l.resolve number outcome (.error fault) = (some (.error fault),
      ({ l with breaker := l.breaker.countOutcome outcome }).mark number (.lost outcome)) := by
  rw [resolve, held]
  simp only [Breaker.settle, Breaker.report_of_error news, follow_countOutcome]

/-- An action that needs the time is broken off. -/
theorem perform_of_needsTime {l : Ledger} {action : Action ε α} (needs : l.NeedsTime action)
    (fault : ClockFault) :
    (l.perform ⟨action, .error fault⟩).1.fault? = some fault ∧
      l.BrokenOff action (l.step ⟨action, .error fault⟩) := by
  have idle {other : Action ε α} (same : l.step ⟨other, .error fault⟩ = l)
      (silent : other.outcome? = none) (gives : other.resolution? = none) :
      l.BrokenOff other (l.step ⟨other, .error fault⟩) := by
    rw [same]
    exact brokenOff_of_idle silent gives
  cases needs with
  | allow => exact ⟨rfl, idle (l.follow_same _) rfl rfl⟩
  | acquire => exact ⟨rfl, idle (l.follow_same _) rfl rfl⟩
  | start => exact ⟨rfl, idle (l.follow_same _) rfl rfl⟩
  | reset => exact ⟨rfl, idle (l.follow_same _) rfl rfl⟩
  | record outcome news =>
    have broken : l.record outcome (.error fault) =
        (.error fault, { l with breaker := l.breaker.countOutcome outcome }) := by
      rw [record, Breaker.record, Breaker.report_of_error news, follow_countOutcome]
    have reply : l.perform (⟨.record outcome, .error fault⟩ : Step ε α) =
        (.done (.error fault), { l with breaker := l.breaker.countOutcome outcome }) :=
      congrArg (Prod.map Reply.done id) broken
    rw [step, reply]
    exact ⟨rfl, rfl, rfl, rfl, rfl, rfl, totals_countOutcome l.breaker.totals outcome,
      fun _ => rfl, fun _ _ given => by cases given⟩
  | resolve gives held news =>
    rw [step, perform_of_resolution gives, resolve_of_news held news]
    exact ⟨rfl, brokenOff_resolve gives⟩

/-- What a clock that can be read is asked for is done. -/
theorem fault?_perform_of_ok (l : Ledger) (action : Action ε α) (now : Reading) :
    (l.perform ⟨action, .ok now⟩).1.fault? = none := by
  have acquired (working : Bool) :
      (Reply.acquired (l.acquire working (.ok now)).1).fault? = none := by
    have row := l.breaker.acquisition (.ok now)
    rw [acquire]
    generalize l.breaker.acquire (.ok now) = effect at row ⊢
    cases row <;> rfl
  have resolved {number : Nat} {outcome : Outcome}
      (gives : action.resolution? = some (number, outcome)) :
      (l.perform ⟨action, .ok now⟩).1.fault? = none := by
    rw [perform_of_resolution gives, resolve]
    cases l.held? number with
    | none => rfl
    | some slip =>
      have answer := l.breaker.report_ok_answer outcome (some slip.permit) now
      simp only [Breaker.settle, Prod.map, answer, Reply.fault?]
  cases action with
  | allow =>
    have row := l.breaker.allowance (.ok now)
    simp only [perform, allow, Prod.map]
    generalize l.breaker.allow (.ok now) = effect at row ⊢
    cases row <;> rfl
  | acquire => exact acquired false
  | start => exact acquired true
  | settle number outcome => exact resolved rfl
  | discard number => exact resolved rfl
  | finish number work => exact resolved rfl
  | record outcome =>
    have answer := l.breaker.report_ok_answer outcome none now
    simp only [perform, record, Breaker.record, Prod.map, answer, Reply.fault?]
  | reset =>
    have row := l.breaker.closure (.ok now)
    simp only [perform, reset, Prod.map]
    generalize l.breaker.reset (.ok now) = effect at row ⊢
    cases row <;> rfl
  | addObserver observer => rfl

/-- An action that does not need the time is done at any time. -/
theorem fault?_perform_of_timeless {l : Ledger} {action : Action ε α}
    (timeless : ¬ l.NeedsTime action) (glance : Glance) :
    (l.perform ⟨action, glance⟩).1.fault? = none := by
  have resolved {number : Nat} {outcome : Outcome}
      (gives : action.resolution? = some (number, outcome)) :
      (l.perform ⟨action, glance⟩).1.fault? = none := by
    rw [perform_of_resolution gives, resolve]
    cases held : l.held? number with
    | none => rfl
    | some slip =>
      have noNews : l.breaker.IsNoNews outcome :=
        Classical.not_not.mp fun news => timeless (.resolve gives held news)
      simp only [Breaker.settle, Breaker.report_of_isNoNews noNews, Prod.map, Reply.fault?]
  cases action with
  | allow => exact absurd .allow timeless
  | acquire => exact absurd .acquire timeless
  | start => exact absurd .start timeless
  | reset => exact absurd .reset timeless
  | settle number outcome => exact resolved rfl
  | discard number => exact resolved rfl
  | finish number work => exact resolved rfl
  | record outcome =>
    have noNews : l.breaker.IsNoNews outcome :=
      Classical.not_not.mp fun news => timeless (.record outcome news)
    simp only [perform, record, Breaker.record, Breaker.report_of_isNoNews noNews, Prod.map,
      Reply.fault?]
  | addObserver observer => rfl

theorem not_needsTime_of_isNoNews {l : Ledger} {action : Action ε α} {outcome : Outcome}
    (reports : action.outcome? = some outcome) (noNews : l.breaker.IsNoNews outcome) :
    ¬ l.NeedsTime action := by
  intro needs
  cases needs with
  | record other news =>
    cases reports
    exact news noNews
  | resolve gives held news =>
    cases (Action.outcome?_of_resolution gives).symm.trans reports
    exact news noNews
  | _ => cases reports

/-- Only an action that needs the time can be broken off, and only by its clock. -/
theorem needsTime_of_fault {clock : Clock} {action : Action ε α} {fault : ClockFault} (l : Ledger)
    (faulted : (l.perform ⟨action, clock.read⟩).1.fault? = some fault) :
    clock.IsBeyond ∧ l.NeedsTime action := by
  constructor
  · refine Classical.byContradiction fun within => ?_
    obtain ⟨now, read⟩ := Clock.exists_read within
    cases (l.fault?_perform_of_ok action now).symm.trans (read ▸ faulted)
  · refine Classical.byContradiction fun timeless => ?_
    cases (fault?_perform_of_timeless timeless _).symm.trans faulted

/-- No work is begun while the clock cannot be read. -/
theorem start_of_isBeyond {f : Fleet} (beyond : f.clock.IsBeyond) (job : Job ε α) :
    job.start f = (.ended (.aborted ClockFault.instantOverflow.message), f) := by
  rw [Job.start, Fleet.startCall_of_fault (Clock.read_of_isBeyond beyond)]

/-- What becomes of an action that finds its clock past the last instant. -/
structure Withstands (l : Ledger) (clock : Clock) (action : Action ε α) : Prop where
  faults : (l.perform ⟨action, clock.read⟩).1.fault? = some .instantOverflow ↔
    clock.IsBeyond ∧ l.NeedsTime action
  intact : ∀ fault, (l.perform ⟨action, clock.read⟩).1.fault? = some fault →
    l.BrokenOff action (l.step ⟨action, clock.read⟩)
  healthy : action.outcome? = some .success → l.breaker.state = .closed →
    l.breaker.phase.failures = 0 → (l.perform ⟨action, clock.read⟩).1.fault? = none
  once : ∀ ticket outcome, l.breaker.redeem ticket outcome clock.read =
    l.breaker.settle ticket.permit outcome clock.read
  workless : ∀ (f : Fleet) (job : Job ε α), f.clock = clock → clock.IsBeyond →
    job.start f = (.ended (.aborted ClockFault.instantOverflow.message), f)
  unmoved : ∀ (f : Fleet) (span : Duration), f.clock = clock →
    Clock.maxSeconds < (clock.offset + span).wholeSeconds →
    f.advance span = (.error .durationOverflow, f)

theorem withstands_unread_clock (l : Ledger) (clock : Clock) (action : Action ε α) :
    l.Withstands clock action where
  faults := by
    refine ⟨fun faulted => l.needsTime_of_fault faulted, fun ⟨beyond, needs⟩ => ?_⟩
    rw [Clock.read_of_isBeyond beyond]
    exact (perform_of_needsTime needs _).1
  intact fault faulted := by
    obtain ⟨beyond, needs⟩ := l.needsTime_of_fault faulted
    rw [Clock.read_of_isBeyond beyond]
    exact (perform_of_needsTime needs _).2
  healthy reports closed clean :=
    fault?_perform_of_timeless (not_needsTime_of_isNoNews reports ⟨rfl, closed, clean⟩) _
  once ticket outcome := l.breaker.redeem_eq_settle ticket outcome clock.read
  workless f job same beyond := start_of_isBeyond (same ▸ beyond) job
  unmoved f span same overflow := Clock.advance_of_overflow (same ▸ overflow)

/-- A permit was issued by a fresh breaker.  Its outcome is reported when the clock has been moved
too far. -/
theorem lost_permit_counted_once :
    let clock : Clock := { offset := .ofSeconds 9300000000000000000 }
    let issued := ((Ledger.fresh "a" {} [] ⟨⟨0⟩, Clock.origin⟩).acquire false
      (.ok ⟨⟨0⟩, Clock.origin⟩)).2
    let settle : Action Unit Unit := .settle 0 .failure
    let after := issued.step ⟨settle, clock.read⟩
    (issued.perform ⟨settle, clock.read⟩).1.fault? = some .instantOverflow ∧
      after.breaker.totals = { admitted := 1, failed := 1 } ∧ after.held? 0 = none := by
  intro clock issued settle after
  have needs : clock.IsBeyond ∧ issued.NeedsTime settle :=
    ⟨show Clock.maxInstantSeconds < clock.offset.wholeSeconds by decide,
      .resolve rfl (show issued.held? 0 = some ⟨⟨0, false⟩, 0, false, .pending⟩ from rfl)
      (by simp [Breaker.IsNoNews])⟩
  have withstands := issued.withstands_unread_clock clock settle
  have faulted := withstands.faults.mpr needs
  have broken := withstands.intact _ faulted
  exact ⟨faulted, broken.totals.trans (by decide), (broken.spent 0 .failure rfl).2⟩

/-! ## Runs -/

/-- The circuit stands still: only outcomes have been counted, and permits used up. -/
structure StandsStill (l after : Ledger) : Prop where
  phase : after.breaker.phase = l.breaker.phase
  journal : after.journal = l.journal
  past : after.past = l.past
  totals : ∃ succeeded failed, after.breaker.totals = { l.breaker.totals with succeeded, failed }

namespace StandsStill

theorem refl (l : Ledger) : l.StandsStill l := ⟨rfl, rfl, rfl, _, _, rfl⟩

theorem trans {l m n : Ledger} (first : l.StandsStill m) (second : m.StandsStill n) :
    l.StandsStill n := by
  obtain ⟨_, _, firstTotals⟩ := first.totals
  obtain ⟨succeeded, failed, secondTotals⟩ := second.totals
  refine ⟨second.phase.trans first.phase, second.journal.trans first.journal,
    second.past.trans first.past, succeeded, failed, ?_⟩
  rw [secondTotals, firstTotals]

end StandsStill

theorem standsStill_countOutcome (l : Ledger) (outcome : Outcome) :
    l.StandsStill { l with breaker := l.breaker.countOutcome outcome } := by
  refine ⟨rfl, rfl, rfl, ?_⟩
  cases outcome
  · exact ⟨l.breaker.totals.succeeded + 1, l.breaker.totals.failed, rfl⟩
  · exact ⟨l.breaker.totals.succeeded, l.breaker.totals.failed + 1, rfl⟩

theorem standsStill_report (l : Ledger) (outcome : Outcome) (permit : Option Permit)
    (fault : ClockFault) :
    l.StandsStill (l.follow (l.breaker.report outcome permit (.error fault))) := by
  by_cases noNews : l.breaker.IsNoNews outcome
  · rw [Breaker.report_of_isNoNews noNews, follow_countOutcome]
    exact l.standsStill_countOutcome outcome
  · rw [Breaker.report_of_error noNews, follow_countOutcome]
    exact l.standsStill_countOutcome outcome

theorem standsStill_step (l : Ledger) {s : Step ε α} {fault : ClockFault}
    (unread : s.glance = .error fault) : l.StandsStill (l.step s) := by
  have same {β : Type} (answer : β) : l.StandsStill (l.follow ⟨answer, l.breaker, []⟩) := by
    rw [follow_same]
    exact .refl l
  apply step_cases (P := l.StandsStill)
  · rw [unread]
    exact same _
  · intro working
    rw [unread]
    exact same _
  · intro number outcome _
    rw [unread, resolve]
    cases l.held? number with
    | none => exact .refl l
    | some slip =>
      have still := l.standsStill_report outcome (some slip.permit) fault
      exact ⟨still.phase, still.journal, still.past, still.totals⟩
  · intro outcome _
    rw [unread]
    exact l.standsStill_report outcome none fault
  · intro _
    rw [unread]
    exact same _
  · intro observer
    exact ⟨rfl, rfl, rfl, _, _, rfl⟩

/-- While the clock cannot be read, nothing that is done makes the circuit change. -/
theorem standsStill_run (l : Ledger) {steps : List (Step ε α)}
    (unread : ∀ s ∈ steps, ∃ fault, s.glance = .error fault) : l.StandsStill (l.run steps) :=
  run_induction (P := l.StandsStill) (fun s => ∃ fault, s.glance = .error fault) (.refl l)
    (fun m _ ⟨_, unread⟩ still => still.trans (m.standsStill_step unread)) unread

end Ledger

end Circuit

end GuardedCache
