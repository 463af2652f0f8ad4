import Mathlib.Data.List.Induction
import GuardedCache.Proofs.Circuit.History

/-!
# Every call is counted once

The totals of a breaker agree with what its users were told: every call that was
let in or turned away is counted once, and so is every outcome.  A permit is given
back at most once, on whichever way its call ends, although two things report
then: whoever records an outcome, and the permit itself when it is dropped.
-/

namespace GuardedCache.Circuit

variable {ε α : Type}

/-! ## What is reported with a permit -/

namespace Action

/-- The outcome that is recorded with a permit before it is dropped.  Work that is
broken off or cancelled gets no chance to record one. -/
def recorded? : Action ε α → Option Outcome
  | .settle _ outcome => some outcome
  | .finish _ (.done _) => some .success
  | .finish _ (.failed _) => some .failure
  | _ => none

/-- What the drop of a permit reports: a failure, unless something was recorded. -/
def droppedWith (recorded : Option Outcome) : Option Outcome :=
  if recorded.isSome then none else some .failure

/-- Everything that is reported when a permit is given back, in order. -/
def reports (action : Action ε α) : List Outcome :=
  action.recorded?.toList ++ (droppedWith action.recorded?).toList

/-- One outcome is reported in any case, and never a second one. -/
theorem reports_eq (action : Action ε α) :
    action.reports = [action.recorded?.getD .failure] := by
  rw [reports]
  cases action.recorded? <;> rfl

theorem reports_of_resolution {action : Action ε α} {number : Nat} {outcome : Outcome}
    (gives : action.resolution? = some (number, outcome)) : action.reports = [outcome] := by
  cases action with
  | settle n o =>
    cases gives
    rfl
  | discard n =>
    cases gives
    rfl
  | finish n work =>
    cases gives
    cases work <;> rfl
  | _ => cases gives

def isStart : Action ε α → Bool
  | .start => true
  | _ => false

/-- The outcome that is reported without a permit. -/
def bare? : Action ε α → Option Outcome
  | .record outcome => some outcome
  | _ => none

theorem bare?_of_resolution {action : Action ε α} {number : Nat} {outcome : Outcome}
    (gives : action.resolution? = some (number, outcome)) : action.bare? = none := by
  cases action with
  | record o => cases gives
  | _ => rfl

/-- The number of the permit that an action gives back. -/
def returned? (action : Action ε α) : Option Nat :=
  action.resolution?.map Prod.fst

end Action

/-- The breaker after outcomes were reported with a permit, one after the other. -/
def Breaker.settleAll (b : Breaker) (permit : Permit) (glance : Glance)
    (outcomes : List Outcome) : Breaker :=
  outcomes.foldl (fun b outcome => (b.settle permit outcome glance).breaker) b

/-! ## What users are told -/

namespace Reply

/-- A call may proceed, or may not, without a permit. -/
def isAllowed (answer : Bool) : Reply → Bool
  | .allowed (.ok given) => given == answer
  | _ => false

def isIssue : Reply → Bool
  | .acquired (.ok (some _)) => true
  | _ => false

def isDenial : Reply → Bool
  | .acquired (.ok none) => true
  | _ => false

/-- A permit was given back. -/
def isReturn : Reply → Bool
  | .reported (some _) => true
  | _ => false

theorem isAllowed_le_one (answer : Except ClockFault Bool) :
    ((allowed answer).isAllowed true).toNat + ((allowed answer).isAllowed false).toNat ≤ 1 := by
  rcases answer with _ | _ | _
  · exact Nat.zero_le 1
  · exact Nat.le_refl 1
  · exact Nat.le_refl 1

end Reply

namespace Entry

def reply (e : Entry ε α) : Reply := (e.before.perform e.step).1

/-- The outcomes that a step reports, with a permit or without one. -/
def outcomes (e : Entry ε α) : List Outcome :=
  if e.reply.isReturn then e.step.action.reports else e.step.action.bare?.toList

def isBare (e : Entry ε α) : Bool := e.step.action.bare?.isSome

/-- A step that starts a call whose permit is granted. -/
def isGrantedStart (e : Entry ε α) : Bool := e.step.action.isStart && e.reply.isIssue

/-- A step that gives the permit with a number back. -/
def returns (number : Nat) (e : Entry ε α) : Bool :=
  e.reply.isReturn && e.step.action.returned? = some number

end Entry

/-! ## What an operation adds to the totals -/

/-- Totals with some more admissions, rejections and outcomes. -/
structure Totals.Counts (t : Totals) (admitted rejected : Nat) (outcomes : List Outcome)
    (after : Totals) : Prop where
  admitted : after.admitted = t.admitted + admitted
  rejected : after.rejected = t.rejected + rejected
  succeeded : after.succeeded = t.succeeded + outcomes.count .success
  failed : after.failed = t.failed + outcomes.count .failure

theorem Totals.Counts.trans {t middle after : Totals} {admitted rejected more further : Nat}
    {outcomes rest : List Outcome} (first : t.Counts admitted rejected outcomes middle)
    (second : middle.Counts more further rest after) :
    t.Counts (admitted + more) (rejected + further) (outcomes ++ rest) after where
  admitted := by rw [second.admitted, first.admitted, Nat.add_assoc]
  rejected := by rw [second.rejected, first.rejected, Nat.add_assoc]
  succeeded := by rw [second.succeeded, first.succeeded, List.count_append, Nat.add_assoc]
  failed := by rw [second.failed, first.failed, List.count_append, Nat.add_assoc]

namespace Breaker

theorem counts_allow (b : Breaker) (glance : Glance) :
    b.totals.Counts ((Reply.allowed (b.allow glance).answer).isAllowed true).toNat
      ((Reply.allowed (b.allow glance).answer).isAllowed false).toNat []
      (b.allow glance).breaker.totals := by
  have row := b.allowance glance
  generalize b.allow glance = effect at row ⊢
  cases row <;> exact ⟨rfl, rfl, rfl, rfl⟩

theorem counts_acquire (b : Breaker) (glance : Glance) :
    b.totals.Counts (Reply.acquired (b.acquire glance).answer).isIssue.toNat
      (Reply.acquired (b.acquire glance).answer).isDenial.toNat []
      (b.acquire glance).breaker.totals := by
  have row := b.acquisition glance
  generalize b.acquire glance = effect at row ⊢
  cases row <;> exact ⟨rfl, rfl, rfl, rfl⟩

/-- Whatever else becomes of an outcome, it is counted. -/
theorem counts_report (b : Breaker) (outcome : Outcome) (permit : Option Permit)
    (glance : Glance) :
    b.totals.Counts 0 0 [outcome] (b.report outcome permit glance).breaker.totals := by
  have row := b.report_row outcome permit glance
  generalize b.report outcome permit glance = effect at row ⊢
  cases outcome <;> cases row <;> exact ⟨rfl, rfl, rfl, rfl⟩

theorem counts_reset (b : Breaker) (glance : Glance) :
    b.totals.Counts 0 0 [] (b.reset glance).breaker.totals := by
  have row := b.closure glance
  generalize b.reset glance = effect at row ⊢
  cases row <;> exact ⟨rfl, rfl, rfl, rfl⟩

end Breaker

namespace Ledger

/-! ## What a step adds to the accounts -/

/-- The permits of guarded calls, one for each work that was started. -/
def works (l : Ledger) : List Slip := l.slips.filter fun slip => slip.working

/-- The permits that were issued and not given back. -/
def outstanding (l : Ledger) : List Slip := l.slips.filter fun slip => slip.fate.isPending

/-- The permit with a number was issued and given back. -/
def isReturned (l : Ledger) (number : Nat) : Bool :=
  l.slips[number]?.any fun slip => !slip.fate.isPending

/-- What a step adds to the totals of the breaker and to the permits of its
users is what its user is told. -/
structure Adds (l : Ledger) (s : Step ε α) : Prop where
  counts : l.breaker.totals.Counts
    (((Entry.mk l s).reply.isAllowed true).toNat + (Entry.mk l s).reply.isIssue.toNat)
    (((Entry.mk l s).reply.isAllowed false).toNat + (Entry.mk l s).reply.isDenial.toNat)
    (Entry.mk l s).outcomes (l.step s).breaker.totals
  issued : (l.step s).slips.length = l.slips.length + (Entry.mk l s).reply.isIssue.toNat
  works : (l.step s).works.length = l.works.length + (Entry.mk l s).isGrantedStart.toNat
  outstanding : (l.step s).outstanding.length + (Entry.mk l s).outcomes.length =
    l.outstanding.length + ((Entry.mk l s).isBare.toNat + (Entry.mk l s).reply.isIssue.toNat)
  returned (number : Nat) : ((l.step s).isReturned number).toNat =
    (l.isReturned number).toNat + ((Entry.mk l s).returns number).toNat
  single : ((Entry.mk l s).reply.isAllowed true).toNat + (Entry.mk l s).reply.isIssue.toNat +
    (((Entry.mk l s).reply.isAllowed false).toNat + (Entry.mk l s).reply.isDenial.toNat) +
    (Entry.mk l s).outcomes.length ≤ 1

section Shapes

variable {l : Ledger} {s : Step ε α}

/-- A step that neither issues a permit nor takes one back. -/
theorem Adds.of_slips
    (counts : l.breaker.totals.Counts ((Entry.mk l s).reply.isAllowed true).toNat
      (((Entry.mk l s).reply.isAllowed false).toNat + (Entry.mk l s).reply.isDenial.toNat)
      s.action.bare?.toList (l.step s).breaker.totals)
    (slips : (l.step s).slips = l.slips) (issue : (Entry.mk l s).reply.isIssue = false)
    (kept : (Entry.mk l s).reply.isReturn = false)
    (single : ((Entry.mk l s).reply.isAllowed true).toNat +
      (((Entry.mk l s).reply.isAllowed false).toNat + (Entry.mk l s).reply.isDenial.toNat) +
      s.action.bare?.toList.length ≤ 1) : l.Adds s := by
  have outcomes : (Entry.mk l s).outcomes = s.action.bare?.toList := by
    rw [Entry.outcomes, kept, if_neg Bool.false_ne_true]
  constructor
  · rwa [outcomes, issue]
  · rw [slips, issue]
    rfl
  · rw [Ledger.works, Ledger.works, slips, Entry.isGrantedStart, issue, Bool.and_false]
    rfl
  · rw [Ledger.outstanding, Ledger.outstanding, slips, outcomes, issue, Entry.isBare]
    cases s.action.bare? <;> rfl
  · intro number
    rw [isReturned, isReturned, slips, Entry.returns, kept]
    rfl
  · rwa [outcomes, issue]

/-- A step that issues a permit. -/
theorem Adds.of_issue {permit : Permit} {window : Nat}
    (counts : l.breaker.totals.Counts 1 0 [] (l.step s).breaker.totals)
    (slips : (l.step s).slips = l.slips ++ [{ permit, window, working := s.action.isStart }])
    (told : (Entry.mk l s).reply = .acquired (.ok (some permit)))
    (bare : s.action.bare? = none) : l.Adds s := by
  have outcomes : (Entry.mk l s).outcomes = [] := by
    rw [Entry.outcomes, told, bare]
    rfl
  constructor
  · rwa [outcomes, told]
  · rw [slips, told]
    exact List.length_append
  · rw [Ledger.works, Ledger.works, slips, Entry.isGrantedStart, told, List.filter_append,
      List.length_append]
    cases s.action.isStart <;> rfl
  · rw [Ledger.outstanding, Ledger.outstanding, slips, outcomes, told, Entry.isBare, bare,
      List.filter_append, List.length_append]
    rfl
  · intro number
    rw [isReturned, isReturned, slips, Entry.returns, told]
    rcases Nat.lt_trichotomy number l.slips.length with below | rfl | above
    · rw [List.getElem?_append_left below]
      rfl
    · simp [Reply.isReturn, Fate.isPending]
    · rw [List.getElem?_eq_none (by simpa using Nat.succ_le_of_lt above),
        List.getElem?_eq_none (by omega)]
      rfl
  · rw [told, outcomes]
    exact Nat.le_refl 1

/-- A step that takes back a permit that was held. -/
theorem Adds.of_return {number : Nat} {slip : Slip} {outcome : Outcome} {fate : Fate}
    {answer : Except ClockFault Unit}
    (counts : l.breaker.totals.Counts 0 0 [outcome] (l.step s).breaker.totals)
    (slips : (l.step s).slips = markSlip l.slips number fate)
    (held : l.held? number = some slip) (known : fate.isPending = false)
    (told : (Entry.mk l s).reply = .reported (some answer))
    (gives : s.action.resolution? = some (number, outcome)) : l.Adds s := by
  obtain ⟨found, pending⟩ := held?_eq_some_iff.mp held
  have outcomes : (Entry.mk l s).outcomes = [outcome] := by
    rw [Entry.outcomes, told, ← Action.reports_of_resolution gives]
    rfl
  have idle : (Entry.mk l s).isGrantedStart = false := by
    rw [Entry.isGrantedStart, told]
    exact Bool.and_false _
  have was : slip.fate.isPending = true := by
    rw [pending]
    rfl
  constructor
  · rwa [outcomes, told]
  · rw [slips, told, markSlip, List.length_modify]
    rfl
  · have moved := countP_markSlip (·.working) found fate
    rw [Ledger.works, Ledger.works, ← List.countP_eq_length_filter,
      ← List.countP_eq_length_filter, slips, idle]
    exact Nat.add_right_cancel moved
  · have moved := countP_markSlip (·.fate.isPending) found fate
    simp only [was, known, Bool.toNat_true, Bool.toNat_false] at moved
    rw [Ledger.outstanding, Ledger.outstanding, ← List.countP_eq_length_filter,
      ← List.countP_eq_length_filter, slips, outcomes, told, Entry.isBare,
      Action.bare?_of_resolution gives]
    exact moved
  · intro other
    rw [isReturned, isReturned, slips, Entry.returns, told, getElem?_markSlip,
      Action.returned?, gives]
    by_cases same : number = other
    · subst same
      simp [found, was, known, Reply.isReturn]
    · simp [same, Reply.isReturn]
  · rw [told, outcomes]
    exact Nat.le_refl 1

theorem adds_acquire
    (asks : l.perform s = (l.acquire s.action.isStart s.glance).map .acquired id)
    (bare : s.action.bare? = none) : l.Adds s := by
  have counts := l.breaker.counts_acquire s.glance
  have after : l.step s = (l.acquire s.action.isStart s.glance).2 := congrArg Prod.snd asks
  have told : (Entry.mk l s).reply = .acquired (l.breaker.acquire s.glance).answer :=
    congrArg Prod.fst asks
  rw [acquire] at after
  generalize l.breaker.acquire s.glance = effect at counts after told
  rcases effect with ⟨_ | _ | permit, breaker, events⟩
  · refine .of_slips ?_ (by rw [after]; rfl) (by rw [told]; rfl) (by rw [told]; rfl) ?_
    · rw [after, told, bare]
      exact counts
    · rw [told, bare]
      exact Nat.zero_le 1
  · refine .of_slips ?_ (by rw [after]; rfl) (by rw [told]; rfl) (by rw [told]; rfl) ?_
    · rw [after, told, bare]
      exact counts
    · rw [told, bare]
      exact Nat.le_refl 1
  · refine .of_issue ?_ (by rw [after]; rfl) told bare
    rw [after]
    exact counts

theorem reply_of_resolution {number : Nat} {outcome : Outcome}
    (gives : s.action.resolution? = some (number, outcome)) :
    (Entry.mk l s).reply = .reported (l.resolve number outcome s.glance).1 := by
  obtain ⟨action, glance⟩ := s
  cases action with
  | settle n o =>
    cases gives
    rfl
  | discard n =>
    cases gives
    rfl
  | finish n work =>
    cases gives
    rfl
  | _ => cases gives

theorem adds_resolve {number : Nat} {outcome : Outcome}
    (gives : s.action.resolution? = some (number, outcome)) : l.Adds s := by
  have after := step_of_resolution gives l
  have told := reply_of_resolution (l := l) gives
  rw [resolve] at after told
  cases held : l.held? number with
  | none =>
    rw [held] at after told
    refine .of_slips ?_ (by rw [after]) (by rw [told]; rfl) (by rw [told]; rfl) ?_
    · rw [after, told, Action.bare?_of_resolution gives]
      exact ⟨rfl, rfl, rfl, rfl⟩
    · rw [told, Action.bare?_of_resolution gives]
      exact Nat.zero_le 1
  | some slip =>
    rw [held] at after told
    refine .of_return ?_ (by rw [after]; rfl) held ?_ told gives
    · rw [after]
      exact l.breaker.counts_report outcome (some slip.permit) s.glance
    · cases (l.breaker.settle slip.permit outcome s.glance).answer <;> rfl

end Shapes

theorem adds (l : Ledger) (s : Step ε α) : l.Adds s := by
  obtain ⟨action, glance⟩ := s
  cases action with
  | allow =>
    exact .of_slips (l.breaker.counts_allow glance) rfl rfl rfl
      (Reply.isAllowed_le_one (l.breaker.allow glance).answer)
  | acquire => exact adds_acquire rfl rfl
  | start => exact adds_acquire rfl rfl
  | settle number outcome => exact adds_resolve rfl
  | discard number => exact adds_resolve rfl
  | finish number work => exact adds_resolve rfl
  | record outcome =>
    exact .of_slips (l.breaker.counts_report outcome none glance) rfl rfl rfl (Nat.le_refl 1)
  | reset => exact .of_slips (l.breaker.counts_reset glance) rfl rfl rfl (Nat.zero_le 1)
  | addObserver observer => exact .of_slips ⟨rfl, rfl, rfl, rfl⟩ rfl rfl rfl (Nat.zero_le 1)

/-! ## Whole runs -/

/-- The totals of a breaker and the permits of its users agree with a history:
each admission, each rejection and each outcome in it is counted once, and every
permit that was issued is given back at most once. -/
structure Accounted (l : Ledger) (history : List (Entry ε α)) : Prop where
  admitted : l.breaker.totals.admitted =
    history.countP (·.reply.isAllowed true) + history.countP (·.reply.isIssue)
  rejected : l.breaker.totals.rejected =
    history.countP (·.reply.isAllowed false) + history.countP (·.reply.isDenial)
  succeeded : l.breaker.totals.succeeded = (history.flatMap Entry.outcomes).count .success
  failed : l.breaker.totals.failed = (history.flatMap Entry.outcomes).count .failure
  resolved : l.breaker.totals.succeeded + l.breaker.totals.failed + l.outstanding.length =
    history.countP Entry.isBare + history.countP (·.reply.isIssue)
  issued : l.slips.length = history.countP (·.reply.isIssue)
  returned (number : Nat) : history.countP (Entry.returns number) = (l.isReturned number).toNat
  works : l.works.length = history.countP Entry.isGrantedStart
  bounded : l.breaker.totals.admitted + l.breaker.totals.rejected +
    (l.breaker.totals.succeeded + l.breaker.totals.failed) ≤ history.length

theorem countP_concat (history : List (Entry ε α)) (e : Entry ε α) (kind : Entry ε α → Bool) :
    (history ++ [e]).countP kind = history.countP kind + (kind e).toNat := by
  rw [List.countP_append, List.countP_singleton]
  cases kind e <;> rfl

theorem count_outcomes_concat (history : List (Entry ε α)) (e : Entry ε α) (outcome : Outcome) :
    ((history ++ [e]).flatMap Entry.outcomes).count outcome =
      (history.flatMap Entry.outcomes).count outcome + e.outcomes.count outcome := by
  rw [List.flatMap_append, List.count_append, List.flatMap_singleton]

theorem count_add_count (outcomes : List Outcome) :
    outcomes.count .success + outcomes.count .failure = outcomes.length := by
  induction outcomes with
  | nil => rfl
  | cons outcome rest ih => cases outcome <;> simp <;> omega

theorem Accounted.step {l : Ledger} {history : List (Entry ε α)} (h : l.Accounted history)
    (s : Step ε α) : (l.step s).Accounted (history ++ [⟨l, s⟩]) := by
  have adds := l.adds s
  have total := count_add_count (⟨l, s⟩ : Entry ε α).outcomes
  constructor
  · rw [adds.counts.admitted, h.admitted, countP_concat, countP_concat]
    omega
  · rw [adds.counts.rejected, h.rejected, countP_concat, countP_concat]
    omega
  · rw [adds.counts.succeeded, h.succeeded, count_outcomes_concat]
  · rw [adds.counts.failed, h.failed, count_outcomes_concat]
  · have resolved := h.resolved
    have outstanding := adds.outstanding
    rw [adds.counts.succeeded, adds.counts.failed, countP_concat, countP_concat]
    omega
  · rw [adds.issued, h.issued, countP_concat]
  · intro number
    rw [countP_concat, h.returned number, adds.returned number]
  · rw [adds.works, h.works, countP_concat]
  · have bounded := h.bounded
    have single := adds.single
    rw [adds.counts.admitted, adds.counts.rejected, adds.counts.succeeded, adds.counts.failed,
      List.length_append, List.length_singleton]
    omega

theorem accounted_run (name : String) (config : Config) (observers : List Observer)
    (created : Reading) (steps : List (Step ε α)) :
    ((fresh name config observers created).run steps).Accounted
      ((fresh name config observers created).history steps) := by
  induction steps using List.reverseRecOn with
  | nil => exact ⟨rfl, rfl, rfl, rfl, rfl, rfl, fun _ => rfl, rfl, Nat.le_refl 0⟩
  | append_singleton steps s ih =>
    rw [run_concat, history_concat]
    exact ih.step s

end Ledger

/-- A step starts work exactly if it starts a call and the call gets its permit.
A permit that is given back reports one outcome to the breaker: the one that was
recorded with it, or else a failure. -/
structure Entry.IsExact (e : Entry ε α) : Prop where
  works : (e.before.step e.step).works.length = e.before.works.length + e.isGrantedStart.toNat
  reported : ∀ number slip, e.step.action.returned? = some number →
    e.before.held? number = some slip →
      e.outcomes = [e.step.action.recorded?.getD .failure] ∧
        (e.before.step e.step).breaker =
          e.before.breaker.settleAll slip.permit e.step.glance e.outcomes

theorem Entry.isExact (e : Entry ε α) : e.IsExact where
  works := (e.before.adds e.step).works
  reported number slip returned held := by
    obtain ⟨⟨_, outcome⟩, gives, rfl⟩ := Option.map_eq_some_iff.mp returned
    have after := Ledger.step_of_resolution gives e.before
    have told := Ledger.reply_of_resolution (l := e.before) gives
    rw [Ledger.resolve, held] at after told
    have outcomes : e.outcomes = e.step.action.reports := by
      rw [outcomes, told]
      rfl
    refine ⟨outcomes.trans e.step.action.reports_eq, ?_⟩
    rw [outcomes, Action.reports_of_resolution gives, after]
    rfl

namespace Ledger

/-- In every run each admission, each rejection and each outcome is counted once,
no work runs without a permit, and no permit reports twice. -/
theorem every_call_counted_once (name : String) (config : Config) (observers : List Observer)
    (created : Reading) (steps : List (Step ε α)) :
    ((fresh name config observers created).run steps).Accounted
        ((fresh name config observers created).history steps) ∧
      ∀ e ∈ (fresh name config observers created).history steps, e.IsExact :=
  ⟨accounted_run name config observers created steps, fun e _ => e.isExact⟩

end Ledger

end GuardedCache.Circuit
