import Mathlib.Data.List.Perm.Basic
import GuardedCache.Proofs.Circuit.Admission
import GuardedCache.Proofs.Circuit.Conservation
import GuardedCache.Proofs.Circuit.Probes
import GuardedCache.Proofs.Circuit.Totals

/-!
# Acting between two looks

A caller reads the clock and looks at the breaker; if that does not settle the matter, it
looks a second time, and its call is counted last of all.  The second look excludes others,
but between the looks, and between a look and the count, anybody may act: a circuit that was
due for a probe at the first look may be half-open with all probes taken, or closed, at the
second one.

A `Hall` is a ledger with the callers who are on their way.  Whatever comes between, a run
of a hall is a run of its ledger in which every caller asks in one go, at the look that
settled the matter.  So all that holds of the runs of a ledger holds with these callers too.
-/

namespace GuardedCache.Circuit

variable {ε α : Type}

/-! ## Looks -/

/-- How a caller asks for its call: softly, or strictly with work that may be guarded. -/
inductive Way where
  | softly
  | strictly (working : Bool)
deriving DecidableEq, Repr

namespace Way

/-- Asking in one go. -/
def action : Way → Action ε α
  | .softly => .allow
  | .strictly false => .acquire
  | .strictly true => .start

/-- What a caller is told.  The permit is for strict callers only. -/
def reply : Way → Option Permit → Reply
  | .softly, admitted => .allowed (.ok admitted.isSome)
  | .strictly _, admitted => .acquired (.ok admitted)

/-- A strict caller takes a probe. -/
def reserve : Way → Breaker → Breaker
  | .softly, b => b
  | .strictly _, b => b.takeProbe

end Way

/-- A look whose call is counted at once, with what the caller is told. -/
def Effect.counted {β : Type} (effect : Effect (Option Permit)) (told : Option Permit → β) :
    Effect (Except ClockFault β) where
  answer := .ok (told effect.answer)
  breaker := effect.breaker.countAdmission effect.answer.isSome
  events := effect.events

namespace Breaker

/-- The permit for a call that is let in without a transition. -/
def currentPermit (b : Breaker) : Permit := ⟨b.phase.epoch, b.state ≠ .closed⟩

/-- What the first look settles: nothing, or whether the call is let in. -/
def firstLook (b : Breaker) (way : Way) (now : Reading) : Option (Option Permit) :=
  match b.verdict now.instant, way with
  | .refuse, _ => some none
  | .pass, .softly => some (some b.currentPermit)
  | .pass, .strictly _ => if b.state = .closed then some (some b.currentPermit) else none
  | .probe, _ => none

/-- What the second look does.  The call is not counted yet. -/
def secondLook (b : Breaker) (way : Way) (now : Reading) : Effect (Option Permit) :=
  match b.verdict now.instant with
  | .refuse => ⟨none, b, []⟩
  | .pass => ⟨some b.currentPermit, if b.state = .closed then b else way.reserve b, []⟩
  | .probe =>
    ⟨some ⟨b.phase.epoch + 1, true⟩, way.reserve (b.enter .halfOpen now), b.notices .halfOpen⟩

/-- A first look that settles the matter does as a second one would, which leaves the breaker
alone then. -/
theorem secondLook_of_firstLook {b : Breaker} {way : Way} {now : Reading}
    {admitted : Option Permit} (settled : b.firstLook way now = some admitted) :
    b.secondLook way now = ⟨admitted, b, []⟩ := by
  simp only [firstLook] at settled
  cases verdict : b.verdict now.instant with
  | refuse =>
    rw [verdict] at settled
    cases settled
    simp only [secondLook, verdict]
  | pass =>
    rw [verdict] at settled
    cases way with
    | softly =>
      cases settled
      simp only [secondLook, verdict, Way.reserve, ite_self]
    | strictly working =>
      by_cases closed : b.state = .closed
      · simp only [if_pos closed] at settled
        cases settled
        simp only [secondLook, verdict, if_pos closed]
      · simp only [if_neg closed] at settled
        cases settled
  | probe =>
    rw [verdict] at settled
    cases settled

/-! Asking in one go is a second look with the count, and asking in two looks is whichever
of the two settles the matter. -/

theorem allow_eq_secondLook (b : Breaker) (now : Reading) :
    b.allow (.ok now) = (b.secondLook .softly now).counted Option.isSome := by
  rw [allow, secondLook]
  cases b.verdict now.instant with
  | refuse => rfl
  | pass =>
    simp only [Way.reserve, ite_self]
    rfl
  | probe => rfl

theorem acquire_eq_secondLook (b : Breaker) (working : Bool) (now : Reading) :
    b.acquire (.ok now) = (b.secondLook (.strictly working) now).counted id := by
  rw [acquire, secondLook]
  cases b.verdict now.instant with
  | refuse => rfl
  | pass => rcases b with ⟨_, _, _, ⟨_ | _ | _⟩, _⟩ <;> rfl
  | probe => rfl

theorem allowInTwoLooks_eq (seen b : Breaker) (now : Reading) :
    seen.allowInTwoLooks b now =
      match seen.firstLook .softly now with
      | some admitted => Effect.counted ⟨admitted, b, []⟩ Option.isSome
      | none => (b.secondLook .softly now).counted Option.isSome := by
  simp only [allowInTwoLooks, firstLook, ← allow_eq_secondLook]
  cases seen.verdict now.instant <;> rfl

theorem acquireInTwoLooks_eq (seen b : Breaker) (working : Bool) (now : Reading) :
    seen.acquireInTwoLooks b now =
      match seen.firstLook (.strictly working) now with
      | some admitted => Effect.counted ⟨admitted, b, []⟩ id
      | none => (b.secondLook (.strictly working) now).counted id := by
  simp only [acquireInTwoLooks, firstLook, ← acquire_eq_secondLook]
  cases seen.verdict now.instant with
  | refuse => rfl
  | pass => rcases seen with ⟨_, _, _, ⟨_ | _ | _⟩, _⟩ <;> rfl
  | probe => rfl

end Breaker

namespace Totals

/-- The totals of a breaker that has only let calls in and turned calls away. -/
def ofAdmissions (admissions : List Bool) : Totals where
  admitted := admissions.count true
  rejected := admissions.count false

theorem countAdmission_plus_ofAdmissions (t : Totals) (admitted : Bool)
    (admissions : List Bool) :
    (t.countAdmission admitted).plus (ofAdmissions admissions) =
      t.plus (ofAdmissions (admitted :: admissions)) := by
  cases admitted <;> simp [plus, countAdmission, ofAdmissions] <;> omega

theorem ofAdmissions_eq_of_perm {admissions others : List Bool}
    (perm : admissions.Perm others) : ofAdmissions admissions = ofAdmissions others := by
  simp only [ofAdmissions, perm.count_eq]

end Totals

namespace Ledger

/-- The ledger after a look that settles the matter.  A strict caller who is let in is handed
its permit. -/
def look (l : Ledger) (way : Way) (effect : Effect (Option Permit)) : Ledger :=
  match way, effect.answer with
  | .strictly working, some permit => (l.follow effect).hand permit working
  | _, _ => l.follow effect

def countAdmission (l : Ledger) (admitted : Bool) : Ledger :=
  { l with breaker := l.breaker.countAdmission admitted }

theorem acquire_eq_look (l : Ledger) (working : Bool) (now : Reading) :
    l.acquire working (.ok now) =
      (.ok (l.breaker.secondLook (.strictly working) now).answer,
        (l.look (.strictly working)
            (l.breaker.secondLook (.strictly working) now)).countAdmission
          (l.breaker.secondLook (.strictly working) now).answer.isSome) := by
  rw [acquire, l.breaker.acquire_eq_secondLook working now]
  generalize l.breaker.secondLook (.strictly working) now = effect
  rcases effect with ⟨_ | permit, breaker, events⟩ <;> rfl

/-- Whoever asks in one go looks, is let in or turned away, and is counted. -/
theorem perform_way (l : Ledger) (way : Way) (now : Reading) :
    l.perform (⟨way.action, .ok now⟩ : Step ε α) =
      (way.reply (l.breaker.secondLook way now).answer,
        (l.look way (l.breaker.secondLook way now)).countAdmission
          (l.breaker.secondLook way now).answer.isSome) := by
  match way with
  | .softly =>
    simp only [perform, Way.action, allow, l.breaker.allow_eq_secondLook now]
    rfl
  | .strictly false =>
    simp only [perform, Way.action, acquire_eq_look]
    rfl
  | .strictly true =>
    simp only [perform, Way.action, acquire_eq_look]
    rfl

theorem countAdmission_plus_ofAdmissions (l : Ledger) (admitted : Bool)
    (admissions : List Bool) :
    (l.countAdmission admitted).plus (.ofAdmissions admissions) =
      l.plus (.ofAdmissions (admitted :: admissions)) := by
  simp only [countAdmission, plus, Breaker.countAdmission, Breaker.plus,
    Totals.countAdmission_plus_ofAdmissions]

end Ledger

/-! ## Halls -/

/-- A caller whose first look settled nothing, with the time that it has read. -/
structure Caller where
  way : Way
  now : Reading
deriving DecidableEq, Repr

/-- A ledger with the callers who are to look again, and with the calls that were let in or
turned away and are still to be counted. -/
structure Hall where
  ledger : Ledger
  waiting : List Caller := []
  uncounted : List Bool := []

/-- What can happen next in a hall: a user does something in one go, somebody comes and takes
a first look, one of those who are waiting looks again, or one of the calls is counted. -/
inductive Moment (ε α : Type) where
  | step (s : Step ε α)
  | look (way : Way) (now : Reading)
  | again (number : Nat)
  | count (number : Nat)

namespace Hall

/-- A caller is told what a look has come to.  It may hear of it after its call was counted;
the breaker takes no notice of that. -/
def answer (h : Hall) (way : Way) (effect : Effect (Option Permit)) : Option Reply × Hall :=
  (some (way.reply effect.answer),
    { h with
      ledger := h.ledger.look way effect
      uncounted := effect.answer.isSome :: h.uncounted })

/-- What somebody is told in a moment, and the hall after it. -/
def perform (h : Hall) : Moment ε α → Option Reply × Hall
  | .step s => (some (h.ledger.perform s).1, { h with ledger := h.ledger.step s })
  | .look way now =>
    match h.ledger.breaker.firstLook way now with
    | some admitted => h.answer way ⟨admitted, h.ledger.breaker, []⟩
    | none => (none, { h with waiting := h.waiting ++ [⟨way, now⟩] })
  | .again number =>
    match h.waiting[number]? with
    | some caller =>
      { h with waiting := h.waiting.eraseIdx number }.answer caller.way
        (h.ledger.breaker.secondLook caller.way caller.now)
    | none => (none, h)
  | .count number =>
    match h.uncounted[number]? with
    | some admitted =>
      (none, { h with
        ledger := h.ledger.countAdmission admitted
        uncounted := h.uncounted.eraseIdx number })
    | none => (none, h)

/-- What takes effect in a moment, as a step in one go. -/
def deed? (h : Hall) : Moment ε α → Option (Step ε α)
  | .step s => some s
  | .look way now => (h.ledger.breaker.firstLook way now).map fun _ => ⟨way.action, .ok now⟩
  | .again number => h.waiting[number]?.map fun caller => ⟨caller.way.action, .ok caller.now⟩
  | .count _ => none

def run (h : Hall) : List (Moment ε α) → Hall
  | [] => h
  | m :: moments => (h.perform m).2.run moments

/-- What was said in a run, in order. -/
def replies (h : Hall) : List (Moment ε α) → List Reply
  | [] => []
  | m :: moments => (h.perform m).1.toList ++ (h.perform m).2.replies moments

/-- What took effect in a run, in order. -/
def deeds (h : Hall) : List (Moment ε α) → List (Step ε α)
  | [] => []
  | m :: moments => (h.deed? m).toList ++ (h.perform m).2.deeds moments

/-- The ledger as it will be when every call has been counted. -/
def settled (h : Hall) : Ledger := h.ledger.plus (.ofAdmissions h.uncounted)

/-- In a moment nothing takes effect, and nobody is told anything, or a step does, and
somebody is told what comes of it. -/
inductive Takes (h : Hall) (m : Moment ε α) : Prop where
  | nothing (deed : h.deed? m = none) (silent : (h.perform m).1 = none)
      (same : (h.perform m).2.settled = h.settled)
  | effect (s : Step ε α) (deed : h.deed? m = some s)
      (told : (h.perform m).1 = some (h.settled.perform s).1)
      (after : (h.perform m).2.settled = h.settled.step s)

theorem Takes.idle {h after : Hall} {m : Moment ε α} (deed : h.deed? m = none)
    (performed : h.perform m = (none, after)) (same : after.settled = h.settled) :
    h.Takes m :=
  .nothing deed (by rw [performed]) (by rw [performed, same])

/-- A look that settles the matter is as good as asking in one go.  Who is waiting does not
matter to that, so the caller may have left the others before. -/
theorem Takes.answered {h left : Hall} {m : Moment ε α} {way : Way} {now : Reading}
    (deed : h.deed? m = some ⟨way.action, .ok now⟩)
    (performed : h.perform m = left.answer way (left.ledger.breaker.secondLook way now))
    (same : left.settled = h.settled) : h.Takes m := by
  refine .effect _ deed ?_ ?_
  · rw [performed, ← same, settled, Ledger.perform_plus, Ledger.perform_way]
    rfl
  · rw [performed, ← same, settled, settled, Ledger.step_plus, Ledger.step, Ledger.perform_way,
      Ledger.countAdmission_plus_ofAdmissions]
    rfl

theorem takes (h : Hall) (m : Moment ε α) : h.Takes m := by
  cases m with
  | step s =>
    refine .effect s rfl ?_ (h.ledger.step_plus _ s).symm
    rw [settled, Ledger.perform_plus]
    rfl
  | look way now =>
    cases first : h.ledger.breaker.firstLook way now with
    | none =>
      have performed : h.perform (.look way now : Moment ε α) =
          (none, { h with waiting := h.waiting ++ [⟨way, now⟩] }) := by
        simp only [perform, first]
      exact .idle (by rw [deed?, first]; rfl) performed rfl
    | some admitted =>
      have performed : h.perform (.look way now : Moment ε α) =
          h.answer way (h.ledger.breaker.secondLook way now) := by
        simp only [perform, first, Breaker.secondLook_of_firstLook first]
      exact .answered (by rw [deed?, first]; rfl) performed rfl
  | again number =>
    cases found : h.waiting[number]? with
    | none => exact .idle (by rw [deed?, found]; rfl) (by simp only [perform, found]) rfl
    | some caller =>
      let left : Hall := { h with waiting := h.waiting.eraseIdx number }
      have performed : h.perform (.again number : Moment ε α) =
          left.answer caller.way (left.ledger.breaker.secondLook caller.way caller.now) := by
        simp only [perform, found, left]
      exact .answered (by rw [deed?, found]; rfl) performed rfl
  | count number =>
    cases found : h.uncounted[number]? with
    | none => exact .idle rfl (by simp only [perform, found]) rfl
    | some admitted =>
      obtain ⟨inside, rfl⟩ := List.getElem?_eq_some_iff.mp found
      have performed : h.perform (.count number : Moment ε α) =
          (none, { h with
            ledger := h.ledger.countAdmission h.uncounted[number]
            uncounted := h.uncounted.eraseIdx number }) := by
        simp only [perform, found]
      refine .idle rfl performed ?_
      rw [settled, settled, Ledger.countAdmission_plus_ofAdmissions,
        Totals.ofAdmissions_eq_of_perm (List.getElem_cons_eraseIdx_perm inside)]

/-! ## Runs -/

/-- A run of a hall is a run of its ledger in which every caller asks in one go: whoever
comes between two looks, the same things are said in the same order, and the same is left
when all calls have been counted. -/
theorem run_eq_run_deeds (h : Hall) (moments : List (Moment ε α)) :
    (h.run moments).settled = h.settled.run (h.deeds moments) ∧
      h.replies moments = (h.settled.history (h.deeds moments)).map Entry.reply := by
  induction moments generalizing h with
  | nil => exact ⟨rfl, rfl⟩
  | cons m moments ih =>
    obtain ⟨settled, replies⟩ := ih (h.perform m).2
    rw [run, Hall.replies, deeds, settled, replies]
    cases h.takes m with
    | nothing deed silent same =>
      rw [deed, silent, same]
      exact ⟨rfl, rfl⟩
    | effect s deed told after =>
      rw [deed, told, after]
      exact ⟨rfl, rfl⟩

section Built

variable (name : String) (config : Config) (observers : List Observer) (created : Reading)

/-- A breaker that nobody has asked yet. -/
def fresh : Hall where
  ledger := .fresh name config observers created

theorem settled_fresh_run (moments : List (Moment ε α)) :
    ((fresh name config observers created).run moments).settled =
      (Ledger.fresh name config observers created).run
        ((fresh name config observers created).deeds moments) :=
  ((fresh name config observers created).run_eq_run_deeds moments).1

/-- When every call has been counted, nothing tells that callers have looked twice. -/
theorem ledger_run_of_counted {moments : List (Moment ε α)}
    (counted : ((fresh name config observers created).run moments).uncounted = []) :
    ((fresh name config observers created).run moments).ledger =
      (Ledger.fresh name config observers created).run
        ((fresh name config observers created).deeds moments) := by
  rw [← settled_fresh_run, settled, counted]
  rfl

/-- The books of the windows are in order at every moment, also while callers are between
two looks. -/
theorem isBalanced_run (moments : List (Moment ε α)) :
    ((fresh name config observers created).run moments).ledger.IsBalanced False := by
  have balanced := Ledger.isBalanced_run name config observers created
    ((fresh name config observers created).deeds moments)
  rw [← settled_fresh_run] at balanced
  exact balanced

/-- Callers who look before others act cannot get more probes out of a half-open window than
there are. -/
theorem keepsCap_run (moments : List (Moment ε α)) :
    ((fresh name config observers created).run moments).ledger.KeepsCap
      config.sanitize.halfOpenMaxCalls.toNat := by
  have config_eq : ((fresh name config observers created).run moments).settled.breaker.config =
      config.sanitize := by
    rw [settled_fresh_run, Ledger.config_fresh_run]
  have keeps := (isBalanced_run name config observers created moments).keepsCap
  rw [← config_eq]
  exact keeps

end Built

/-- Two callers see that the time of an opened circuit is up.  Both look again. -/
def crowdedMoments : List (Moment Unit Unit) :=
  [.step ⟨.record .failure, .ok ⟨⟨0⟩, Clock.origin⟩⟩,
    .look (.strictly true) ⟨⟨10000001⟩, Clock.origin⟩,
    .look (.strictly true) ⟨⟨10000001⟩, Clock.origin⟩,
    .again 0, .again 0, .count 0, .count 0]

/-- Only one of them gets the probe. -/
example :
    ((fresh "crowd" ⟨1, 10, 1⟩ [] ⟨⟨0⟩, Clock.origin⟩).run crowdedMoments).ledger.slips.length =
      1 := by
  decide

end Hall

end GuardedCache.Circuit
