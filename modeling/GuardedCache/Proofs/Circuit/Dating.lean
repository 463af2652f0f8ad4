import GuardedCache.Proofs.Circuit.Failing
import GuardedCache.Proofs.Circuit.Gauges
import GuardedCache.Proofs.Circuit.Independence

/-!
# The date of the last change

A breaker bears the date at which it entered the state that it is in.  Seen from outside, that
is what the clock showed when its state changed for the last time, or when it was made if its
state never changed.  Nothing else that is done to it or to others gives it a new date.
-/

namespace GuardedCache.Circuit

namespace Fleet

/-- A breaker enters another state. -/
def Moment.changes (handle : Handle) (m : Moment) : Bool :=
  ((m.before.afterUse m.use).breaker handle).state ≠ (m.before.breaker handle).state

/-- A breaker is made. -/
def Moment.makes (handle : Handle) (m : Moment) : Bool :=
  m.before.creates handle m.use

/-- When a breaker entered another state for the last time in a run. -/
def lastChange? (f : Fleet) (handle : Handle) (uses : List Use) : Option Moment :=
  ((f.history uses).filter (·.changes handle)).getLast?

/-- When a breaker was made in a run. -/
def making? (f : Fleet) (handle : Handle) (uses : List Use) : Option Moment :=
  ((f.history uses).filter (·.makes handle)).getLast?

/-- When a breaker entered the state in which a run leaves it: with its last change, or else when
it was made. -/
def entering? (f : Fleet) (handle : Handle) (uses : List Use) : Option Moment :=
  (f.lastChange? handle uses).or (f.making? handle uses)

variable {f : Fleet} {u : Use} {handle : Handle}

theorem changes_eq_true_iff :
    Moment.changes handle ⟨f, u⟩ = true ↔
      ((f.afterUse u).breaker handle).state ≠ (f.breaker handle).state :=
  decide_eq_true_iff

theorem makes_eq_true_iff :
    Moment.makes handle ⟨f, u⟩ = true ↔
      f.breakers.length = handle ∧ (f.afterUse u).breakers.length = handle + 1 := by
  rw [Moment.makes, creates, Bool.and_eq_true, decide_eq_true_eq, decide_eq_true_eq]

/-- The last moment of a kind, in a run that begins with a given use. -/
theorem getLast?_filter_history_cons (kind : Moment → Bool) (f : Fleet) (u : Use)
    (uses : List Use) :
    ((f.history (u :: uses)).filter kind).getLast? =
      (((f.afterUse u).history uses).filter kind).getLast?.or
        ((some ⟨f, u⟩ : Option Moment).filter kind) := by
  rw [history, List.filter_cons, Option.filter_some]
  split
  · rw [List.getLast?_cons, Option.or_some]
  · rw [Option.or_none]

/-- A breaker that is not made yet is closed. -/
theorem state_of_le (outside : f.breakers.length ≤ handle) :
    (f.breaker handle).state = .closed := by
  rw [breaker, List.getD_eq_getElem?_getD, List.getElem?_eq_none outside]
  rfl

/-- A breaker bears the date of one of two moments: of its last change, or else of its making. -/
structure IsDated (f : Fleet) (handle : Handle) (changed made : Option Moment) : Prop where
  /-- Without a breaker there was neither. -/
  unmade : f.breakers.length ≤ handle → changed = none ∧ made = none
  dated : handle < f.breakers.length → ∃ m, changed.or made = some m ∧
    (f.breaker handle).phase.sinceWall = m.before.clock.wall

/-- A breaker that is made is closed, and it bears the date of its making. -/
theorem Makes.isFresh {built : Breaker} (makes : f.Makes u built) :
    built.state = .closed ∧ built.phase.sinceWall = f.clock.wall := by
  cases makes with
  | built name config observers now read =>
    exact ⟨rfl, congrArg Reading.wall (Clock.eq_shown_of_read read)⟩
  | looked name options now read missing =>
    exact ⟨rfl, congrArg Reading.wall (Clock.eq_shown_of_read read)⟩

/-- A breaker keeps its date, unless it enters another state. -/
theorem sinceWall_afterUse (inside : handle < f.breakers.length) :
    ((f.afterUse u).breaker handle).phase.sinceWall =
      if Moment.changes handle ⟨f, u⟩ then f.clock.wall
      else (f.breaker handle).phase.sinceWall := by
  by_cases aimed : f.target? u = some handle
  · rcases deed_of_target aimed with ⟨_, operation, _, after, _, passage⟩ | ⟨observer, rfl⟩
    · have changed : Moment.changes handle ⟨f, u⟩ = true ↔
          (operation (f.breaker handle)).breaker.state ≠ (f.breaker handle).state := by
        rw [changes_eq_true_iff, after, breaker_apply operation inside]
      rw [after, breaker_apply operation inside]
      rcases passage.turn with ⟨stays, _⟩ | ⟨target, now, read, edge, enters, _⟩
      · rw [if_neg fun turned => changed.mp turned stays.state_eq]
        exact stays.sinceWall_eq
      · rw [if_pos (changed.mpr fun same => edge.ne (same.symm.trans enters.state_eq)),
          show f.clock.wall = now.wall from
            (congrArg Reading.wall (Clock.eq_shown_of_read read)).symm]
        exact congrArg Phase.sinceWall enters.phase_eq
    · have calm : Moment.changes handle ⟨f, .addObserver handle observer⟩ ≠ true := fun turned =>
        changes_eq_true_iff.mp turned (f.state_addObserver handle observer)
      rw [if_neg calm, afterUse, addObserver, breaker_apply _ inside]
      rfl
  · have same := breaker_afterUse_of_ne inside aimed
    rw [if_neg fun turned => changes_eq_true_iff.mp turned (congrArg Breaker.state same), same]

namespace IsDated

theorem afterUse {changed made : Option Moment} (dated : f.IsDated handle changed made)
    (u : Use) :
    (f.afterUse u).IsDated handle
      (((some ⟨f, u⟩ : Option Moment).filter (·.changes handle)).or changed)
      (((some ⟨f, u⟩ : Option Moment).filter (·.makes handle)).or made) := by
  rw [Option.filter_some, Option.filter_some]
  rcases Nat.lt_or_ge handle f.breakers.length with inside | outside
  · -- a breaker that is there already is not made once more
    have still := Nat.lt_of_lt_of_le inside (f.length_le_afterUse u)
    have known : Moment.makes handle ⟨f, u⟩ ≠ true := fun makes =>
      absurd (makes_eq_true_iff.mp makes).1 (Nat.ne_of_gt inside)
    refine ⟨fun late => absurd still (Nat.not_lt.mpr late), fun _ => ?_⟩
    rw [sinceWall_afterUse inside, if_neg known, Option.none_or]
    by_cases turned : Moment.changes handle ⟨f, u⟩ = true
    · rw [if_pos turned, if_pos turned]
      exact ⟨⟨f, u⟩, rfl, rfl⟩
    · rw [if_neg turned, if_neg turned]
      exact dated.dated inside
  · obtain ⟨rfl, rfl⟩ := dated.unmade outside
    have before := state_of_le outside
    rcases Nat.lt_or_ge handle (f.afterUse u).breakers.length with made | later
    · -- it is made by this use
      rcases f.length_afterUse u with same | ⟨more, built, makes, last⟩
      · omega
      have here : f.breakers.length = handle := by omega
      subst here
      have fresh := makes.isFresh
      have calm : Moment.changes f.breakers.length ⟨f, u⟩ ≠ true := fun turned =>
        changes_eq_true_iff.mp turned (by rw [last, fresh.1, before])
      refine ⟨fun late => absurd made (Nat.not_lt.mpr late), fun _ => ⟨⟨f, u⟩, ?_, ?_⟩⟩
      · rw [if_neg calm, if_pos (makes_eq_true_iff.mpr ⟨rfl, more⟩)]
        rfl
      · rw [last]
        exact fresh.2
    · have calm : Moment.changes handle ⟨f, u⟩ ≠ true := fun turned =>
        changes_eq_true_iff.mp turned (by rw [state_of_le later, before])
      have unmade : Moment.makes handle ⟨f, u⟩ ≠ true := fun makes =>
        absurd (makes_eq_true_iff.mp makes).2 (by omega)
      rw [if_neg calm, if_neg unmade]
      exact ⟨fun _ => ⟨rfl, rfl⟩, fun inside => absurd inside (Nat.not_lt.mpr later)⟩

theorem afterUses {changed made : Option Moment} (dated : f.IsDated handle changed made)
    (uses : List Use) :
    (f.afterUses uses).IsDated handle ((f.lastChange? handle uses).or changed)
      ((f.making? handle uses).or made) := by
  induction uses generalizing f changed made with
  | nil => exact dated
  | cons u rest ih =>
    rw [lastChange?, making?, getLast?_filter_history_cons, getLast?_filter_history_cons,
      Option.or_assoc, Option.or_assoc]
    exact ih (dated.afterUse u)

end IsDated

/-- In a run that begins without breakers, each bears the date that the clock showed when it
entered its state. -/
theorem exists_entry {clock : Clock} {defaults : Config} {observers : List Observer}
    {uses : List Use}
    (inside : handle < ((unused clock defaults observers).afterUses uses).breakers.length) :
    ∃ m, (unused clock defaults observers).entering? handle uses = some m ∧
      (((unused clock defaults observers).afterUses uses).breaker handle).phase.sinceWall =
        m.before.clock.wall := by
  have start : (unused clock defaults observers).IsDated handle none none :=
    ⟨fun _ => ⟨rfl, rfl⟩, nofun⟩
  have dated := (start.afterUses uses).dated inside
  rwa [Option.or_none, Option.or_none] at dated

end Fleet

end GuardedCache.Circuit
