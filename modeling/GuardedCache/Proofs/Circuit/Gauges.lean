import GuardedCache.Proofs.Circuit.Identity

/-!
# What the gauges show

The gauge of a name is set when a breaker of that name changes its state, and at no other
time.  So it shows the state of the breaker that did so last, its announcer.  As long as
no breaker is removed that is the registered one.  A breaker that takes the place of a
removed one is not announced when it is made, and until it changes its state for the first
time the gauge still shows its predecessor.
-/

namespace GuardedCache.Circuit

/-- The value that an event gives to the gauge of a name. -/
def Event.gauge? (name : String) : Event → Option Nat
  | .gauged metric labels value =>
    if metric = stateMetric ∧ labels = [("breaker", name)] then some value else none
  | _ => none

/-- What the gauge of a name shows after some events: nothing if it was never set. -/
def gauge? (name : String) (events : List Event) : Option Nat :=
  (events.filterMap (Event.gauge? name)).getLast?

theorem gauge?_append (name : String) (before after : List Event) :
    gauge? name (before ++ after) = (gauge? name after).or (gauge? name before) := by
  rw [gauge?, List.filterMap_append, List.getLast?_append]
  rfl

theorem gauge?_notify (name : String) (observer : Observer) (t : Transition) :
    gauge? name (observer.notify t) =
      if observer = .metrics ∧ t.breaker = name then some t.target.gauge else none := by
  cases observer with
  | logging =>
    rw [if_neg (by nofun)]
    cases target : t.target <;> simp [gauge?, Observer.notify, Transition.logLine, target,
      Event.gauge?]
  | recorder id =>
    rw [if_neg (by nofun)]
    rfl
  | metrics =>
    by_cases same : t.breaker = name <;>
      simp [gauge?, Observer.notify, Event.gauge?, same]

/-- It does not matter how many of the observers set the gauge. -/
theorem gauge?_flatMap_notify (name : String) (observers : List Observer) (t : Transition) :
    gauge? name (observers.flatMap (·.notify t)) =
      if .metrics ∈ observers ∧ t.breaker = name then some t.target.gauge else none := by
  induction observers with
  | nil =>
    rw [if_neg (by simp)]
    rfl
  | cons observer rest ih =>
    rw [List.flatMap_cons, gauge?_append, ih, gauge?_notify]
    by_cases named : t.breaker = name <;> by_cases here : observer = .metrics <;>
      by_cases there : .metrics ∈ rest <;>
      simp [named, here, there, eq_comm (a := Observer.metrics)]

/-- An operation sets the gauge if it changes the state, and to the new state. -/
theorem Breaker.Passage.gauge?_events {β : Type} {b : Breaker} {byReset : Bool}
    {glance : Glance} {effect : Effect β} (passage : b.Passage byReset glance effect)
    (name : String) :
    gauge? name effect.events =
      if b.name = name ∧ .metrics ∈ b.observers ∧ effect.breaker.state ≠ b.state then
        some effect.breaker.state.gauge
      else none := by
  rcases passage.turn with ⟨stays, silent⟩ | ⟨target, now, _, edge, enters, told⟩
  · rw [silent, if_neg fun changed => changed.2.2 stays.state_eq]
    rfl
  · rw [told, Breaker.notices, gauge?_flatMap_notify, enters.state_eq]
    have changed : target ≠ b.state := edge.ne.symm
    by_cases named : b.name = name <;> by_cases here : .metrics ∈ b.observers <;>
      simp [named, here, changed]

namespace Fleet

/-- The breaker that sets the gauge of a name with a use. -/
def Moment.announces? (name : String) (m : Moment) : Option Handle :=
  (m.before.target? m.use).filter fun handle =>
    (m.before.breaker handle).name = name ∧ .metrics ∈ (m.before.breaker handle).observers ∧
      ((m.before.afterUse m.use).breaker handle).state ≠ (m.before.breaker handle).state

/-- The breaker that set the gauge of a name last. -/
def announcer? (f : Fleet) (name : String) (uses : List Use) : Option Handle :=
  ((f.history uses).filterMap (·.announces? name)).getLast?

variable {f : Fleet} {u : Use} {handle : Handle} {name : String}

theorem announcer?_cons (f : Fleet) (name : String) (u : Use) (uses : List Use) :
    f.announcer? name (u :: uses) =
      ((f.afterUse u).announcer? name uses).or (Moment.announces? name ⟨f, u⟩) := by
  rw [announcer?, history, List.filterMap_cons]
  cases Moment.announces? name ⟨f, u⟩ with
  | none =>
    rw [Option.or_none]
    rfl
  | some handle =>
    rw [List.getLast?_cons, Option.or_some]
    rfl

theorem announces?_eq_some_iff :
    Moment.announces? name ⟨f, u⟩ = some handle ↔
      f.target? u = some handle ∧ (f.breaker handle).name = name ∧
        .metrics ∈ (f.breaker handle).observers ∧
        ((f.afterUse u).breaker handle).state ≠ (f.breaker handle).state := by
  rw [Moment.announces?, Option.filter_eq_some_iff, decide_eq_true_eq]

/-- Nobody watches a breaker that was not made yet. -/
theorem inside_of_watched {observer : Observer}
    (watched : observer ∈ (f.breaker handle).observers) : handle < f.breakers.length := by
  refine Nat.lt_of_not_le fun outside => ?_
  rw [breaker, List.getD_eq_getElem?_getD, List.getElem?_eq_none outside] at watched
  exact List.not_mem_nil watched

theorem gauge?_apply {β : Type} {operation : Breaker → Effect β} {byReset : Bool}
    {glance : Glance}
    (passage : (f.breaker handle).Passage byReset glance (operation (f.breaker handle)))
    (name : String) :
    gauge? name (operation (f.breaker handle)).events =
      if (f.breaker handle).name = name ∧ .metrics ∈ (f.breaker handle).observers ∧
          ((f.apply handle operation).2.breaker handle).state ≠ (f.breaker handle).state then
        some ((f.apply handle operation).2.breaker handle).state.gauge
      else none := by
  by_cases inside : handle < f.breakers.length
  · rw [breaker_apply operation inside]
    exact passage.gauge?_events name
  · have unwatched : .metrics ∉ (f.breaker handle).observers := mt inside_of_watched inside
    rw [passage.gauge?_events, if_neg fun changed => unwatched changed.2.1,
      if_neg fun changed => unwatched changed.2.1]

theorem state_addObserver (f : Fleet) (handle : Handle) (observer : Observer) :
    ((f.addObserver handle observer).2.breaker handle).state = (f.breaker handle).state := by
  rw [addObserver]
  by_cases inside : handle < f.breakers.length
  · rw [breaker_apply _ inside]
    rfl
  · rw [breaker_apply_of_le _ (Nat.le_of_not_lt inside)]

/-- A use sets the gauge if it makes a breaker announce its new state, and to this state. -/
theorem gauge?_eventsOf (f : Fleet) (u : Use) (name : String) :
    gauge? name (f.eventsOf u) =
      (Moment.announces? name ⟨f, u⟩).map fun handle =>
        ((f.afterUse u).breaker handle).state.gauge := by
  cases target : f.target? u with
  | none =>
    rw [eventsOf_of_aimless target, Moment.announces?, target]
    rfl
  | some handle =>
    have set : gauge? name (f.eventsOf u) =
        if (f.breaker handle).name = name ∧ .metrics ∈ (f.breaker handle).observers ∧
            ((f.afterUse u).breaker handle).state ≠ (f.breaker handle).state then
          some ((f.afterUse u).breaker handle).state.gauge
        else none := by
      rw [eventsOf]
      rcases deed_of_target target with ⟨_, operation, _, after, _, passage⟩ | ⟨observer, rfl⟩
      · rw [after, journal_apply, List.drop_left]
        exact gauge?_apply passage name
      · rw [if_neg fun changed => changed.2.2 (f.state_addObserver handle observer), afterUse,
          addObserver, journal_apply, List.drop_left]
        rfl
    rw [set, Moment.announces?, target, Option.filter_some]
    simp only [decide_eq_true_eq]
    split <;> rfl

/-! ## Runs -/

/-- The gauge of a name shows the state of the announcer, if there is one. -/
structure Tells (f : Fleet) (name : String) (announcer : Option Handle) : Prop where
  gauge_eq : gauge? name f.journal = announcer.map fun handle => (f.breaker handle).state.gauge
  named : ∀ handle, announcer = some handle → (f.breaker handle).name = name
  watched : ∀ handle, announcer = some handle → .metrics ∈ (f.breaker handle).observers

theorem settled_of_watched {observer : Observer}
    (watched : observer ∈ (f.breaker handle).observers) (u : Use) :
    ((f.afterUse u).breaker handle).name = (f.breaker handle).name ∧
      observer ∈ ((f.afterUse u).breaker handle).observers := by
  have settled := settled_afterUse u (inside_of_watched watched)
  refine ⟨settled.name_eq, ?_⟩
  rw [settled.observers_eq]
  exact List.mem_append_left _ watched

/-- Without an announcement the announcer keeps its state. -/
theorem state_of_not_announced (silent : Moment.announces? name ⟨f, u⟩ = none)
    (named : (f.breaker handle).name = name)
    (watched : .metrics ∈ (f.breaker handle).observers) :
    ((f.afterUse u).breaker handle).state = (f.breaker handle).state := by
  by_cases target : f.target? u = some handle
  · refine Decidable.byContradiction fun changed => ?_
    have announced := announces?_eq_some_iff.mpr ⟨target, named, watched, changed⟩
    cases silent.symm.trans announced
  · rw [breaker_afterUse_of_ne (inside_of_watched watched) target]

theorem Tells.afterUse {announcer : Option Handle} (tells : f.Tells name announcer) (u : Use) :
    (f.afterUse u).Tells name ((Moment.announces? name ⟨f, u⟩).or announcer) := by
  have set := f.gauge?_eventsOf u name
  cases announced : Moment.announces? name ⟨f, u⟩ with
  | some handle =>
    obtain ⟨_, named, watched, _⟩ := announces?_eq_some_iff.mp announced
    have kept := settled_of_watched watched u
    rw [announced] at set
    rw [Option.some_or]
    constructor
    · rw [journal_afterUse, gauge?_append, set]
      rfl
    · rintro _ ⟨⟩
      exact kept.1.trans named
    · rintro _ ⟨⟩
      exact kept.2
  | none =>
    rw [announced] at set
    rw [Option.none_or]
    constructor
    · rw [journal_afterUse, gauge?_append, set, Option.map_none, Option.none_or, tells.gauge_eq]
      cases known : announcer with
      | none => rfl
      | some handle =>
        rw [Option.map_some, Option.map_some, state_of_not_announced announced
          (tells.named handle known) (tells.watched handle known)]
    · intro handle known
      exact (settled_of_watched (tells.watched handle known) u).1.trans (tells.named handle known)
    · intro handle known
      exact (settled_of_watched (tells.watched handle known) u).2

theorem Tells.afterUses {announcer : Option Handle} (tells : f.Tells name announcer)
    (uses : List Use) :
    (f.afterUses uses).Tells name ((f.announcer? name uses).or announcer) := by
  induction uses generalizing f announcer with
  | nil => exact tells
  | cons u rest ih =>
    rw [announcer?_cons, Option.or_assoc]
    exact ih (tells.afterUse u)

/-- A breaker that was made under a name is registered under it if the name was only looked
up and never removed. -/
theorem find?_of_named {uses : List Use} (unregistered : f.breakers.length ≤ handle)
    (looked : ∀ config observers, .build name config observers ∉ uses)
    (kept : .remove name ∉ uses) (inside : handle < (f.afterUses uses).breakers.length)
    (named : ((f.afterUses uses).breaker handle).name = name) :
    (f.afterUses uses).find? name = some handle := by
  cases isBorn unregistered inside with
  | looked before other options after split missing answer known =>
    cases known.symm.trans named
    subst split
    have seeks : Use.Seeks name (.lookup name options) := rfl
    have given : handle ∈ ((f.afterUses before).told (.lookup name options)).handles := by
      rw [answer]
      exact List.mem_singleton_self handle
    have later : .remove name ∉ after := fun member =>
      kept (List.mem_append_right before (List.mem_cons_of_mem _ member))
    rw [afterUses_append, afterUses_cons]
    exact find?_afterUses (find?_of_mem_handles seeks given) later
  | built before other asked founders after split answer known =>
    cases known.symm.trans named
    subst split
    exact absurd (List.mem_append_right before List.mem_cons_self) (looked asked founders)

/-- After a removal the next lookup makes a new breaker. -/
theorem afterUses_renew (name : String) (options : Options) {now : Reading}
    (read : f.clock.read = .ok now) :
    f.afterUses [.remove name, .lookup name options] =
      (f.remove name).2.adopt name ((f.remove name).2.blueprint name options now) := by
  have missing : (f.remove name).2.find? name = none := by
    rw [find?, remove, Table.get?_erase, if_pos rfl]
  exact afterUse_lookup (f := (f.remove name).2) options read missing

/-- What the gauge of a name shows after a run. -/
structure GaugeShows (f : Fleet) (uses : List Use) (name : String) : Prop where
  announcer : gauge? name (f.afterUses uses).journal =
    (f.announcer? name uses).map fun handle => ((f.afterUses uses).breaker handle).state.gauge
  /-- It is right about the registered breaker if the announcer is in the same state. -/
  right_iff : ∀ handle value, (f.afterUses uses).find? name = some handle →
    gauge? name (f.afterUses uses).journal = some value →
      (value = ((f.afterUses uses).breaker handle).state.gauge ↔
        ∃ last, f.announcer? name uses = some last ∧
          ((f.afterUses uses).breaker last).state = ((f.afterUses uses).breaker handle).state)
  /-- It is always right if a name stands for one breaker only. -/
  right_of_kept : .remove name ∉ uses → (∀ config observers, .build name config observers ∉ uses) →
    ∀ handle value, (f.afterUses uses).find? name = some handle →
      gauge? name (f.afterUses uses).journal = some value →
        value = ((f.afterUses uses).breaker handle).state.gauge
  /-- A new breaker is closed, and the gauge shows what it showed before. -/
  renewed : ∀ options now, (f.afterUses uses).clock.read = .ok now →
    ∃ handle, (f.afterUses (uses ++ [.remove name, .lookup name options])).find? name =
        some handle ∧
      ((f.afterUses (uses ++ [.remove name, .lookup name options])).breaker handle).state =
        .closed ∧
      gauge? name (f.afterUses (uses ++ [.remove name, .lookup name options])).journal =
        gauge? name (f.afterUses uses).journal

/-- The gauge of a name shows the state of the breaker of that name which was the last to
change its state. -/
theorem gauge_shows (clock : Clock) (defaults : Config) (observers : List Observer)
    (uses : List Use) (name : String) :
    (unused clock defaults observers).GaugeShows uses name := by
  have start : (unused clock defaults observers).Tells name none :=
    ⟨rfl, nofun, nofun⟩
  have tells := start.afterUses uses
  rw [Option.or_none] at tells
  refine {
    announcer := tells.gauge_eq
    right_iff := ?_
    right_of_kept := ?_
    renewed := ?_ }
  · intro handle value _ shown
    rw [tells.gauge_eq, Option.map_eq_some_iff] at shown
    obtain ⟨last, announcer, rfl⟩ := shown
    constructor
    · intro right
      exact ⟨last, announcer, State.gauge_injective right⟩
    · rintro ⟨other, also, same⟩
      cases announcer.symm.trans also
      exact congrArg State.gauge same
  · intro kept looked handle value found shown
    rw [tells.gauge_eq, Option.map_eq_some_iff] at shown
    obtain ⟨last, announcer, rfl⟩ := shown
    have registered := find?_of_named (Nat.zero_le last) looked kept
      (inside_of_watched (tells.watched last announcer)) (tells.named last announcer)
    cases registered.symm.trans found
    rfl
  · intro options now read
    rw [afterUses_append, afterUses_renew name options read]
    exact ⟨_, (find?_adopt _ name name _).trans (if_pos rfl),
      congrArg Breaker.state (breaker_adopt_length _ name _), rfl⟩

/-- A breaker opened and was removed.  Its successor is closed, but the gauge still says that
the circuit is open. -/
theorem gauge_stale_after_removal :
    ¬ ∀ (uses : List Use) (name : String) (handle : Handle) (value : Nat),
      ((unused {} {} [.logging, .metrics]).afterUses uses).find? name = some handle →
        gauge? name ((unused {} {} [.logging, .metrics]).afterUses uses).journal = some value →
          value =
            (((unused {} {} [.logging, .metrics]).afterUses uses).breaker handle).state.gauge := by
  intro truthful
  have same := truthful [.lookup "b" { config := some ⟨1, 10000, 1⟩ }, .record 0 .failure,
    .remove "b", .lookup "b" {}] "b" 1 State.opened.gauge (by decide) (by decide)
  exact absurd same (by decide)

end Fleet

end GuardedCache.Circuit
