import GuardedCache.Proofs.Circuit.Identity

/-!
# A breaker alone

Breakers share a clock, a registry and its observers, and a name may pass from one to
another.  Still each of them behaves as if it were the only one: `alone` keeps of a run
what turns the clock, the making of one breaker and what is addressed to it, and a run
of that gives the same answers, the same breaker and the same events.
-/

namespace GuardedCache.Circuit

namespace Fleet

/-- The use that is addressed to the first breaker in place of another. -/
def Use.toFirst : Use → Use
  | .allow _ => .allow 0
  | .acquire _ => .acquire 0
  | .record _ outcome => .record 0 outcome
  | .settle _ permit outcome => .settle 0 permit outcome
  | .reset _ => .reset 0
  | .addObserver _ observer => .addObserver 0 observer
  | u => u

/-- Whether the breaker with a handle is made by a use. -/
def creates (f : Fleet) (handle : Handle) (u : Use) : Bool :=
  f.breakers.length = handle && (f.afterUse u).breakers.length = handle + 1

/-- What is left of a use when only one breaker matters, which is then the first. -/
def alone? (f : Fleet) (handle : Handle) (u : Use) : Option Use :=
  if u.turnsClock || f.creates handle u then some u
  else if f.target? u = some handle then some u.toFirst
  else none

/-- What is left of a run when only one breaker matters. -/
def alone (f : Fleet) (handle : Handle) : List Use → List Use
  | [] => []
  | u :: uses => (f.alone? handle u).toList ++ (f.afterUse u).alone handle uses

/-- A use is addressed to the breaker with a handle. -/
def Moment.concerns (handle : Handle) (m : Moment) : Bool :=
  m.before.target? m.use = some handle

/-- What a breaker answers in a run, and what its observers do each time. -/
def heard (f : Fleet) (handle : Handle) (uses : List Use) : List (Told × List Event) :=
  ((f.history uses).filter (·.concerns handle)).map fun m =>
    (m.before.told m.use, m.before.eventsOf m.use)

variable {f g : Fleet} {handle : Handle} {u : Use}

/-- A use that is addressed to a breaker is an operation of this breaker. -/
structure Operates {β : Type} (f : Fleet) (handle : Handle) (operation : Breaker → Effect β)
    (tell : β → Told) (u : Use) : Prop where
  after : f.afterUse u = (f.apply handle operation).2
  told : f.told u = tell (operation (f.breaker handle)).answer

/-- The operation does not depend on the fleet or on the place of the breaker in it. -/
theorem exists_operates (u : Use) :
    ∃ (β : Type) (operation : Glance → Breaker → Effect β) (tell : β → Told),
      ∀ v, v = u ∨ v = u.toFirst → ∀ (f : Fleet) (handle : Handle),
        f.target? v = some handle → f.Operates handle (operation f.clock.read) tell v := by
  cases u with
  | allow first =>
    refine ⟨_, fun glance b => b.allow glance, .allowed, ?_⟩
    rintro v (rfl | rfl) f handle ⟨⟩ <;> exact ⟨rfl, rfl⟩
  | acquire first =>
    refine ⟨_, fun glance b => b.acquire glance, .acquired, ?_⟩
    rintro v (rfl | rfl) f handle ⟨⟩ <;> exact ⟨rfl, rfl⟩
  | record first outcome =>
    refine ⟨_, fun glance b => b.record outcome glance, .done, ?_⟩
    rintro v (rfl | rfl) f handle ⟨⟩ <;> exact ⟨rfl, rfl⟩
  | settle first permit outcome =>
    refine ⟨_, fun glance b => b.settle permit outcome glance, .done, ?_⟩
    rintro v (rfl | rfl) f handle ⟨⟩ <;> exact ⟨rfl, rfl⟩
  | reset first =>
    refine ⟨_, fun glance b => b.reset glance, .done, ?_⟩
    rintro v (rfl | rfl) f handle ⟨⟩ <;> exact ⟨rfl, rfl⟩
  | resetNamed name =>
    refine ⟨_, fun glance b => b.reset glance,
      fun answer => .resetNamed (answer.map fun _ => true), ?_⟩
    intro v same f handle target
    have found : f.find? name = some handle := by
      rcases same with rfl | rfl <;> exact target
    have reset : f.resetNamed name =
        ((f.reset handle).1.map fun _ => true, (f.reset handle).2) := by
      rw [resetNamed, found]
    have told : Told.resetNamed (f.resetNamed name).1 =
        .resetNamed ((f.reset handle).1.map fun _ => true) := by rw [reset]
    rcases same with rfl | rfl <;> exact ⟨congrArg Prod.snd reset, told⟩
  | addObserver first observer =>
    refine ⟨_, fun _ b => ⟨(b.addObserver observer).observers.length, b.addObserver observer, []⟩,
      .counted, ?_⟩
    rintro v (rfl | rfl) f handle ⟨⟩ <;> exact ⟨rfl, rfl⟩
  | _ =>
    refine ⟨Unit, fun _ b => ⟨(), b, []⟩, fun _ => .moved (.ok ()), ?_⟩
    rintro v (rfl | rfl) f handle ⟨⟩

theorem Operates.eventsOf {β : Type} {operation : Breaker → Effect β} {tell : β → Told}
    (h : f.Operates handle operation tell u) :
    f.eventsOf u = (operation (f.breaker handle)).events := by
  rw [Fleet.eventsOf, h.after, journal_apply, List.drop_left]

/-! ## Two fleets with one breaker in common -/

/-- The second fleet has the breaker with a handle in the first one, once it is made, and
no other. -/
structure Twin (f g : Fleet) (handle : Handle) : Prop where
  sound : f.IsSound
  clock_eq : g.clock = f.clock
  defaults_eq : g.registry.defaults = f.registry.defaults
  observers_eq : g.registry.observers = f.registry.observers
  breaker_eq : g.breaker 0 = f.breaker handle
  length_eq : g.breakers.length = if handle < f.breakers.length then 1 else 0
  unnamed : f.breakers.length ≤ handle → ∀ name, g.find? name = none
  named : ∀ name, f.find? name = some handle → g.find? name = some 0

namespace Twin

theorem inside_iff (twin : f.Twin g handle) :
    0 < g.breakers.length ↔ handle < f.breakers.length := by
  rw [twin.length_eq]
  by_cases inside : handle < f.breakers.length <;> simp [inside]

/-- An operation of the common breaker. -/
theorem apply {β : Type} (twin : f.Twin g handle) (operation : Breaker → Effect β)
    (sound : (f.apply handle operation).2.IsSound) :
    (f.apply handle operation).2.Twin (g.apply 0 operation).2 handle where
  sound := sound
  clock_eq := twin.clock_eq
  defaults_eq := twin.defaults_eq
  observers_eq := twin.observers_eq
  breaker_eq := by
    by_cases inside : handle < f.breakers.length
    · rw [breaker_apply operation inside, breaker_apply operation (twin.inside_iff.mpr inside),
        twin.breaker_eq]
    · -- a breaker that was not made yet stays as it is
      have outside : ¬ 0 < g.breakers.length := mt twin.inside_iff.mp inside
      rw [breaker_apply_of_le operation (Nat.le_of_not_lt inside),
        breaker_apply_of_le operation (Nat.le_of_not_lt outside)]
      exact twin.breaker_eq
  length_eq := by
    rw [length_apply, length_apply]
    exact twin.length_eq
  unnamed outside := twin.unnamed (by rwa [length_apply] at outside)
  named := twin.named

/-- A use of the first fleet that does not touch the common breaker. -/
theorem of_still (twin : f.Twin g handle) {after : Fleet} (sound : after.IsSound)
    (clock : after.clock = f.clock)
    (registry : after.registry.defaults = f.registry.defaults ∧
      after.registry.observers = f.registry.observers)
    (breaker : after.breaker handle = f.breaker handle)
    (length : handle < after.breakers.length ↔ handle < f.breakers.length)
    (named : ∀ name, after.find? name = some handle → f.find? name = some handle) :
    after.Twin g handle where
  sound := sound
  clock_eq := twin.clock_eq.trans clock.symm
  defaults_eq := twin.defaults_eq.trans registry.1.symm
  observers_eq := twin.observers_eq.trans registry.2.symm
  breaker_eq := twin.breaker_eq.trans breaker.symm
  length_eq := by
    rw [twin.length_eq]
    simp only [length]
  unnamed outside := twin.unnamed (Nat.le_of_not_lt (mt length.mpr (Nat.not_lt.mpr outside)))
  named name found := twin.named name (named name found)

theorem turn (twin : f.Twin g handle) (clock : Clock) :
    { f with clock }.Twin { g with clock } handle where
  sound := twin.sound.turn clock
  clock_eq := rfl
  defaults_eq := twin.defaults_eq
  observers_eq := twin.observers_eq
  breaker_eq := twin.breaker_eq
  length_eq := twin.length_eq
  unnamed := twin.unnamed
  named := twin.named

/-! ## One use -/

theorem turnsClock (twin : f.Twin g handle) (turns : u.turnsClock = true) :
    (f.afterUse u).Twin (g.afterUse u) handle := by
  cases u with
  | advance span =>
    rw [afterUse, afterUse, advance, advance, twin.clock_eq]
    cases f.clock.advance span with
    | ok clock => exact twin.turn clock
    | error fault => exact twin
  | rewind span =>
    rw [afterUse, afterUse, rewind, rewind, twin.clock_eq]
    exact twin.turn _
  | _ => cases turns

/-- The breaker is made in both fleets, from the same registry and at the same time. -/
theorem creates (twin : f.Twin g handle) (creates : f.creates handle u = true) :
    (f.afterUse u).Twin (g.afterUse u) handle := by
  rw [Fleet.creates, Bool.and_eq_true, decide_eq_true_eq, decide_eq_true_eq] at creates
  obtain ⟨here, more⟩ := creates
  have sound := twin.sound.afterUse u
  have unnamed := twin.unnamed (Nat.le_of_eq here)
  have empty : g.breakers.length = 0 := by
    rw [twin.length_eq, here, if_neg (Nat.lt_irrefl handle)]
  have outside (name : String) : f.find? name ≠ some handle := fun found =>
    absurd (twin.sound.inside name handle found) (by rw [here]; exact Nat.lt_irrefl handle)
  rcases f.length_afterUse u with same | ⟨_, built, made, last⟩
  · omega
  rw [here] at last
  cases made with
  | built name config observers now read =>
    have first := g.breaker_append_length (.build name config observers now)
    rw [empty] at first
    rw [afterUse_build config observers read] at sound more last ⊢
    rw [afterUse_build config observers (by rw [twin.clock_eq, read])]
    exact {
      sound
      clock_eq := twin.clock_eq
      defaults_eq := twin.defaults_eq
      observers_eq := twin.observers_eq
      breaker_eq := first.trans last.symm
      length_eq := by rw [more, if_pos (Nat.lt_succ_self handle), List.length_append, empty]; rfl
      unnamed := fun late => absurd late (by rw [more]; exact Nat.not_succ_le_self handle)
      named := fun other found => absurd found (outside other) }
  | looked name options now read missing =>
    have blueprint : g.blueprint name options now = f.blueprint name options now := by
      rw [Fleet.blueprint, Fleet.blueprint, Registry.configFor, Registry.configFor,
        Registry.observersFor, Registry.observersFor, twin.defaults_eq, twin.observers_eq]
    have first := g.breaker_adopt_length name (f.blueprint name options now)
    rw [empty] at first
    rw [afterUse_lookup options read missing] at sound more last ⊢
    rw [afterUse_lookup options (by rw [twin.clock_eq, read]) (unnamed name), blueprint]
    exact {
      sound
      clock_eq := twin.clock_eq
      defaults_eq := twin.defaults_eq
      observers_eq := twin.observers_eq
      breaker_eq := first.trans last.symm
      length_eq := by rw [more, if_pos (Nat.lt_succ_self handle), length_adopt, empty]
      unnamed := fun late => absurd late (by rw [more]; exact Nat.not_succ_le_self handle)
      named := fun other found => by
        rw [find?_adopt] at found ⊢
        by_cases same : other = name
        · rw [if_pos same, empty]
        · rw [if_neg same] at found
          exact absurd found (outside other) }

/-- What is done beside the common breaker. -/
theorem beside (twin : f.Twin g handle) (still : u.turnsClock = false)
    (other : f.creates handle u = false) (aside : f.target? u ≠ some handle) :
    (f.afterUse u).Twin g handle := by
  have sound := twin.sound.afterUse u
  rw [Fleet.creates, Bool.and_eq_false_iff, decide_eq_false_iff_not, decide_eq_false_iff_not]
    at other
  have deed := f.deed u
  generalize f.afterUse u = after at deed sound other ⊢
  cases deed with
  | turned clock turns aimless => cases still.symm.trans turns
  | idle aimless => exact twin
  | forgot name =>
    refine twin.of_still sound rfl ⟨rfl, rfl⟩ rfl Iff.rfl fun asked found => ?_
    rw [find?, remove, Table.get?_erase] at found
    by_cases same : asked = name
    · rw [if_pos same] at found
      cases found
    · rwa [if_neg same] at found
  | built built makes aimless =>
    have elsewhere : handle ≠ f.breakers.length := by
      rintro rfl
      exact other.elim (absurd rfl) (absurd List.length_append)
    refine twin.of_still sound rfl ⟨rfl, rfl⟩ (breaker_append_of_ne built elsewhere) ?_
      fun asked found => found
    rw [List.length_append, List.length_singleton]
    exact Nat.lt_succ_iff_lt_or_eq.trans (or_iff_left elsewhere)
  | adopted name built makes aimless missing =>
    have elsewhere : handle ≠ f.breakers.length := by
      rintro rfl
      exact other.elim (absurd rfl) (absurd (f.length_adopt name built))
    refine twin.of_still sound rfl ⟨rfl, rfl⟩ (breaker_adopt_of_ne name built elsewhere) ?_
      fun asked found => ?_
    · rw [length_adopt]
      exact Nat.lt_succ_iff_lt_or_eq.trans (or_iff_left elsewhere)
    · rw [find?_adopt] at found
      by_cases same : asked = name
      · rw [if_pos same] at found
        exact absurd (Option.some.inj found).symm elsewhere
      · rwa [if_neg same] at found
  | worked target operation byReset aimed joinless passage =>
    have elsewhere : handle ≠ target := fun same => aside (same ▸ aimed)
    refine twin.of_still sound rfl ⟨rfl, rfl⟩ (breaker_apply_of_ne operation elsewhere) ?_
      fun asked found => found
    rw [length_apply]
  | joined target observer =>
    have elsewhere : handle ≠ target := fun same => aside (congrArg some same.symm)
    refine twin.of_still sound rfl ⟨rfl, rfl⟩ (breaker_apply_of_ne _ elsewhere) ?_
      fun asked found => found
    rw [addObserver, length_apply]

/-- What is addressed to the common breaker is addressed to it in both fleets. -/
theorem target_toFirst (twin : f.Twin g handle) (aimed : f.target? u = some handle) :
    g.target? u.toFirst = some 0 := by
  cases u with
  | resetNamed name => exact twin.named name aimed
  | allow other => rfl
  | acquire other => rfl
  | record other outcome => rfl
  | settle other permit outcome => rfl
  | reset other => rfl
  | addObserver other observer => rfl
  | _ => cases aimed

/-- What is addressed to the common breaker has the same effect in both fleets. -/
theorem addressed (twin : f.Twin g handle) (aimed : f.target? u = some handle) :
    (f.afterUse u).Twin (g.afterUse u.toFirst) handle ∧ g.told u.toFirst = f.told u ∧
      g.eventsOf u.toFirst = f.eventsOf u := by
  obtain ⟨β, operation, tell, operates⟩ := exists_operates u
  have first := operates u (.inl rfl) f handle aimed
  have second := operates u.toFirst (.inr rfl) g 0 (twin.target_toFirst aimed)
  rw [twin.clock_eq] at second
  refine ⟨?_, ?_, ?_⟩
  · have sound := twin.sound.afterUse u
    rw [first.after] at sound ⊢
    rw [second.after]
    exact twin.apply _ sound
  · rw [first.told, second.told, twin.breaker_eq]
  · rw [first.eventsOf, second.eventsOf, twin.breaker_eq]

end Twin

/-! ## A run with the others and a run without them -/

theorem heard_cons_of_aimed (aimed : f.target? u = some handle) (uses : List Use) :
    f.heard handle (u :: uses) =
      (f.told u, f.eventsOf u) :: (f.afterUse u).heard handle uses := by
  have concerned : Moment.concerns handle ⟨f, u⟩ = true := decide_eq_true aimed
  rw [heard, history, List.filter_cons_of_pos concerned]
  rfl

theorem heard_cons_of_ne (aside : f.target? u ≠ some handle) (uses : List Use) :
    f.heard handle (u :: uses) = (f.afterUse u).heard handle uses := by
  have unconcerned : ¬ Moment.concerns handle ⟨f, u⟩ = true := by
    rw [Moment.concerns, decide_eq_true_eq]
    exact aside
  rw [heard, history, List.filter_cons_of_neg unconcerned]
  rfl

/-- What is kept for its own sake is not addressed to anyone. -/
theorem target?_of_shared (shared : (u.turnsClock || f.creates handle u) = true) (g : Fleet) :
    g.target? u = none := by
  rcases Bool.or_eq_true_iff.mp shared with turns | creates
  · cases u with
    | advance span => rfl
    | rewind span => rfl
    | _ => cases turns
  · rw [Fleet.creates, Bool.and_eq_true, decide_eq_true_eq, decide_eq_true_eq] at creates
    rcases f.length_afterUse u with same | ⟨_, built, made, _⟩
    · omega
    · cases made <;> rfl

/-- The two runs go side by side. -/
structure Alike (f g : Fleet) (handle : Handle) (uses others : List Use) : Prop where
  twin : (f.afterUses uses).Twin (g.afterUses others) handle
  heard_eq : g.heard 0 others = f.heard handle uses
  journal_eq : (g.afterUses others).journal =
    g.journal ++ (f.heard handle uses).flatMap Prod.snd

theorem Twin.alike (twin : f.Twin g handle) (uses : List Use) :
    f.Alike g handle uses (f.alone handle uses) := by
  induction uses generalizing f g with
  | nil => exact ⟨twin, rfl, (List.append_nil _).symm⟩
  | cons u rest ih =>
    rw [alone, alone?]
    by_cases shared : (u.turnsClock || f.creates handle u) = true
    · rw [if_pos shared, Option.toList_some, List.singleton_append]
      have aside (h : Fleet) (other : Handle) : h.target? u ≠ some other := by
        rw [target?_of_shared shared h]
        exact nofun
      have rest := ih (show (f.afterUse u).Twin (g.afterUse u) handle from
        (Bool.or_eq_true_iff.mp shared).elim twin.turnsClock twin.creates)
      refine ⟨rest.twin, ?_, ?_⟩
      · rw [heard_cons_of_ne (aside f handle), heard_cons_of_ne (aside g 0), rest.heard_eq]
      · rw [heard_cons_of_ne (aside f handle), afterUses_cons, rest.journal_eq,
          journal_afterUse_of_aimless (target?_of_shared shared g)]
    · rw [if_neg shared]
      by_cases aimed : f.target? u = some handle
      · rw [if_pos aimed, Option.toList_some, List.singleton_append]
        obtain ⟨after, told, events⟩ := twin.addressed aimed
        have rest := ih after
        refine ⟨rest.twin, ?_, ?_⟩
        · rw [heard_cons_of_aimed aimed, heard_cons_of_aimed (twin.target_toFirst aimed), told,
            events, rest.heard_eq]
        · rw [heard_cons_of_aimed aimed, afterUses_cons, rest.journal_eq, journal_afterUse,
            events, List.flatMap_cons, List.append_assoc]
      · rw [if_neg aimed, Option.toList_none, List.nil_append]
        rw [Bool.not_eq_true, Bool.or_eq_false_iff] at shared
        have rest := ih (twin.beside shared.1 shared.2 aimed)
        refine ⟨rest.twin, ?_, ?_⟩
        · rw [heard_cons_of_ne aimed, rest.heard_eq]
        · rw [heard_cons_of_ne aimed, rest.journal_eq]

theorem twin_unused (clock : Clock) (defaults : Config) (observers : List Observer)
    (handle : Handle) :
    (unused clock defaults observers).Twin (unused clock defaults observers) handle where
  sound := isSound_unused clock defaults observers
  clock_eq := rfl
  defaults_eq := rfl
  observers_eq := rfl
  breaker_eq := rfl
  length_eq := rfl
  unnamed _ _ := rfl
  named _ found := by cases found

/-- What the breaker with a handle does in a run is what it does alone. -/
structure StandsAlone (f : Fleet) (uses : List Use) (handle : Handle) : Prop where
  clock : (f.afterUses (f.alone handle uses)).clock = (f.afterUses uses).clock
  /-- State, counters, metrics and the time of the last transition are the same. -/
  breaker : (f.afterUses (f.alone handle uses)).breaker 0 = (f.afterUses uses).breaker handle
  only : (f.afterUses (f.alone handle uses)).breakers.length =
    if handle < (f.afterUses uses).breakers.length then 1 else 0
  /-- The answers are the same, and so is what the observers do each time. -/
  heard : f.heard 0 (f.alone handle uses) = f.heard handle uses
  journal : (f.afterUses (f.alone handle uses)).journal =
    (f.heard handle uses).flatMap Prod.snd
  /-- Whatever is still done to a breaker that was removed leaves its successor alone. -/
  succeeded : ∀ before name between u after old,
    uses = before ++ .remove name :: between ++ u :: after →
      (f.afterUses before).told (.remove name) = .found (some old) →
        (f.afterUses (before ++ .remove name :: between)).find? name = some handle →
          (f.afterUses (before ++ .remove name :: between)).target? u = some old →
            (f.afterUses (before ++ .remove name :: between ++ [u])).breaker handle =
              (f.afterUses (before ++ .remove name :: between)).breaker handle

/-- However breakers are used together, each of them answers, changes and tells its
observers what it would without the others. -/
theorem stands_alone (clock : Clock) (defaults : Config) (observers : List Observer)
    (uses : List Use) (handle : Handle) :
    (unused clock defaults observers).StandsAlone uses handle := by
  have alike := (twin_unused clock defaults observers handle).alike uses
  refine ⟨alike.twin.clock_eq, alike.twin.breaker_eq, alike.twin.length_eq, alike.heard_eq,
    alike.journal_eq, ?_⟩
  intro before name between u after old _ removed found aimed
  have sound := (isSound_unused clock defaults observers).afterUses before
  have gone := (sound.isGone_remove (Told.found.inj removed)).afterUses between
  have now := (isSound_unused clock defaults observers).afterUses
    (before ++ .remove name :: between)
  rw [afterUses_concat]
  refine breaker_afterUse_of_ne (now.inside name handle found) ?_
  rw [aimed]
  intro same
  cases same
  rw [afterUses_append] at found
  exact gone.unregistered name found

end Fleet

end GuardedCache.Circuit
