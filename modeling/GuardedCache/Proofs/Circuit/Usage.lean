import GuardedCache.Proofs.Circuit.Registration

/-!
# Runs of a fleet

A run is a list of uses of one fleet, by anyone and in any order.  What a use can do is
one row of `Deed`: at most it moves the clock, or it forgets a name, makes one more
breaker, or does something to the breaker that it is addressed to.  What a run does to
the names and to each breaker is read off these rows.
-/

namespace GuardedCache.Circuit

namespace Fleet

/-- What the user of a fleet is told. -/
inductive Told where
  | moved (answer : Except ClockFault Unit)
  | looked (answer : Except ClockFault Handle)
  | found (handle : Option Handle)
  | listed (entries : List (String × Handle))
  | shown (snapshots : List Breaker)
  | allowed (answer : Except ClockFault Bool)
  | acquired (answer : Except ClockFault (Option Permit))
  | done (answer : Except ClockFault Unit)
  | resetNamed (answer : Except ClockFault Bool)
  | counted (observers : Nat)

/-- A use that only moves the clock. -/
def Use.turnsClock : Use → Bool
  | .advance _ => true
  | .rewind _ => true
  | _ => false

/-- The observers that join a breaker with a use. -/
def Use.joining (handle : Handle) : Use → List Observer
  | .addObserver other observer => if other = handle then [observer] else []
  | _ => []

variable {f : Fleet} {u : Use} {handle : Handle} {name : String}

/-- A fleet without breakers. -/
def unused (clock : Clock) (defaults : Config) (observers : List Observer) : Fleet where
  clock
  registry := { defaults, observers }

/-- The answer to a use. -/
def told (f : Fleet) : Use → Told
  | .advance span => .moved (f.advance span).1
  | .rewind _ => .moved (.ok ())
  | .build name config observers => .looked (f.build name config observers).1
  | .lookup name options => .looked (f.lookup name options).1
  | .find name => .found (f.find? name)
  | .list => .listed f.registry.sorted
  | .snapshots => .shown f.snapshots
  | .remove name => .found (f.remove name).1
  | .allow handle => .allowed (f.allow handle).1
  | .acquire handle => .acquired (f.acquire handle).1
  | .record handle outcome => .done (f.record handle outcome).1
  | .settle handle permit outcome => .done (f.settle handle permit outcome).1
  | .reset handle => .done (f.reset handle).1
  | .resetNamed name => .resetNamed (f.resetNamed name).1
  | .addObserver handle observer => .counted (f.addObserver handle observer).1

/-- The breaker that a use is addressed to. -/
def target? (f : Fleet) : Use → Option Handle
  | .allow handle => some handle
  | .acquire handle => some handle
  | .record handle _ => some handle
  | .settle handle _ _ => some handle
  | .reset handle => some handle
  | .resetNamed name => f.find? name
  | .addObserver handle _ => some handle
  | _ => none

/-- What the observers do during a use, as it is seen from outside. -/
def eventsOf (f : Fleet) (u : Use) : List Event :=
  (f.afterUse u).journal.drop f.journal.length

theorem afterUses_cons (f : Fleet) (u : Use) (uses : List Use) :
    f.afterUses (u :: uses) = (f.afterUse u).afterUses uses := rfl

theorem afterUses_append (f : Fleet) (before after : List Use) :
    f.afterUses (before ++ after) = (f.afterUses before).afterUses after :=
  List.foldl_append

theorem afterUses_concat (f : Fleet) (uses : List Use) (u : Use) :
    f.afterUses (uses ++ [u]) = (f.afterUses uses).afterUse u :=
  f.afterUses_append uses [u]

/-- What every use keeps holds after a run. -/
theorem afterUses_induction {P : Fleet → Prop} (base : P f)
    (kept : ∀ g u, P g → P (g.afterUse u)) (uses : List Use) : P (f.afterUses uses) := by
  induction uses generalizing f with
  | nil => exact base
  | cons u rest ih => exact ih (kept f u base)

theorem isSound_unused (clock : Clock) (defaults : Config) (observers : List Observer) :
    (unused clock defaults observers).IsSound :=
  .of_unregistered rfl

/-! ## What a use can do -/

/-- A use makes a breaker. -/
inductive Makes (f : Fleet) : Use → Breaker → Prop where
  | built (name : String) (config : Config) (observers : List Observer) (now : Reading)
      (read : f.clock.read = .ok now) :
      Makes f (.build name config observers) (.build name config observers now)
  | looked (name : String) (options : Options) (now : Reading)
      (read : f.clock.read = .ok now) (missing : f.find? name = none) :
      Makes f (.lookup name options) (f.blueprint name options now)

theorem afterUse_build {now : Reading} (config : Config) (observers : List Observer)
    (read : f.clock.read = .ok now) :
    f.afterUse (.build name config observers) =
      { f with breakers := f.breakers ++ [.build name config observers now] } := by
  rw [afterUse, build, read]

theorem afterUse_lookup {now : Reading} (options : Options) (read : f.clock.read = .ok now)
    (missing : f.find? name = none) :
    f.afterUse (.lookup name options) = f.adopt name (f.blueprint name options now) := by
  rw [afterUse, lookup, missing, build, read]
  rfl

/-- The fleets that a use can lead to. -/
inductive Deed (f : Fleet) : Use → Fleet → Prop where
  | turned {u : Use} (clock : Clock) (turns : u.turnsClock = true)
      (aimless : f.target? u = none) : Deed f u { f with clock }
  | idle {u : Use} (aimless : f.target? u = none) : Deed f u f
  | forgot (name : String) : Deed f (.remove name) (f.remove name).2
  | built {u : Use} (built : Breaker) (makes : f.Makes u built) (aimless : f.target? u = none) :
      Deed f u { f with breakers := f.breakers ++ [built] }
  | adopted {u : Use} (name : String) (built : Breaker) (makes : f.Makes u built)
      (aimless : f.target? u = none) (missing : f.find? name = none) :
      Deed f u (f.adopt name built)
  | worked {β : Type} {u : Use} (handle : Handle) (operation : Breaker → Effect β)
      (byReset : Bool) (target : f.target? u = some handle) (joinless : u.joining handle = [])
      (passage : (f.breaker handle).Passage byReset f.clock.read
        (operation (f.breaker handle))) :
      Deed f u (f.apply handle operation).2
  | joined (handle : Handle) (observer : Observer) :
      Deed f (.addObserver handle observer) (f.addObserver handle observer).2

theorem deed (f : Fleet) (u : Use) : f.Deed u (f.afterUse u) := by
  cases u with
  | advance span =>
    rw [afterUse, advance]
    cases f.clock.advance span with
    | ok clock => exact .turned clock rfl rfl
    | error fault => exact .idle rfl
  | rewind span => exact .turned _ rfl rfl
  | build name config observers =>
    rw [afterUse, build]
    cases read : f.clock.read with
    | ok now => exact .built _ (.built name config observers now read) rfl
    | error fault => exact .idle rfl
  | lookup name options =>
    rw [afterUse, lookup]
    cases missing : f.find? name with
    | some handle => exact .idle rfl
    | none =>
      rw [build]
      cases read : f.clock.read with
      | ok now => exact .adopted name _ (.looked name options now read missing) rfl missing
      | error fault => exact .idle rfl
  | find name => exact .idle rfl
  | list => exact .idle rfl
  | snapshots => exact .idle rfl
  | remove name => exact .forgot name
  | allow handle =>
    exact .worked handle _ _ rfl rfl ((f.breaker handle).passage_allow f.clock.read)
  | acquire handle =>
    exact .worked handle _ _ rfl rfl ((f.breaker handle).passage_acquire f.clock.read)
  | record handle outcome =>
    exact .worked handle _ _ rfl rfl
      ((f.breaker handle).passage_report outcome none f.clock.read)
  | settle handle permit outcome =>
    exact .worked handle _ _ rfl rfl
      ((f.breaker handle).passage_report outcome (some permit) f.clock.read)
  | reset handle =>
    exact .worked handle _ _ rfl rfl ((f.breaker handle).passage_reset f.clock.read)
  | resetNamed name =>
    rw [afterUse, resetNamed]
    cases found : f.find? name with
    | none =>
      have aimless : f.target? (.resetNamed name) = none := found
      exact .idle aimless
    | some handle =>
      have target : f.target? (.resetNamed name) = some handle := found
      exact .worked handle (·.reset f.clock.read) true target rfl
        ((f.breaker handle).passage_reset f.clock.read)
  | addObserver handle observer => exact .joined handle observer

/-- A use that is addressed to a breaker takes it along a passage, or adds an observer. -/
theorem deed_of_target (target : f.target? u = some handle) :
    (∃ (β : Type) (operation : Breaker → Effect β) (byReset : Bool),
      f.afterUse u = (f.apply handle operation).2 ∧ u.joining handle = [] ∧
        (f.breaker handle).Passage byReset f.clock.read (operation (f.breaker handle))) ∨
      ∃ observer, u = .addObserver handle observer := by
  have deed := f.deed u
  generalize f.afterUse u = g at deed ⊢
  cases deed with
  | turned clock turns aimless => cases aimless.symm.trans target
  | idle aimless => cases aimless.symm.trans target
  | forgot name => cases target
  | built built makes aimless => cases aimless.symm.trans target
  | adopted name built makes aimless missing => cases aimless.symm.trans target
  | worked other operation byReset aimed joinless passage =>
    cases aimed.symm.trans target
    exact .inl ⟨_, operation, byReset, rfl, joinless, passage⟩
  | joined other observer =>
    cases target
    exact .inr ⟨observer, rfl⟩

/-- No use changes what breakers are made of. -/
theorem registry_afterUse (f : Fleet) (u : Use) :
    (f.afterUse u).registry.defaults = f.registry.defaults ∧
      (f.afterUse u).registry.observers = f.registry.observers := by
  have deed := f.deed u
  generalize f.afterUse u = g at deed ⊢
  cases deed <;> exact ⟨rfl, rfl⟩

theorem registry_afterUses (f : Fleet) (uses : List Use) :
    (f.afterUses uses).registry.defaults = f.registry.defaults ∧
      (f.afterUses uses).registry.observers = f.registry.observers := by
  refine afterUses_induction (P := fun g => g.registry.defaults = f.registry.defaults ∧
    g.registry.observers = f.registry.observers) ⟨rfl, rfl⟩ (fun g u same => ?_) uses
  obtain ⟨defaults, observers⟩ := g.registry_afterUse u
  exact ⟨defaults.trans same.1, observers.trans same.2⟩

/-! ## What observers do in a run -/

theorem journal_apply {β : Type} (f : Fleet) (handle : Handle) (operation : Breaker → Effect β) :
    (f.apply handle operation).2.journal = f.journal ++ (operation (f.breaker handle)).events :=
  rfl

/-- Only a use that is addressed to a breaker tells its observers anything. -/
theorem journal_afterUse_of_aimless (aimless : f.target? u = none) :
    (f.afterUse u).journal = f.journal := by
  have deed := f.deed u
  generalize f.afterUse u = g at deed ⊢
  cases deed with
  | worked target operation byReset aimed joinless passage => cases aimless.symm.trans aimed
  | joined target observer => cases aimless
  | _ => rfl

theorem eventsOf_of_aimless (aimless : f.target? u = none) : f.eventsOf u = [] := by
  rw [eventsOf, journal_afterUse_of_aimless aimless, List.drop_length]

theorem journal_afterUse (f : Fleet) (u : Use) :
    (f.afterUse u).journal = f.journal ++ f.eventsOf u := by
  have grown : ∃ events, (f.afterUse u).journal = f.journal ++ events := by
    have deed := f.deed u
    generalize f.afterUse u = g at deed ⊢
    cases deed with
    | worked target operation byReset aimed joinless passage => exact ⟨_, rfl⟩
    | joined target observer => exact ⟨_, rfl⟩
    | _ => exact ⟨[], (List.append_nil _).symm⟩
  obtain ⟨events, same⟩ := grown
  rw [eventsOf, same, List.drop_left]

/-- A use in the middle of a run, with the fleet before it. -/
structure Moment where
  before : Fleet
  use : Use

/-- The uses of a run, each with the fleet before it. -/
def history (f : Fleet) : List Use → List Moment
  | [] => []
  | u :: uses => ⟨f, u⟩ :: (f.afterUse u).history uses

/-! ## Breakers in a run -/

/-- No breaker is lost, and a use makes at most one. -/
theorem length_afterUse (f : Fleet) (u : Use) :
    (f.afterUse u).breakers.length = f.breakers.length ∨
      (f.afterUse u).breakers.length = f.breakers.length + 1 ∧
        ∃ built, f.Makes u built ∧ (f.afterUse u).breaker f.breakers.length = built := by
  have deed := f.deed u
  generalize f.afterUse u = g at deed ⊢
  cases deed with
  | turned clock turns aimless => exact .inl rfl
  | idle aimless => exact .inl rfl
  | forgot name => exact .inl rfl
  | built built makes aimless =>
    exact .inr ⟨List.length_append, built, makes, f.breaker_append_length built⟩
  | adopted name built makes aimless missing =>
    exact .inr ⟨f.length_adopt name built, built, makes, f.breaker_adopt_length name built⟩
  | worked handle operation byReset target joinless passage => exact .inl (length_apply operation)
  | joined handle observer => exact .inl (length_apply _)

theorem length_le_afterUse (f : Fleet) (u : Use) :
    f.breakers.length ≤ (f.afterUse u).breakers.length := by
  rcases f.length_afterUse u with same | ⟨more, _⟩ <;> omega

/-- A use leaves the breakers alone that it is not addressed to. -/
theorem breaker_afterUse_of_ne (inside : handle < f.breakers.length)
    (other : f.target? u ≠ some handle) : (f.afterUse u).breaker handle = f.breaker handle := by
  have deed := f.deed u
  generalize f.afterUse u = g at deed ⊢
  cases deed with
  | turned clock turns aimless => rfl
  | idle aimless => rfl
  | forgot name => rfl
  | built built makes aimless => exact breaker_append_of_ne built (Nat.ne_of_lt inside)
  | adopted name built makes aimless missing =>
    exact breaker_adopt_of_ne name built (Nat.ne_of_lt inside)
  | worked target operation byReset aimed joinless passage =>
    refine breaker_apply_of_ne operation fun same => other ?_
    rw [aimed, same]
  | joined target observer =>
    refine breaker_apply_of_ne _ fun same => other ?_
    rw [same]
    rfl

/-- What is settled when a breaker is made: its name, its configuration and its first
observers, behind which others may join. -/
structure Settled (b after : Breaker) (joined : List Observer) : Prop where
  name_eq : after.name = b.name
  config_eq : after.config = b.config
  observers_eq : after.observers = b.observers ++ joined

theorem Settled.refl (b : Breaker) : Settled b b [] :=
  ⟨rfl, rfl, (List.append_nil _).symm⟩

theorem Settled.trans {b middle after : Breaker} {joined more : List Observer}
    (first : Settled b middle joined) (second : Settled middle after more) :
    Settled b after (joined ++ more) where
  name_eq := second.name_eq.trans first.name_eq
  config_eq := second.config_eq.trans first.config_eq
  observers_eq := by rw [second.observers_eq, first.observers_eq, List.append_assoc]

theorem settled_afterUse (u : Use) (inside : handle < f.breakers.length) :
    Settled (f.breaker handle) ((f.afterUse u).breaker handle) (u.joining handle) := by
  by_cases aimed : f.target? u = some handle
  · rcases deed_of_target aimed with ⟨_, operation, _, after, joinless, passage⟩ | ⟨observer, rfl⟩
    · rw [after, breaker_apply operation inside, joinless]
      refine ⟨passage.name_eq, passage.config_eq, ?_⟩
      rw [passage.observers_eq, List.append_nil]
    · rw [afterUse, addObserver, breaker_apply _ inside, Use.joining, if_pos rfl]
      exact ⟨rfl, rfl, rfl⟩
  · have joinless : u.joining handle = [] := by
      cases u with
      | addObserver other observer =>
        exact if_neg fun same => aimed (congrArg some same)
      | _ => rfl
    rw [breaker_afterUse_of_ne inside aimed, joinless]
    exact .refl _

theorem settled_afterUses (uses : List Use) (inside : handle < f.breakers.length) :
    Settled (f.breaker handle) ((f.afterUses uses).breaker handle)
      (uses.flatMap (·.joining handle)) := by
  induction uses generalizing f with
  | nil => exact .refl _
  | cons u rest ih =>
    exact (settled_afterUse u inside).trans
      (ih (Nat.lt_of_lt_of_le inside (f.length_le_afterUse u)))

/-- Every breaker that a run makes is made by one of its uses. -/
theorem exists_makes {uses : List Use} (outside : f.breakers.length ≤ handle)
    (inside : handle < (f.afterUses uses).breakers.length) :
    ∃ before u after built, uses = before ++ u :: after ∧
      (f.afterUses before).breakers.length = handle ∧ (f.afterUses before).Makes u built ∧
      ((f.afterUses before).afterUse u).breakers.length = handle + 1 ∧
      ((f.afterUses before).afterUse u).breaker handle = built := by
  induction uses generalizing f with
  | nil => exact absurd inside (Nat.not_lt.mpr outside)
  | cons u rest ih =>
    rcases Nat.lt_or_ge handle (f.afterUse u).breakers.length with made | later
    · rcases f.length_afterUse u with same | ⟨more, built, makes, last⟩
      · omega
      · have here : f.breakers.length = handle := by omega
        subst here
        exact ⟨[], u, rest, built, rfl, rfl, makes, more, last⟩
    · obtain ⟨before, v, after, built, rfl, found⟩ := ih later inside
      exact ⟨u :: before, v, after, built, rfl, found⟩

end Fleet

end GuardedCache.Circuit
