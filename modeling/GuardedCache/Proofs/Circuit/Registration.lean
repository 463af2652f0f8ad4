import GuardedCache.Circuit.Call
import GuardedCache.Proofs.Circuit.Passages

/-!
# Registered breakers

What is done to one breaker of a fleet leaves the others and the registry alone.
A fleet is sound if the breaker that is registered under a name was built under
this name.  However a fleet is used, it stays sound, and a lookup in a sound fleet
gives that breaker, or builds one and changes nothing else.
-/

namespace GuardedCache.Circuit

/-! ## Breakers that admit a call -/

namespace Breaker

variable {b : Breaker} {now : Reading}

theorem acquire_of_refuse (refuse : b.verdict now.instant = .refuse) :
    b.acquire (.ok now) = ⟨.ok none, b.countAdmission false, []⟩ := by
  simp only [acquire, refuse]

theorem acquire_of_ne_refuse (passes : b.verdict now.instant ≠ .refuse) :
    ∃ permit, (b.acquire (.ok now)).answer = .ok (some permit) := by
  have row := b.acquisition (.ok now)
  generalize b.acquire (.ok now) = effect at row ⊢
  cases row with
  | refused _ full => exact absurd ((b.verdict_eq_refuse_iff now).mpr full) passes
  | passed _ closed => exact ⟨_, rfl⟩
  | reserved _ halfOpen room => exact ⟨_, rfl⟩
  | woken _ opened due => exact ⟨_, rfl⟩

end Breaker

namespace Fleet

variable {f g : Fleet} {handle : Handle} {name : String}

/-! ## One breaker at a time -/

section Apply

variable {β : Type} (operation : Breaker → Effect β)

theorem breaker_apply (inside : handle < f.breakers.length) :
    (f.apply handle operation).2.breaker handle = (operation (f.breaker handle)).breaker := by
  simp [apply, breaker, inside]

theorem breaker_apply_of_ne {other : Handle} (different : other ≠ handle) :
    (f.apply handle operation).2.breaker other = f.breaker other := by
  simp [apply, breaker, List.getElem?_set_ne (Ne.symm different)]

/-- Nothing can be done to a breaker that was not built yet. -/
theorem breaker_apply_of_le (outside : f.breakers.length ≤ handle) :
    (f.apply handle operation).2.breaker handle = f.breaker handle := by
  rw [apply, breaker, breaker, List.set_eq_of_length_le outside]

theorem length_apply : (f.apply handle operation).2.breakers.length = f.breakers.length :=
  List.length_set

/-- An operation that does nothing to its breaker does nothing to the fleet. -/
theorem apply_of_idle {answer : β}
    (idle : operation (f.breaker handle) = ⟨answer, f.breaker handle, []⟩) :
    f.apply handle operation = (answer, f) := by
  have same : f.breakers.set handle (f.breaker handle) = f.breakers := by
    by_cases inside : handle < f.breakers.length
    · rw [breaker, List.getD_eq_getElem?_getD, List.getElem?_eq_getElem inside,
        Option.getD_some, List.set_getElem_self]
    · exact List.set_eq_of_length_le (Nat.le_of_not_lt inside)
  rw [apply, idle]
  simp only [same, List.append_nil]

end Apply

/-- A new breaker leaves the others alone. -/
theorem breaker_append_of_ne (built : Breaker) (other : handle ≠ f.breakers.length) :
    { f with breakers := f.breakers ++ [built] }.breaker handle = f.breaker handle := by
  rcases Nat.lt_or_gt_of_ne other with inside | beyond
  · simp [breaker, List.getElem?_append_left inside]
  · have outside : (f.breakers ++ [built]).length ≤ handle := by
      rw [List.length_append]
      exact beyond
    simp only [breaker, List.getD_eq_getElem?_getD, List.getElem?_eq_none outside,
      List.getElem?_eq_none (Nat.le_of_lt beyond)]

theorem breaker_append_length (f : Fleet) (built : Breaker) :
    { f with breakers := f.breakers ++ [built] }.breaker f.breakers.length = built := by
  simp [breaker]

/-! ## Sound fleets -/

/-- The breaker that is registered under a name was built under it. -/
structure IsSound (f : Fleet) : Prop where
  inside : ∀ name handle, f.find? name = some handle → handle < f.breakers.length
  named : ∀ name handle, f.find? name = some handle → (f.breaker handle).name = name

namespace IsSound

theorem of_unregistered (unregistered : f.registry.names = .empty) : f.IsSound := by
  constructor <;>
    · intro name handle found
      rw [find?, unregistered] at found
      cases found

/-- No breaker is registered under two names. -/
theorem name_eq (sound : f.IsSound) {other : String} (found : f.find? name = some handle)
    (also : f.find? other = some handle) : name = other :=
  (sound.named name handle found).symm.trans (sound.named other handle also)

theorem apply {β : Type} (sound : f.IsSound) {operation : Breaker → Effect β}
    (keeps : (operation (f.breaker handle)).breaker.name = (f.breaker handle).name) :
    (f.apply handle operation).2.IsSound where
  inside name other found := by
    rw [length_apply]
    exact sound.inside name other found
  named name other found := by
    have inside := sound.inside name other found
    by_cases same : other = handle
    · subst same
      rw [breaker_apply operation inside, keeps]
      exact sound.named name other found
    · rw [breaker_apply_of_ne operation same]
      exact sound.named name other found

theorem turn (sound : f.IsSound) (clock : Clock) : { f with clock }.IsSound :=
  ⟨sound.inside, sound.named⟩

theorem append (sound : f.IsSound) (built : Breaker) :
    { f with breakers := f.breakers ++ [built] }.IsSound where
  inside name handle found := by
    rw [List.length_append]
    exact Nat.lt_add_right 1 (sound.inside name handle found)
  named name handle found := by
    rw [breaker_append_of_ne built (Nat.ne_of_lt (sound.inside name handle found))]
    exact sound.named name handle found

theorem register (sound : f.IsSound) (inside : handle < f.breakers.length)
    (named : (f.breaker handle).name = name) : (f.register name handle).IsSound := by
  have find (other : String) : (f.register name handle).find? other =
      if other = name then some handle else f.find? other :=
    Table.get?_insert f.registry.names name other handle
  constructor
  · intro other old found
    rw [find] at found
    by_cases same : other = name
    · rw [if_pos same] at found
      cases found
      exact inside
    · rw [if_neg same] at found
      exact sound.inside other old found
  · intro other old found
    rw [find] at found
    by_cases same : other = name
    · rw [if_pos same] at found
      cases found
      exact named.trans same.symm
    · rw [if_neg same] at found
      exact sound.named other old found

theorem remove (sound : f.IsSound) (name : String) : (f.remove name).2.IsSound := by
  have find {other : String} {handle : Handle}
      (found : (f.remove name).2.find? other = some handle) : f.find? other = some handle := by
    rw [find?, Fleet.remove, Table.get?_erase] at found
    by_cases same : other = name
    · rw [if_pos same] at found
      cases found
    · rwa [if_neg same] at found
  exact ⟨fun other handle found => sound.inside other handle (find found),
    fun other handle found => sound.named other handle (find found)⟩

end IsSound

/-! ## Lookups -/

/-- A lookup under a name gives a breaker: the registered one, or a new one if
there is none.  Nothing else changes. -/
structure Finds (f : Fleet) (name : String) (built : Breaker) (handle : Handle) (g : Fleet) :
    Prop where
  found : g.find? name = some handle
  inside : handle < g.breakers.length
  breaker_eq : g.breaker handle = (f.find? name).elim built f.breaker
  clock_eq : g.clock = f.clock
  names : ∀ other, other ≠ name → g.find? other = f.find? other
  breakers : ∀ other, other < f.breakers.length → g.breaker other = f.breaker other
  kept : ∀ old, f.find? name = some old → old = handle
  outside : f.find? name = none → f.breakers.length ≤ handle
  sound : g.IsSound

theorem IsSound.finds_registered (sound : f.IsSound) (found : f.find? name = some handle)
    (built : Breaker) : f.Finds name built handle f where
  found := found
  inside := sound.inside name handle found
  breaker_eq := by
    rw [found]
    rfl
  clock_eq := rfl
  names _ _ := rfl
  breakers _ _ := rfl
  kept old also := Option.some.inj (also.symm.trans found)
  outside missing := by
    rw [found] at missing
    cases missing
  sound := sound

/-- The fleet with one more breaker, which is registered under a name. -/
def adopt (f : Fleet) (name : String) (built : Breaker) : Fleet :=
  { f with breakers := f.breakers ++ [built] }.register name f.breakers.length

theorem find?_adopt (f : Fleet) (name other : String) (built : Breaker) :
    (f.adopt name built).find? other =
      if other = name then some f.breakers.length else f.find? other :=
  Table.get?_insert f.registry.names name other f.breakers.length

theorem breaker_adopt_length (f : Fleet) (name : String) (built : Breaker) :
    (f.adopt name built).breaker f.breakers.length = built :=
  f.breaker_append_length built

theorem breaker_adopt_of_ne (name : String) (built : Breaker)
    (other : handle ≠ f.breakers.length) :
    (f.adopt name built).breaker handle = f.breaker handle :=
  breaker_append_of_ne built other

theorem length_adopt (f : Fleet) (name : String) (built : Breaker) :
    (f.adopt name built).breakers.length = f.breakers.length + 1 :=
  List.length_append

theorem IsSound.adopt (sound : f.IsSound) {built : Breaker} (named : built.name = name) :
    (f.adopt name built).IsSound := by
  have inside : f.breakers.length < (f.adopt name built).breakers.length := by
    rw [length_adopt]
    exact Nat.lt_succ_self _
  refine (sound.append built).register inside ?_
  exact (congrArg Breaker.name (f.breaker_adopt_length name built)).trans named

theorem IsSound.finds_adopted (sound : f.IsSound) (missing : f.find? name = none)
    {built : Breaker} (named : built.name = name) :
    f.Finds name built f.breakers.length (f.adopt name built) where
  found := by rw [find?_adopt, if_pos rfl]
  inside := by
    rw [length_adopt]
    exact Nat.lt_succ_self _
  breaker_eq := by
    rw [breaker_adopt_length, missing]
    rfl
  clock_eq := rfl
  names other different := by rw [find?_adopt, if_neg different]
  breakers other inside := breaker_adopt_of_ne name built (Nat.ne_of_lt inside)
  kept old found := by
    rw [missing] at found
    cases found
  outside _ := Nat.le_refl _
  sound := sound.adopt named

/-- The breaker that a lookup builds if there is none. -/
def blueprint (f : Fleet) (name : String) (options : Options) (now : Reading) : Breaker :=
  .build name (f.registry.configFor options) (f.registry.observersFor options) now

theorem IsSound.lookup (sound : f.IsSound) (name : String) (options : Options) {now : Reading}
    (read : f.clock.read = .ok now) :
    ∃ handle g, f.lookup name options = (.ok handle, g) ∧
      f.Finds name (f.blueprint name options now) handle g := by
  rw [Fleet.lookup]
  cases found : f.find? name with
  | some handle => exact ⟨handle, f, rfl, sound.finds_registered found _⟩
  | none =>
    rw [build, read]
    exact ⟨_, _, rfl, sound.finds_adopted found rfl⟩

theorem clock_lookup (f : Fleet) (name : String) (options : Options) :
    (f.lookup name options).2.clock = f.clock := by
  rw [Fleet.lookup, build]
  cases f.find? name with
  | some handle => rfl
  | none => cases f.clock.read <;> rfl

/-! ## Fleets in use -/

/-- One use of a fleet.  A guarded call is two of them: it acquires a permit when it
starts, and it settles the permit when its work has ended (`startCall_snd`,
`finishCall_snd`). -/
inductive Use where
  | advance (span : Duration)
  | rewind (span : Duration)
  /-- A breaker is built that is not registered. -/
  | build (name : String) (config : Config) (observers : List Observer)
  | lookup (name : String) (options : Options)
  | find (name : String)
  /-- The registered breakers are listed. -/
  | list
  | snapshots
  | remove (name : String)
  | allow (handle : Handle)
  | acquire (handle : Handle)
  | record (handle : Handle) (outcome : Outcome)
  | settle (handle : Handle) (permit : Permit) (outcome : Outcome)
  | reset (handle : Handle)
  | resetNamed (name : String)
  | addObserver (handle : Handle) (observer : Observer)

/-- The fleet after a use. -/
def afterUse (f : Fleet) : Use → Fleet
  | .advance span => (f.advance span).2
  | .rewind span => f.rewind span
  | .build name config observers => (f.build name config observers).2
  | .lookup name options => (f.lookup name options).2
  | .find _ => f
  | .list => f
  | .snapshots => f
  | .remove name => (f.remove name).2
  | .allow handle => (f.allow handle).2
  | .acquire handle => (f.acquire handle).2
  | .record handle outcome => (f.record handle outcome).2
  | .settle handle permit outcome => (f.settle handle permit outcome).2
  | .reset handle => (f.reset handle).2
  | .resetNamed name => (f.resetNamed name).2
  | .addObserver handle observer => (f.addObserver handle observer).2

/-- The fleet after a run of uses. -/
def afterUses (f : Fleet) (uses : List Use) : Fleet := uses.foldl afterUse f

namespace IsSound

theorem acquire (sound : f.IsSound) (handle : Handle) : (f.acquire handle).2.IsSound :=
  sound.apply ((f.breaker handle).passage_acquire f.clock.read).name_eq

theorem settle (sound : f.IsSound) (handle : Handle) (permit : Permit) (outcome : Outcome) :
    (f.settle handle permit outcome).2.IsSound :=
  sound.apply ((f.breaker handle).passage_report outcome (some permit) f.clock.read).name_eq

theorem reset (sound : f.IsSound) (handle : Handle) : (f.reset handle).2.IsSound :=
  sound.apply ((f.breaker handle).passage_reset f.clock.read).name_eq

/-- No use registers a breaker under a name that is not its own. -/
theorem afterUse (sound : f.IsSound) (u : Use) : (f.afterUse u).IsSound := by
  cases u with
  | advance span =>
    rw [Fleet.afterUse, Fleet.advance]
    cases f.clock.advance span with
    | ok clock => exact sound.turn clock
    | error fault => exact sound
  | rewind span => exact sound.turn _
  | build name config observers =>
    rw [Fleet.afterUse, Fleet.build]
    cases f.clock.read with
    | ok now => exact sound.append _
    | error fault => exact sound
  | lookup name options =>
    cases read : f.clock.read with
    | ok now =>
      obtain ⟨handle, g, looked, finds⟩ := sound.lookup name options read
      rw [Fleet.afterUse, looked]
      exact finds.sound
    | error fault =>
      rw [Fleet.afterUse, Fleet.lookup, Fleet.build, read]
      cases f.find? name <;> exact sound
  | find name => exact sound
  | list => exact sound
  | snapshots => exact sound
  | remove name => exact sound.remove name
  | allow handle => exact sound.apply ((f.breaker handle).passage_allow f.clock.read).name_eq
  | acquire handle => exact sound.acquire handle
  | record handle outcome =>
    exact sound.apply ((f.breaker handle).passage_report outcome none f.clock.read).name_eq
  | settle handle permit outcome => exact sound.settle handle permit outcome
  | reset handle => exact sound.reset handle
  | resetNamed name =>
    rw [Fleet.afterUse, Fleet.resetNamed]
    cases f.find? name with
    | none => exact sound
    | some handle => exact sound.reset handle
  | addObserver handle observer => exact sound.apply rfl

/-- However a fleet is used, the breaker under a name was built under it. -/
theorem afterUses (sound : f.IsSound) (uses : List Use) :
    (f.afterUses uses).IsSound := by
  induction uses generalizing f with
  | nil => exact sound
  | cons u rest ih => exact ih (sound.afterUse u)

end IsSound

/-! ## What a call under a name leaves alone -/

/-- Whatever was done under a name was done to the breaker with a handle, which was
registered or is new; the rest of the fleet is as it was. -/
structure OnlyTouches (f : Fleet) (name : String) (handle : Handle) (g : Fleet) : Prop where
  found : g.find? name = some handle
  inside : handle < g.breakers.length
  kept : ∀ old, f.find? name = some old → old = handle
  names : ∀ other, other ≠ name → g.find? other = f.find? other
  breakers : ∀ other, other < f.breakers.length → other ≠ handle →
    g.breaker other = f.breaker other

namespace OnlyTouches

theorem of_finds {built : Breaker} (finds : f.Finds name built handle g) :
    f.OnlyTouches name handle g where
  found := finds.found
  inside := finds.inside
  kept := finds.kept
  names := finds.names
  breakers other inside _ := finds.breakers other inside

theorem apply {β : Type} (h : f.OnlyTouches name handle g) (operation : Breaker → Effect β) :
    f.OnlyTouches name handle (g.apply handle operation).2 where
  found := h.found
  inside := by
    rw [length_apply]
    exact h.inside
  kept := h.kept
  names := h.names
  breakers other inside different := by
    rw [breaker_apply_of_ne operation different]
    exact h.breakers other inside different

theorem turn (h : f.OnlyTouches name handle g) (clock : Clock) :
    f.OnlyTouches name handle { g with clock } :=
  ⟨h.found, h.inside, h.kept, h.names, h.breakers⟩

/-- The other registered breakers are as they were. -/
theorem registered (h : f.OnlyTouches name handle g) (sound : f.IsSound) {other : String}
    {old : Handle} (different : other ≠ name) (found : f.find? other = some old)
    (apart : f.find? name = none → f.breakers.length ≤ handle) :
    g.find? other = some old ∧ g.breaker old = f.breaker old := by
  have inside := sound.inside other old found
  refine ⟨(h.names other different).trans found, h.breakers old inside ?_⟩
  intro same
  subst same
  cases own : f.find? name with
  | none => exact absurd inside (Nat.not_lt.mpr (apart own))
  | some mine =>
    cases h.kept mine own
    exact different (sound.name_eq found own)

end OnlyTouches

/-! ## Guarded calls -/

theorem startCall_snd (f : Fleet) (handle : Handle) :
    (f.startCall handle).2 = (f.acquire handle).2 := by
  rw [startCall]
  rcases f.acquire handle with ⟨_ | _ | _, _⟩ <;> rfl

theorem finishCall_snd {ε α : Type} (f : Fleet) (grant : Grant) (work : WorkEnd ε α) :
    (f.finishCall grant work).2 = (f.settle grant.handle grant.permit work.outcome).2 := by
  rw [finishCall]
  rcases f.settle grant.handle grant.permit work.outcome with ⟨_ | _, _⟩ <;> rfl

section Calls

variable {now : Reading}

theorem startCall_of_refuse (read : f.clock.read = .ok now)
    (refuse : (f.breaker handle).verdict now.instant = .refuse) :
    f.startCall handle = (.refused (f.breaker handle).name, (f.acquire handle).2) := by
  have answer : (f.acquire handle).1 = .ok none := by
    rw [acquire, apply, read, Breaker.acquire_of_refuse refuse]
  rw [startCall]
  generalize f.acquire handle = acquired at answer ⊢
  obtain ⟨_, after⟩ := acquired
  cases answer
  rfl

theorem startCall_of_ne_refuse (read : f.clock.read = .ok now)
    (passes : (f.breaker handle).verdict now.instant ≠ .refuse) :
    ∃ permit, ((f.breaker handle).acquire (.ok now)).answer = .ok (some permit) ∧
      f.startCall handle = (.granted ⟨handle, permit⟩, (f.acquire handle).2) := by
  obtain ⟨permit, issued⟩ := Breaker.acquire_of_ne_refuse passes
  refine ⟨permit, issued, ?_⟩
  have answer : (f.acquire handle).1 = .ok (some permit) := by
    rw [acquire, apply, read]
    exact issued
  rw [startCall]
  generalize f.acquire handle = acquired at answer ⊢
  obtain ⟨_, after⟩ := acquired
  cases answer
  rfl

theorem startCall_of_fault {fault : ClockFault} (read : f.clock.read = .error fault) :
    f.startCall handle = (.faulted fault, f) := by
  have idle : f.acquire handle = (.error fault, f) := by
    rw [acquire, read]
    exact apply_of_idle _ rfl
  rw [startCall, idle]

theorem finishCall_of_settled {ε α : Type} (grant : Grant) (work : WorkEnd ε α)
    (answer : (f.settle grant.handle grant.permit work.outcome).1 = .ok ()) :
    f.finishCall grant work =
      (work.result, (f.settle grant.handle grant.permit work.outcome).2) := by
  rw [finishCall]
  generalize f.settle grant.handle grant.permit work.outcome = settled at answer ⊢
  obtain ⟨_, after⟩ := settled
  cases answer
  rfl

theorem finishCall_of_read {ε α : Type} (read : f.clock.read = .ok now) (grant : Grant)
    (work : WorkEnd ε α) :
    f.finishCall grant work =
      (work.result, (f.settle grant.handle grant.permit work.outcome).2) := by
  apply finishCall_of_settled grant work
  rw [settle, apply, read]
  exact Breaker.report_ok_answer _ _ _ now

end Calls

end Fleet

end GuardedCache.Circuit
