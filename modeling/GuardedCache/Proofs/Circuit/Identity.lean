import GuardedCache.Proofs.Circuit.Usage

/-!
# Names and the breakers behind them

A registry has at most one breaker for a name, and a breaker at most one name.  As long
as a name is not removed, whoever asks for it gets the same breaker.  A breaker that was
removed is never handed out again.  It keeps its configuration for good, as every
breaker does: the one that was asked for when it was made, with its zeros replaced.
All copies of a registry share its names, so they are one registry here.
-/

namespace GuardedCache.Circuit

namespace Fleet

/-- The breakers that a user gets with an answer. -/
def Told.handles : Told → List Handle
  | .looked (.ok handle) => [handle]
  | .found handle => handle.toList
  | .listed entries => entries.map Prod.snd
  | _ => []

/-- A use that asks for the breaker under a name. -/
def Use.Seeks (name : String) : Use → Prop
  | .lookup other _ => other = name
  | .find other => other = name
  | _ => False

variable {f : Fleet} {u : Use} {handle : Handle} {name : String}

theorem mem_sorted_iff (f : Fleet) (name : String) (handle : Handle) :
    (name, handle) ∈ f.registry.sorted ↔ f.find? name = some handle := by
  rw [Registry.sorted, List.mem_mergeSort]
  exact f.registry.names.mem_entries_iff name handle

/-! ## A name that is not removed -/

theorem find?_afterUse (found : f.find? name = some handle) (kept : u ≠ .remove name) :
    (f.afterUse u).find? name = some handle := by
  have deed := f.deed u
  generalize f.afterUse u = g at deed ⊢
  cases deed with
  | turned clock turns aimless => exact found
  | idle aimless => exact found
  | forgot other =>
    have different : name ≠ other := fun same => kept (congrArg Use.remove same.symm)
    rw [find?, remove, Table.get?_erase, if_neg different]
    exact found
  | built built makes aimless => exact found
  | adopted other built makes aimless missing =>
    have different : name ≠ other := by
      rintro rfl
      cases found.symm.trans missing
    rw [find?_adopt, if_neg different]
    exact found
  | worked target operation byReset aimed joinless passage => exact found
  | joined target observer => exact found

theorem find?_afterUses {uses : List Use} (found : f.find? name = some handle)
    (kept : .remove name ∉ uses) : (f.afterUses uses).find? name = some handle := by
  induction uses generalizing f with
  | nil => exact found
  | cons u rest ih =>
    rw [List.mem_cons, not_or] at kept
    exact ih (find?_afterUse found (Ne.symm kept.1)) kept.2

theorem lookup_of_found (found : f.find? name = some handle) (options : Options) :
    f.lookup name options = (.ok handle, f) := by
  rw [lookup, found]

/-- Who asks for a name that is registered gets its breaker, whatever the options. -/
theorem handles_of_found (seeks : u.Seeks name) (found : f.find? name = some handle) :
    (f.told u).handles = [handle] := by
  cases u with
  | lookup other options =>
    cases seeks
    rw [told, lookup_of_found found, Told.handles]
  | find other =>
    cases seeks
    rw [told, found, Told.handles, Option.toList_some]
  | _ => cases seeks

theorem told_of_makes {built : Breaker} (makes : f.Makes u built) :
    f.told u = .looked (.ok f.breakers.length) := by
  cases makes with
  | built name config observers now read =>
    rw [told, build, read]
  | looked name options now read missing =>
    rw [told, lookup, missing, build, read]

/-- The breaker that is handed out under a name is registered under it. -/
theorem find?_of_mem_handles (seeks : u.Seeks name) (member : handle ∈ (f.told u).handles) :
    (f.afterUse u).find? name = some handle := by
  cases u with
  | lookup other options =>
    cases seeks
    rw [told] at member
    rw [afterUse]
    cases missing : f.find? name with
    | some old =>
      rw [lookup_of_found missing] at member ⊢
      rw [List.mem_singleton.mp member]
      exact missing
    | none =>
      rw [lookup, missing, build] at member ⊢
      cases read : f.clock.read with
      | error fault =>
        rw [read] at member
        cases member
      | ok now =>
        rw [read] at member
        rw [List.mem_singleton.mp member]
        exact (f.find?_adopt name name _).trans (if_pos rfl)
  | find other =>
    cases seeks
    exact Option.mem_toList.mp member
  | _ => cases seeks

/-! ## A breaker that was removed -/

/-- A breaker that was made and is not registered. -/
structure IsGone (f : Fleet) (handle : Handle) : Prop where
  inside : handle < f.breakers.length
  unregistered : ∀ name, f.find? name ≠ some handle

namespace IsGone

theorem afterUse (gone : f.IsGone handle) (u : Use) : (f.afterUse u).IsGone handle := by
  refine ⟨Nat.lt_of_lt_of_le gone.inside (f.length_le_afterUse u), fun name found => ?_⟩
  have deed := f.deed u
  generalize f.afterUse u = g at deed found
  cases deed with
  | turned clock turns aimless => exact gone.unregistered name found
  | idle aimless => exact gone.unregistered name found
  | forgot other =>
    rw [find?, remove, Table.get?_erase] at found
    by_cases same : name = other
    · rw [if_pos same] at found
      cases found
    · rw [if_neg same] at found
      exact gone.unregistered name found
  | built built makes aimless => exact gone.unregistered name found
  | adopted other built makes aimless missing =>
    -- only a breaker that was just made is registered
    rw [find?_adopt] at found
    by_cases same : name = other
    · rw [if_pos same] at found
      cases found
      exact Nat.lt_irrefl _ gone.inside
    · rw [if_neg same] at found
      exact gone.unregistered name found
  | worked target operation byReset aimed joinless passage => exact gone.unregistered name found
  | joined target observer => exact gone.unregistered name found

theorem afterUses (gone : f.IsGone handle) (uses : List Use) :
    (f.afterUses uses).IsGone handle :=
  afterUses_induction (P := fun g => g.IsGone handle) gone (fun _ u gone => gone.afterUse u) uses

theorem notMem_handles (gone : f.IsGone handle) (u : Use) : handle ∉ (f.told u).handles := by
  intro member
  cases u with
  | build name config observers =>
    rw [told, build] at member
    cases read : f.clock.read with
    | error fault =>
      rw [read] at member
      cases member
    | ok now =>
      rw [read] at member
      cases List.mem_singleton.mp member
      exact Nat.lt_irrefl _ gone.inside
  | lookup name options =>
    exact (gone.afterUse (.lookup name options)).unregistered name
      (find?_of_mem_handles rfl member)
  | find name => exact gone.unregistered name (Option.mem_toList.mp member)
  | list =>
    obtain ⟨⟨name, other⟩, listed, rfl⟩ := List.mem_map.mp member
    exact gone.unregistered name ((f.mem_sorted_iff name other).mp listed)
  | remove name => exact gone.unregistered name (Option.mem_toList.mp member)
  | _ => cases member

end IsGone

theorem IsSound.isGone_remove (sound : f.IsSound) (found : f.find? name = some handle) :
    (f.remove name).2.IsGone handle := by
  refine ⟨sound.inside name handle found, fun other also => ?_⟩
  rw [find?, Fleet.remove, Table.get?_erase] at also
  by_cases same : other = name
  · rw [if_pos same] at also
    cases also
  · rw [if_neg same] at also
    exact same (sound.name_eq also found)

/-! ## Where breakers come from -/

/-- A breaker was made during a run, by a lookup or outside the registry, and at its end
it is what it was made to be. -/
inductive IsBorn (f : Fleet) (uses : List Use) (handle : Handle) : Prop where
  | looked (before : List Use) (name : String) (options : Options) (after : List Use)
      (split : uses = before ++ .lookup name options :: after)
      (missing : (f.afterUses before).find? name = none)
      (answer : (f.afterUses before).told (.lookup name options) = .looked (.ok handle))
      (named : ((f.afterUses uses).breaker handle).name = name)
      (config : ((f.afterUses uses).breaker handle).config =
        (options.config.getD f.registry.defaults).sanitize)
      (observers : ((f.afterUses uses).breaker handle).observers =
        f.registry.observers ++ options.observer.toList ++ after.flatMap (·.joining handle))
  | built (before : List Use) (name : String) (asked : Config) (founders : List Observer)
      (after : List Use) (split : uses = before ++ .build name asked founders :: after)
      (answer : (f.afterUses before).told (.build name asked founders) = .looked (.ok handle))
      (named : ((f.afterUses uses).breaker handle).name = name)
      (config : ((f.afterUses uses).breaker handle).config = asked.sanitize)
      (observers : ((f.afterUses uses).breaker handle).observers =
        founders ++ after.flatMap (·.joining handle))

theorem isBorn {uses : List Use} (outside : f.breakers.length ≤ handle)
    (inside : handle < (f.afterUses uses).breakers.length) : f.IsBorn uses handle := by
  obtain ⟨before, u, after, built, rfl, here, makes, more, last⟩ := exists_makes outside inside
  have answer := told_of_makes makes
  rw [here] at answer
  have made : handle < ((f.afterUses before).afterUse u).breakers.length := by
    rw [more]
    exact Nat.lt_succ_self handle
  have settled := settled_afterUses after made
  rw [last, ← afterUses_cons, ← afterUses_append] at settled
  obtain ⟨defaults, founders⟩ := f.registry_afterUses before
  cases makes with
  | built name config observers now read =>
    exact .built before name config observers after rfl answer settled.name_eq
      settled.config_eq settled.observers_eq
  | looked name options now read missing =>
    refine .looked before name options after rfl missing answer settled.name_eq ?_ ?_
    · rw [settled.config_eq, ← defaults]
      rfl
    · rw [settled.observers_eq, ← founders]
      rfl

/-! ## Everything together -/

/-- What a run of uses does to names and breakers, whoever asks for them. -/
structure KeepsInstances (f : Fleet) (uses : List Use) : Prop where
  listed : ∀ name handle, (name, handle) ∈ (f.afterUses uses).registry.sorted ↔
    (f.afterUses uses).find? name = some handle
  /-- A name has at most one breaker. -/
  unique : ((f.afterUses uses).registry.sorted.map Prod.fst).Nodup
  named : ∀ name handle, (f.afterUses uses).find? name = some handle →
    handle < (f.afterUses uses).breakers.length ∧
      ((f.afterUses uses).breaker handle).name = name
  /-- A breaker has at most one name. -/
  single : ∀ name other handle, (f.afterUses uses).find? name = some handle →
    (f.afterUses uses).find? other = some handle → name = other
  /-- Whoever looks up a name while the clock can be read gets a breaker. -/
  answered : ∀ before name options after now,
    uses = before ++ .lookup name options :: after →
      (f.afterUses before).clock.read = .ok now →
        ∃ handle, (f.afterUses before).told (.lookup name options) = .looked (.ok handle)
  /-- Between two removals a name stands for one breaker. -/
  same : ∀ before first between second after name handle,
    uses = before ++ first :: between ++ second :: after →
      first.Seeks name → second.Seeks name → .remove name ∉ between →
        handle ∈ ((f.afterUses before).told first).handles →
          ((f.afterUses (before ++ first :: between)).told second).handles = [handle]
  /-- Nobody gets a breaker that was removed. -/
  gone : ∀ before name between u after handle,
    uses = before ++ .remove name :: between ++ u :: after →
      (f.afterUses before).told (.remove name) = .found (some handle) →
        handle ∉ ((f.afterUses (before ++ .remove name :: between)).told u).handles
  origin : ∀ handle < (f.afterUses uses).breakers.length, f.IsBorn uses handle

theorem nodup_sorted (f : Fleet) : (f.registry.sorted.map Prod.fst).Nodup := by
  have reordered : f.registry.sorted.Perm f.registry.names.entries := List.mergeSort_perm _ _
  exact (reordered.map Prod.fst).nodup_iff.mpr f.registry.names.distinct

/-- In every run that begins without breakers a name leads to one breaker until it is
removed, a breaker that was removed is not handed out again, and every breaker keeps
what it was made with. -/
theorem instances_kept (clock : Clock) (defaults : Config) (observers : List Observer)
    (uses : List Use) : (unused clock defaults observers).KeepsInstances uses where
  listed name handle := mem_sorted_iff _ name handle
  unique := nodup_sorted _
  named name handle found :=
    have sound := (isSound_unused clock defaults observers).afterUses uses
    ⟨sound.inside name handle found, sound.named name handle found⟩
  single name other handle found also :=
    ((isSound_unused clock defaults observers).afterUses uses).name_eq found also
  answered before name options after now _ read := by
    have sound := (isSound_unused clock defaults observers).afterUses before
    obtain ⟨handle, g, looked, _⟩ := sound.lookup name options read
    refine ⟨handle, ?_⟩
    rw [told, looked]
  same before first between second after name handle _ seeks again kept member := by
    have found := find?_of_mem_handles seeks member
    have still := find?_afterUses found kept
    rw [← afterUses_cons, ← afterUses_append] at still
    exact handles_of_found again still
  gone before name between u after handle _ answer := by
    have sound := (isSound_unused clock defaults observers).afterUses before
    have gone := (sound.isGone_remove (Told.found.inj answer)).afterUses between
    rw [afterUses_append]
    exact gone.notMem_handles u
  origin handle inside := isBorn (Nat.zero_le _) inside

end Fleet

end GuardedCache.Circuit
