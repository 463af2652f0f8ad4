import GuardedCache.Proofs.Settings.Validation

/-!
# Bindings in layers

What an operation has of its own lies over what is built in for it, and that over what holds
for all operations.  The bindings are made by changing a table while the overrides are gone
through; `IsLayered` says of each operation alone what comes out, and leaves nothing open.

The overrides have no order of their own.  Whatever order they are gone through in, the table is
the same, and none can be made if there is a name that no operation has.  Only if there are
several such names can the order be told: the error gives the first of them.
-/

namespace GuardedCache

open Circuit Protected

/-- Tables with the same entries hold the same, whatever their order. -/
theorem Table.get?_eq_of_perm {κ α : Type} [DecidableEq κ] {t other : Table κ α}
    (same : t.entries.Perm other.entries) (key : κ) : t.get? key = other.get? key := by
  apply Option.ext
  intro value
  rw [← mem_entries_iff, ← mem_entries_iff, same.mem_iff]

/-- The operation that a name stands for is known. -/
def Operation.IsKnown (name : String) : Prop :=
  ∃ operation : Operation, operation.breakerName = name

theorem Operation.isKnown_iff (name : String) :
    IsKnown name ↔ ∃ operation, ofBreakerName? name = some operation := by
  simp only [IsKnown, ofBreakerName?_eq_some_iff]

theorem Operation.not_isKnown_iff (name : String) :
    ¬ IsKnown name ↔ ofBreakerName? name = none := by
  rw [isKnown_iff, ← Option.isSome_iff_exists, Option.not_isSome_iff_eq_none]

/-- A name is the first in a list that no operation has. -/
inductive IsFirstUnknown (name : String) : List String → Prop where
  | here (unknown : ¬ Operation.IsKnown name) (names : List String) :
      IsFirstUnknown name (name :: names)
  | later {other : String} (known : Operation.IsKnown other) {names : List String}
      (first : IsFirstUnknown name names) : IsFirstUnknown name (other :: names)

namespace IsFirstUnknown

variable {name : String} {names : List String}

theorem mem (first : IsFirstUnknown name names) : name ∈ names := by
  induction first with
  | here _ names => exact List.mem_cons_self
  | later _ _ ih => exact List.mem_cons_of_mem _ ih

theorem not_isKnown (first : IsFirstUnknown name names) : ¬ Operation.IsKnown name := by
  induction first with
  | here unknown _ => exact unknown
  | later _ _ ih => exact ih

end IsFirstUnknown

/-- A value in layers: the change if there is one, else what is built in, else the default. -/
def layered {α : Type} (change builtIn : Option α) (default : α) : α :=
  (change.or builtIn).getD default

namespace ProtectedSettings

/-- What an operation has of its own. -/
def own (s : ProtectedSettings) (operation : Operation) : OperationOverride :=
  (s.operations.get? operation.breakerName).getD {}

/-- A configuration that consists of changes, over the one that is built in for an operation,
over the defaults. -/
structure IsLayeredConfig (change : Override) (operation : Operation) (defaults config : Config) :
    Prop where
  failureThreshold : config.failureThreshold =
    layered change.failureThreshold ((builtInConfig operation).map (·.failureThreshold))
      defaults.failureThreshold
  resetTimeoutMs : config.resetTimeoutMs =
    layered change.resetTimeoutMs ((builtInConfig operation).map (·.resetTimeoutMs))
      defaults.resetTimeoutMs
  halfOpenMaxCalls : config.halfOpenMaxCalls =
    layered change.halfOpenMaxCalls ((builtInConfig operation).map (·.halfOpenMaxCalls))
      defaults.halfOpenMaxCalls

/-- The binding of an operation, told from what it has of its own. -/
structure IsLayered (s : ProtectedSettings) (defaults : Config) (operation : Operation)
    (binding : Binding) : Prop where
  timeout : binding.timeout = .ofMillis ((s.own operation).timeoutMs.getD s.timeoutMs).toNat
  unchanged : (s.own operation).breaker = none → binding.breaker = builtInConfig operation
  changed : ∀ change, (s.own operation).breaker = some change →
    ∃ config, binding.breaker = some config ∧
      IsLayeredConfig change operation defaults config

theorem isLayeredConfig_iff (change : Override) (operation : Operation)
    (defaults config : Config) :
    IsLayeredConfig change operation defaults config ↔
      config = change.apply ((builtInConfig operation).getD defaults) := by
  have field {α : Type} (change : Option α) (get : Config → α) :
      layered change ((builtInConfig operation).map get) (get defaults) =
        change.getD (get ((builtInConfig operation).getD defaults)) := by
    cases change <;> cases builtInConfig operation <;> rfl
  constructor
  · rintro ⟨threshold, timeout, calls⟩
    rw [field] at threshold timeout calls
    cases config
    rw [Override.apply, Config.mk.injEq]
    exact ⟨threshold, timeout, calls⟩
  · rintro rfl
    constructor
    · exact (field change.failureThreshold (·.failureThreshold)).symm
    · exact (field change.resetTimeoutMs (·.resetTimeoutMs)).symm
    · exact (field change.halfOpenMaxCalls (·.halfOpenMaxCalls)).symm

/-- What an operation has of its own is laid over what is there before. -/
theorem laidOver_eq_apply_own (s : ProtectedSettings) (defaults : Config)
    (operation : Operation) :
    laidOver defaults s.operations.entries s.baseBindings operation =
      (s.own operation).apply defaults (s.baseBindings operation) := by
  rw [laidOver, own, Table.get?]
  cases Table.find? s.operations.entries operation.breakerName <;> rfl

/-- There is just one binding in layers. -/
theorem isLayered_iff (s : ProtectedSettings) (defaults : Config) (operation : Operation)
    (binding : Binding) :
    s.IsLayered defaults operation binding ↔
      binding = laidOver defaults s.operations.entries s.baseBindings operation := by
  have timeout : ((s.own operation).apply defaults (s.baseBindings operation)).timeout =
      .ofMillis ((s.own operation).timeoutMs.getD s.timeoutMs).toNat := by
    rw [OperationOverride.apply]
    cases (s.own operation).timeoutMs <;> rfl
  rw [laidOver_eq_apply_own]
  constructor
  · rintro ⟨given, unchanged, changed⟩
    have breaker : binding.breaker =
        ((s.own operation).apply defaults (s.baseBindings operation)).breaker := by
      rw [OperationOverride.apply]
      cases own : (s.own operation).breaker with
      | none => exact unchanged own
      | some change =>
        obtain ⟨config, made, layers⟩ := changed change own
        rw [made, (isLayeredConfig_iff change operation defaults config).mp layers]
        rfl
    cases binding
    rw [Binding.mk.injEq]
    exact ⟨given.trans timeout.symm, breaker⟩
  · rintro rfl
    refine ⟨timeout, fun absent => ?_, fun change given => ?_⟩
    · rw [OperationOverride.apply, absent]
      rfl
    · rw [OperationOverride.apply, given]
      exact ⟨_, rfl, (isLayeredConfig_iff change operation defaults _).mpr rfl⟩

/-- Laying the entries over one by one fails at the first one whose name is not known. -/
theorem foldlM_bind_eq_error_iff {defaults : Config}
    {entries : List (String × OperationOverride)} {base : BindingTable}
    {problem : SettingsProblem} :
    entries.foldlM (bind defaults) base = .error problem ↔
      ∃ name, IsFirstUnknown name (entries.map Prod.fst) ∧ problem = .unknownOperation name := by
  induction entries generalizing base with
  | nil =>
    constructor
    · intro fails
      cases fails
    · rintro ⟨name, first, _⟩
      cases first
  | cons entry entries ih =>
    rw [List.foldlM_cons, bind, List.map_cons]
    cases found : Operation.ofBreakerName? entry.1 with
    | none =>
      have unknown := (Operation.not_isKnown_iff entry.1).mpr found
      constructor
      · intro fails
        cases fails
        exact ⟨entry.1, .here unknown _, rfl⟩
      · rintro ⟨name, first, rfl⟩
        cases first with
        | here _ _ => rfl
        | later known _ => exact absurd known unknown
    | some operation =>
      have known := (Operation.isKnown_iff entry.1).mpr ⟨operation, found⟩
      refine ih.trans ⟨?_, ?_⟩
      · rintro ⟨name, first, same⟩
        exact ⟨name, .later known first, same⟩
      · rintro ⟨name, first, same⟩
        cases first with
        | here unknown _ => exact absurd known unknown
        | later _ first => exact ⟨name, first, same⟩

variable {s : ProtectedSettings} {defaults : Config}

theorem bindings_eq_ok_iff (table : BindingTable) :
    s.bindings defaults = .ok table ↔
      (∀ name ∈ s.operations.keys, Operation.IsKnown name) ∧
        ∀ operation, s.IsLayered defaults operation (table operation) := by
  rw [bindings, foldlM_bind_eq_ok_iff s.operations.distinct]
  simp only [isLayered_iff, ← funext_iff, Table.keys, List.forall_mem_map, Operation.isKnown_iff]

theorem bindings_eq_error_iff (problem : SettingsProblem) :
    s.bindings defaults = .error problem ↔
      ∃ name, IsFirstUnknown name s.operations.keys ∧ problem = .unknownOperation name :=
  foldlM_bind_eq_error_iff

theorem bindings_fail_iff :
    (∃ problem, s.bindings defaults = .error problem) ↔
      ∃ name ∈ s.operations.keys, ¬ Operation.IsKnown name := by
  constructor
  · rintro ⟨problem, fails⟩
    obtain ⟨name, first, _⟩ := (bindings_eq_error_iff problem).mp fails
    exact ⟨name, first.mem, first.not_isKnown⟩
  · rintro ⟨name, member, unknown⟩
    cases result : s.bindings defaults with
    | error problem => exact ⟨problem, rfl⟩
    | ok table =>
      obtain ⟨known, _⟩ := (bindings_eq_ok_iff table).mp result
      exact absurd (known name member) unknown

/-- The same settings, with the operations in another order. -/
structure Reorders (s other : ProtectedSettings) : Prop where
  timeout : other.timeoutMs = s.timeoutMs
  operations : other.operations.entries.Perm s.operations.entries

/-- Both settings fail since names are unknown, and their errors give different ones: each the
first in its own order. -/
def BlamesAnother (s other : ProtectedSettings) (defaults : Config) : Prop :=
  ∃ name another, name ≠ another ∧ IsFirstUnknown name s.operations.keys ∧
    IsFirstUnknown another other.operations.keys ∧
    s.bindings defaults = .error (.unknownOperation name) ∧
    other.bindings defaults = .error (.unknownOperation another)

namespace Reorders

variable {other : ProtectedSettings}

theorem mem_keys_iff (h : s.Reorders other) (name : String) :
    name ∈ other.operations.keys ↔ name ∈ s.operations.keys :=
  (h.operations.map Prod.fst).mem_iff

theorem isLayered_iff (h : s.Reorders other) (operation : Operation) (binding : Binding) :
    other.IsLayered defaults operation binding ↔ s.IsLayered defaults operation binding := by
  have own : other.own operation = s.own operation := by
    rw [ProtectedSettings.own, ProtectedSettings.own, Table.get?_eq_of_perm h.operations]
  constructor
  · rintro ⟨timeout, unchanged, changed⟩
    rw [own] at timeout unchanged changed
    exact ⟨h.timeout ▸ timeout, unchanged, changed⟩
  · rintro ⟨timeout, unchanged, changed⟩
    rw [← own] at timeout unchanged changed
    exact ⟨h.timeout ▸ timeout, unchanged, changed⟩

/-- The order makes no difference to the table. -/
theorem bindings_eq_ok_iff (h : s.Reorders other) (table : BindingTable) :
    other.bindings defaults = .ok table ↔ s.bindings defaults = .ok table := by
  simp only [ProtectedSettings.bindings_eq_ok_iff, h.mem_keys_iff, h.isLayered_iff]

/-- The order makes no difference but for the unknown name that the error gives. -/
theorem bindings_eq_or (h : s.Reorders other) (defaults : Config) :
    other.bindings defaults = s.bindings defaults ∨ s.BlamesAnother other defaults := by
  cases here : s.bindings defaults with
  | ok table => exact .inl ((h.bindings_eq_ok_iff table).mpr here)
  | error problem =>
    cases there : other.bindings defaults with
    | ok table => cases here.symm.trans ((h.bindings_eq_ok_iff table).mp there)
    | error second =>
      obtain ⟨name, first, rfl⟩ := (bindings_eq_error_iff problem).mp here
      obtain ⟨another, firstToo, rfl⟩ := (bindings_eq_error_iff second).mp there
      by_cases same : name = another
      · exact .inl (by rw [same])
      · exact .inr ⟨name, another, same, first, firstToo, here, there⟩

end Reorders

/-- The bindings are the layers, in whatever order the operations are listed. -/
structure LayeredMerge (s : ProtectedSettings) (defaults : Config) : Prop where
  fails_iff : (∃ problem, s.bindings defaults = .error problem) ↔
    ∃ name ∈ s.operations.keys, ¬ Operation.IsKnown name
  error_iff : ∀ problem, s.bindings defaults = .error problem ↔
    ∃ name, IsFirstUnknown name s.operations.keys ∧ problem = .unknownOperation name
  table_iff : ∀ table, s.bindings defaults = .ok table ↔
    (∀ name ∈ s.operations.keys, Operation.IsKnown name) ∧
      ∀ operation, s.IsLayered defaults operation (table operation)
  order_free : ∀ other, s.Reorders other →
    other.bindings defaults = s.bindings defaults ∨ s.BlamesAnother other defaults

/-- Whatever the settings and the defaults are, the bindings are the layers. -/
theorem bindings_layered (s : ProtectedSettings) (defaults : Config) :
    s.LayeredMerge defaults where
  fails_iff := bindings_fail_iff
  error_iff := bindings_eq_error_iff
  table_iff := bindings_eq_ok_iff
  order_free _ h := h.bindings_eq_or defaults

/-- Two names that are nearly those of operations: the error gives the one that comes first. -/
theorem bindings_depend_on_order :
    ¬ ∀ (s other : ProtectedSettings) (defaults : Config), s.Reorders other →
      other.bindings defaults = s.bindings defaults := by
  intro all
  let s : ProtectedSettings := { operations := .ofList [("get-message", {}), ("set-message", {})] }
  let other : ProtectedSettings :=
    { operations := .ofList [("set-message", {}), ("get-message", {})] }
  have reorders : s.Reorders other := ⟨rfl, List.Perm.swap ..⟩
  have same : (.error (.unknownOperation "set-message") : Except SettingsProblem BindingTable) =
      .error (.unknownOperation "get-message") := all s other {} reorders
  have names : "set-message" = "get-message" :=
    SettingsProblem.unknownOperation.inj (Except.error.inj same)
  exact absurd names (by decide)

end ProtectedSettings

end GuardedCache
