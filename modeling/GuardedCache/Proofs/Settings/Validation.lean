import GuardedCache.Settings.Basic

/-!
# What settings are good for

Settings are looked at twice: `problem` searches them for a mistake, and `bindings` lays
what the operations have of their own over what is built in.  The search lays the changes
of a breaker over the defaults of all breakers, also where a configuration is built in.
That makes no difference: no configuration that changes are laid over has a zero, so a
zero can only come from the changes themselves.

The bindings do not depend on the order in which the operations are listed: `laidOver` is
the table that comes out.
-/

namespace GuardedCache

open Circuit Protected

/-! ## Names of operations -/

namespace Operation

theorem ofBreakerName?_eq_some_iff {name : String} {operation : Operation} :
    ofBreakerName? name = some operation ↔ operation.breakerName = name := by
  constructor
  · intro found
    simpa using List.find?_some found
  · rintro rfl
    exact ofBreakerName?_breakerName operation

end Operation

/-! ## Configurations without zeros -/

namespace Circuit

/-- No field is changed to zero. -/
structure Override.IsPositive (o : Override) : Prop where
  failureThreshold : o.failureThreshold ≠ some 0
  resetTimeoutMs : o.resetTimeoutMs ≠ some 0
  halfOpenMaxCalls : o.halfOpenMaxCalls ≠ some 0

theorem getD_ne_iff {α : Type} {base zero : α} (nonzero : base ≠ zero) (change : Option α) :
    change.getD base ≠ zero ↔ change ≠ some zero := by
  cases change with
  | none => simp [nonzero]
  | some value => simp

/-- Changes of a configuration without zeros bring in no other zeros than their own. -/
theorem Override.invalidField_apply_eq_none_iff (o : Override) {base : Config}
    (valid : base.invalidField = none) : (o.apply base).invalidField = none ↔ o.IsPositive := by
  obtain ⟨threshold, timeout, calls⟩ := base.invalidField_eq_none_iff.mp valid
  rw [Config.invalidField_eq_none_iff]
  simp only [Override.apply, getD_ne_iff threshold, getD_ne_iff timeout, getD_ne_iff calls]
  exact ⟨fun ⟨a, b, c⟩ => ⟨a, b, c⟩, fun ⟨a, b, c⟩ => ⟨a, b, c⟩⟩

end Circuit

namespace Protected

/-- A binding that its operation can run with. -/
structure Binding.IsUsable (binding : Binding) : Prop where
  timeout : binding.timeout ≠ .zero
  breaker : ∀ config, binding.breaker = some config → config.invalidField = none

theorem invalidField_builtInConfig {operation : Operation} {config : Config}
    (builtIn : builtInConfig operation = some config) : config.invalidField = none := by
  cases operation with
  | setMessage =>
    cases builtIn
    decide
  | _ => cases builtIn

end Protected

theorem Duration.ofMillis_ne_zero_iff {millis : UInt64} :
    Duration.ofMillis millis.toNat ≠ .zero ↔ millis ≠ 0 := by
  rw [Duration.ofMillis, Duration.zero, ne_eq, ne_eq, Duration.mk.injEq, ← UInt64.toNat_inj,
    UInt64.toNat_zero, nanosPerMilli]
  omega

/-! ## What the operations have of their own -/

/-- An override brings in no zero. -/
structure OperationOverride.IsPositive (o : OperationOverride) : Prop where
  timeout : o.timeoutMs ≠ some 0
  breaker : ∀ change, o.breaker = some change → change.IsPositive

namespace OperationOverride

variable {defaults : Config} (valid : defaults.invalidField = none)

include valid

/-- Nothing is wrong with an override if its operation is known and it brings in no zero. -/
theorem problem_eq_none_iff (o : OperationOverride) (name : String) :
    o.problem name defaults = none ↔
      (∃ operation, Operation.ofBreakerName? name = some operation) ∧ o.IsPositive := by
  have changes : (do
      let change ← o.breaker
      let field ← (change.apply defaults).invalidField
      return SettingsProblem.operationBreaker name field) = none ↔
      ∀ change, o.breaker = some change → change.IsPositive := by
    cases o.breaker with
    | none => simp
    | some change =>
      have positive := change.invalidField_apply_eq_none_iff valid
      simp only [Option.bind_eq_bind, Option.bind_some, Option.some.injEq, forall_eq', ← positive]
      cases (change.apply defaults).invalidField <;> simp
  rw [problem, ← Option.isSome_iff_exists]
  cases known : Operation.ofBreakerName? name with
  | none => simp
  | some operation =>
    by_cases zero : o.timeoutMs = some 0
    · simp only [Option.isNone_some, Bool.false_eq_true, if_false, if_pos zero]
      exact ⟨nofun, fun ⟨_, positive⟩ => absurd zero positive.timeout⟩
    · simp only [Option.isNone_some, Bool.false_eq_true, if_false, if_neg zero, changes,
        Option.isSome_some, true_and]
      exact ⟨fun breaker => ⟨zero, breaker⟩, fun positive => positive.breaker⟩

/-- A binding that could be used before can be used with an override that brings in no
zero. -/
theorem isUsable_apply_iff (o : OperationOverride) {binding : Binding}
    (usable : binding.IsUsable) : (o.apply defaults binding).IsUsable ↔ o.IsPositive := by
  have timeout : (o.apply defaults binding).timeout ≠ .zero ↔ o.timeoutMs ≠ some 0 := by
    rw [apply]
    cases o.timeoutMs with
    | none => simp [usable.timeout]
    | some millis => simp [← Duration.ofMillis_ne_zero_iff]
  have base : (binding.breaker.getD defaults).invalidField = none := by
    cases own : binding.breaker with
    | none => exact valid
    | some config => exact usable.breaker config own
  have breaker : (∀ config, (o.apply defaults binding).breaker = some config →
      config.invalidField = none) ↔ ∀ change, o.breaker = some change → change.IsPositive := by
    rw [apply]
    cases o.breaker with
    | none => simpa using usable.breaker
    | some change => simp [change.invalidField_apply_eq_none_iff base]
  exact ⟨fun h => ⟨timeout.mp h.timeout, breaker.mp h.breaker⟩,
    fun h => ⟨timeout.mpr h.timeout, breaker.mpr h.breaker⟩⟩

end OperationOverride

/-! ## The table of bindings -/

/-- The table in which every listed operation has what it has of its own. -/
def laidOver (defaults : Config) (entries : List (String × OperationOverride))
    (table : BindingTable) : BindingTable :=
  fun operation =>
    match Table.find? entries operation.breakerName with
    | some o => o.apply defaults (table operation)
    | none => table operation

theorem laidOver_nil (defaults : Config) (table : BindingTable) :
    laidOver defaults [] table = table := rfl

theorem laidOver_cons {defaults : Config} {name : String} {o : OperationOverride}
    {entries : List (String × OperationOverride)} {operation : Operation}
    (known : operation.breakerName = name) (distinct : name ∉ entries.map Prod.fst)
    (table : BindingTable) :
    laidOver defaults ((name, o) :: entries) table =
      laidOver defaults entries
        (table.set operation (o.apply defaults (table operation))) := by
  funext other
  subst known
  rw [laidOver, laidOver, Table.find?, BindingTable.set]
  by_cases same : other = operation
  · subst same
    rw [if_pos rfl, if_pos rfl, Table.find?_eq_none_of_notMem distinct]
  · rw [if_neg fun name => same (Operation.breakerName_injective name).symm, if_neg same]

/-- Laying the entries over one by one succeeds if every one of them is known. -/
theorem foldlM_bind_eq_ok_iff {defaults : Config} {entries : List (String × OperationOverride)}
    (distinct : (entries.map Prod.fst).Nodup) (base result : BindingTable) :
    entries.foldlM (ProtectedSettings.bind defaults) base = .ok result ↔
      (∀ entry ∈ entries, ∃ operation, Operation.ofBreakerName? entry.1 = some operation) ∧
        result = laidOver defaults entries base := by
  induction entries generalizing base with
  | nil => simp [laidOver_nil, pure, Except.pure, eq_comm]
  | cons entry entries ih =>
    obtain ⟨name, o⟩ := entry
    obtain ⟨absent, distinct⟩ := List.nodup_cons.mp distinct
    rw [List.foldlM_cons, ProtectedSettings.bind, List.forall_mem_cons]
    cases known : Operation.ofBreakerName? name with
    | none =>
      simp [bind, Except.bind]
    | some operation =>
      rw [laidOver_cons (Operation.ofBreakerName?_eq_some_iff.mp known) absent]
      simpa [bind, Except.bind] using ih distinct _

namespace Settings

/-- The table that the bindings make up. -/
def bindingTable (s : Settings) : BindingTable :=
  laidOver s.breaker s.protectedCache.operations.entries s.protectedCache.baseBindings

theorem bindings_eq_ok_iff (s : Settings) (table : BindingTable) :
    s.bindings = .ok table ↔
      (∀ entry ∈ s.protectedCache.operations.entries,
        ∃ operation, Operation.ofBreakerName? entry.1 = some operation) ∧
          table = s.bindingTable :=
  foldlM_bind_eq_ok_iff s.protectedCache.operations.distinct s.protectedCache.baseBindings table

theorem isUsable_baseBindings {s : ProtectedSettings} (timeout : s.timeoutMs ≠ 0)
    (operation : Operation) : (s.baseBindings operation).IsUsable where
  timeout := Duration.ofMillis_ne_zero_iff.mpr timeout
  breaker _ builtIn := invalidField_builtInConfig builtIn

/-- Every binding of the table is usable if no override brings in a zero. -/
theorem isUsable_bindingTable_iff {s : Settings} (valid : s.breaker.invalidField = none)
    (timeout : s.protectedCache.timeoutMs ≠ 0)
    (known : ∀ entry ∈ s.protectedCache.operations.entries,
      ∃ operation, Operation.ofBreakerName? entry.1 = some operation) :
    (∀ operation, (s.bindingTable operation).IsUsable) ↔
      ∀ entry ∈ s.protectedCache.operations.entries, entry.2.IsPositive := by
  have listed (operation : Operation) (o : OperationOverride) :
      (operation.breakerName, o) ∈ s.protectedCache.operations.entries ↔
        Table.find? s.protectedCache.operations.entries operation.breakerName = some o :=
    Table.mem_iff_find? s.protectedCache.operations.distinct
  have base := isUsable_baseBindings timeout
  constructor
  · rintro usable ⟨name, o⟩ member
    obtain ⟨operation, own⟩ := known _ member
    rw [Operation.ofBreakerName?_eq_some_iff] at own
    subst own
    have own := usable operation
    rw [bindingTable, laidOver, (listed operation o).mp member] at own
    exact (o.isUsable_apply_iff valid (base operation)).mp own
  · intro positive operation
    rw [bindingTable, laidOver]
    cases own : Table.find? s.protectedCache.operations.entries operation.breakerName with
    | none => exact base operation
    | some o =>
      have member := (listed operation o).mpr own
      exact (o.isUsable_apply_iff valid (base operation)).mpr (positive _ member)

end Settings

/-! ## Settings that the service can run with -/

/-- The server can be reached by its address, and keeps what it is told to keep. -/
structure RedisSettings.IsUsable (r : RedisSettings) : Prop where
  scheme : "redis://".isPrefixOf r.url ∨ "rediss://".isPrefixOf r.url
  message : r.messageTtlSecs ≠ 0
  history : r.historyTtlSecs ≠ 0

theorem RedisSettings.problem_eq_none_iff (r : RedisSettings) :
    r.problem = none ↔ r.IsUsable := by
  rw [problem]
  by_cases scheme : "redis://".isPrefixOf r.url ∨ "rediss://".isPrefixOf r.url
  · rw [if_neg (not_not_intro scheme)]
    by_cases zero : r.messageTtlSecs = 0 ∨ r.historyTtlSecs = 0
    · rw [if_pos zero]
      exact ⟨nofun, fun usable => absurd zero (not_or.mpr ⟨usable.message, usable.history⟩)⟩
    · rw [if_neg zero]
      exact ⟨fun _ => ⟨scheme, (not_or.mp zero).1, (not_or.mp zero).2⟩, fun _ => rfl⟩
  · rw [if_pos scheme]
    exact ⟨nofun, fun usable => absurd usable.scheme scheme⟩

namespace Settings

/-- What the service runs with has no zero where one would be out of place. -/
structure IsRunnable (s : Settings) : Prop where
  defaults : s.breaker.failureThreshold ≠ 0 ∧ s.breaker.resetTimeoutMs ≠ 0 ∧
    s.breaker.halfOpenMaxCalls ≠ 0
  timeout : s.protectedCache.timeoutMs ≠ 0
  table : ∃ table, s.bindings = .ok table ∧ ∀ operation, (table operation).IsUsable
  redis : ∀ r, s.redis = some r → r.IsUsable

/-- The search for a mistake in the overrides ends without one if the table of bindings can
be made and is usable. -/
theorem overrides_eq_none_iff {s : Settings} (valid : s.breaker.invalidField = none)
    (timeout : s.protectedCache.timeoutMs ≠ 0) :
    (s.protectedCache.operations.entries.findSome? fun (name, o) => o.problem name s.breaker) =
        none ↔
      ∃ table, s.bindings = .ok table ∧ ∀ operation, (table operation).IsUsable := by
  simp only [List.findSome?_eq_none_iff, OperationOverride.problem_eq_none_iff valid,
    bindings_eq_ok_iff]
  constructor
  · intro sound
    have known := fun entry member => (sound entry member).1
    refine ⟨s.bindingTable, ⟨known, rfl⟩, ?_⟩
    rw [isUsable_bindingTable_iff valid timeout known]
    exact fun entry member => (sound entry member).2
  · rintro ⟨_, ⟨known, rfl⟩, usable⟩ entry member
    rw [isUsable_bindingTable_iff valid timeout known] at usable
    exact ⟨known entry member, usable entry member⟩

theorem redis_eq_none_iff (s : Settings) :
    s.redis.bind RedisSettings.problem = none ↔ ∀ r, s.redis = some r → r.IsUsable := by
  simp only [Option.bind_eq_none_iff, RedisSettings.problem_eq_none_iff]

theorem isRunnable_of_sound {s : Settings} (sound : s.problem = none) : s.IsRunnable := by
  simp only [problem, Option.or_eq_none_iff, Option.map_eq_none_iff, redis_eq_none_iff] at sound
  obtain ⟨valid, timeout, overrides, redis⟩ := sound
  have timeout : s.protectedCache.timeoutMs ≠ 0 := by simpa using timeout
  exact {
    defaults := s.breaker.invalidField_eq_none_iff.mp valid
    timeout := timeout
    table := (overrides_eq_none_iff valid timeout).mp overrides
    redis := redis }

theorem IsRunnable.problem_eq_none {s : Settings} (runnable : s.IsRunnable) :
    s.problem = none := by
  have valid := s.breaker.invalidField_eq_none_iff.mpr runnable.defaults
  simp only [problem, Option.or_eq_none_iff, Option.map_eq_none_iff, redis_eq_none_iff]
  refine ⟨valid, if_neg runnable.timeout, ?_, runnable.redis⟩
  exact (overrides_eq_none_iff valid runnable.timeout).mpr runnable.table

/-- Nothing is found to be wrong with settings exactly if the service can run with them. -/
theorem problem_eq_none_iff_isRunnable (s : Settings) : s.problem = none ↔ s.IsRunnable :=
  ⟨isRunnable_of_sound, IsRunnable.problem_eq_none⟩

end Settings

end GuardedCache
