import GuardedCache.Time.Duration

/-!
# Breaker configuration

A breaker opens after a number of consecutive failures, stays open for a time,
and then lets a number of probe calls through.  A zero in any of the three
fields would wedge it: `invalidField` reports the first one and `sanitize`
replaces each by its default.
-/

namespace GuardedCache.Circuit

/-- The greatest number of milliseconds that a reset timeout can hold. -/
def maxMillis : Nat := UInt64.size - 1

structure Config where
  /-- Consecutive failures that open a closed circuit. -/
  failureThreshold : UInt32 := 5
  /-- How long an opened circuit refuses calls, in milliseconds. -/
  resetTimeoutMs : UInt64 := 10000
  /-- Probes that a half-open circuit allows, and successes that close it. -/
  halfOpenMaxCalls : UInt32 := 1
deriving DecidableEq, Repr, Inhabited

namespace Config

/-- A field that must not be zero. -/
inductive Field where
  | failureThreshold
  | resetTimeoutMs
  | halfOpenMaxCalls
deriving DecidableEq, Repr

def Field.name : Field → String
  | .failureThreshold => "failure_threshold"
  | .resetTimeoutMs => "reset_timeout_ms"
  | .halfOpenMaxCalls => "half_open_max_calls"

def Field.problem (field : Field) : String :=
  field.name ++ " must be > 0"

/-- The configuration with a given reset timeout, rounded up to whole
milliseconds and cut off at the greatest number of them. -/
def ofTimeout (failureThreshold : UInt32) (resetTimeout : Duration)
    (halfOpenMaxCalls : UInt32) : Config where
  failureThreshold
  resetTimeoutMs := UInt64.ofNat (min resetTimeout.millisRoundedUp maxMillis)
  halfOpenMaxCalls

def resetTimeout (c : Config) : Duration :=
  .ofMillis c.resetTimeoutMs.toNat

/-- The first field that is zero. -/
def invalidField (c : Config) : Option Field :=
  if c.failureThreshold = 0 then some .failureThreshold
  else if c.resetTimeoutMs = 0 then some .resetTimeoutMs
  else if c.halfOpenMaxCalls = 0 then some .halfOpenMaxCalls
  else none

/-- The configuration with each zero replaced by the default of its field. -/
def sanitize (c : Config) : Config where
  failureThreshold := if c.failureThreshold = 0 then 5 else c.failureThreshold
  resetTimeoutMs := if c.resetTimeoutMs = 0 then 10000 else c.resetTimeoutMs
  halfOpenMaxCalls := if c.halfOpenMaxCalls = 0 then 1 else c.halfOpenMaxCalls

/-- The configuration for a diagnostic listing. -/
def describe (c : Config) : String :=
  "CircuitBreakerConfig \x7b failure_threshold: " ++ toString c.failureThreshold.toNat ++
    ", reset_timeout_ms: " ++ toString c.resetTimeoutMs.toNat ++
    ", half_open_max_calls: " ++ toString c.halfOpenMaxCalls.toNat ++ " \x7d"

theorem invalidField_eq_none_iff (c : Config) :
    c.invalidField = none ↔
      c.failureThreshold ≠ 0 ∧ c.resetTimeoutMs ≠ 0 ∧ c.halfOpenMaxCalls ≠ 0 := by
  by_cases hf : c.failureThreshold = 0
  · simp [invalidField, hf]
  · by_cases hr : c.resetTimeoutMs = 0
    · simp [invalidField, hf, hr]
    · simp [invalidField, hf, hr]

theorem invalidField_sanitize (c : Config) : c.sanitize.invalidField = none := by
  rw [invalidField_eq_none_iff]
  refine ⟨?_, ?_, ?_⟩
  all_goals
    simp only [sanitize]
    split
    · decide
    · assumption

theorem sanitize_of_valid {c : Config} (h : c.invalidField = none) : c.sanitize = c := by
  obtain ⟨hf, hr, hh⟩ := (invalidField_eq_none_iff c).mp h
  simp [sanitize, hf, hr, hh]

end Config

end GuardedCache.Circuit
