import GuardedCache.Circuit.Config
import GuardedCache.Json.Value

/-!
# Partial configurations

An `Override` changes some fields of a breaker's configuration and keeps the
others.
-/

namespace GuardedCache.Circuit

/-- New values for some fields of a configuration. -/
structure Override where
  /-- The new failure threshold, if it changes. -/
  failureThreshold : Option UInt32 := none
  /-- The new reset timeout in milliseconds, if it changes. -/
  resetTimeoutMs : Option UInt64 := none
  /-- The new number of probes, if it changes. -/
  halfOpenMaxCalls : Option UInt32 := none
deriving DecidableEq, Repr, Inhabited

namespace Override

/-- A configuration with the fields that the override gives. -/
def apply (o : Override) (base : Config) : Config where
  failureThreshold := o.failureThreshold.getD base.failureThreshold
  resetTimeoutMs := o.resetTimeoutMs.getD base.resetTimeoutMs
  halfOpenMaxCalls := o.halfOpenMaxCalls.getD base.halfOpenMaxCalls

/-- An optional word of 32 bits from a JSON value. -/
def word32? : Json.Value → Option (Option UInt32)
  | .null => some none
  | value => do
    let n ← value.nat?
    if n < UInt32.size then some (some (UInt32.ofNat n)) else none

/-- An optional word of 64 bits from a JSON value. -/
def word64? : Json.Value → Option (Option UInt64)
  | .null => some none
  | value => do
    let n ← value.nat?
    if n < UInt64.size then some (some (UInt64.ofNat n)) else none

/-- The value of the last member with a name, or `null`. -/
def lastNamed (members : List (Json.Text × Json.Value)) (name : String) : Json.Value :=
  ((Json.Value.membersNamed members name).getLast?).getD .null

/-- An override from a JSON value: an object, or an array of up to three
values in the order of the fields.  What is missing or `null` does not
change. -/
def ofJson? : Json.Value → Option Override
  | .object members => do
    let failureThreshold ← word32? (lastNamed members Config.Field.failureThreshold.name)
    let resetTimeoutMs ← word64? (lastNamed members Config.Field.resetTimeoutMs.name)
    let halfOpenMaxCalls ← word32? (lastNamed members Config.Field.halfOpenMaxCalls.name)
    return { failureThreshold, resetTimeoutMs, halfOpenMaxCalls }
  | .array items => do
    let failureThreshold ← word32? (items[0]?.getD .null)
    let resetTimeoutMs ← word64? (items[1]?.getD .null)
    let halfOpenMaxCalls ← word32? (items[2]?.getD .null)
    if items.length ≤ 3 then
      return { failureThreshold, resetTimeoutMs, halfOpenMaxCalls }
    else none
  | _ => none

theorem apply_empty (base : Config) : ({} : Override).apply base = base := rfl

end Override

end GuardedCache.Circuit
