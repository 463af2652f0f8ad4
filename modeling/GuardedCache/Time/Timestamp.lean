import GuardedCache.Time.Calendar

/-!
# Moments of universal time

A `Timestamp` is a date and a time of day in universal time, to the
nanosecond.  Second 60 is a leap second; it may stand in any minute.
-/

namespace GuardedCache

/-- A time of day. -/
structure TimeOfDay where
  hour : Nat
  /-- The minute of the hour. -/
  minute : Nat
  /-- The second of the minute; 60 in a leap second. -/
  second : Nat
  /-- The nanoseconds into the second. -/
  nanos : Nat
  /-- Each part is in its range. -/
  valid : hour < 24 ∧ minute < 60 ∧ second ≤ 60 ∧ nanos < 1000000000
deriving DecidableEq, Repr

namespace TimeOfDay

/-- The time of day with the given parts, if each is in its range. -/
def of? (hour minute second nanos : Nat) : Option TimeOfDay :=
  if h : hour < 24 ∧ minute < 60 ∧ second ≤ 60 ∧ nanos < 1000000000 then
    some ⟨hour, minute, second, nanos, h⟩
  else none

/-- The first moment of a day. -/
def midnight : TimeOfDay := ⟨0, 0, 0, 0, by decide⟩

/-- Minutes since midnight. -/
def minuteOfDay (t : TimeOfDay) : Nat := t.hour * 60 + t.minute

end TimeOfDay

/-- A moment of universal time. -/
structure Timestamp where
  date : Date
  /-- The time of that day. -/
  time : TimeOfDay
deriving DecidableEq, Repr

namespace Timestamp

/-- The moment `minutes` minutes later, or earlier if `minutes` is negative.
The second of the minute stays, so a leap second stays one. -/
def addMinutes? (t : Timestamp) (minutes : Int) : Option Timestamp := do
  let total : Int := t.time.minuteOfDay + minutes
  let date ← t.date.addDays? (total / 1440)
  let minuteOfDay := (total % 1440).toNat
  let time ← TimeOfDay.of? (minuteOfDay / 60) (minuteOfDay % 60) t.time.second t.time.nanos
  return ⟨date, time⟩

/-- The moment `nanos` nanoseconds after a midnight, or before it if `nanos`
is negative.  No leap second is counted. -/
def ofMidnight? (date : Date) (nanos : Int) : Option Timestamp := do
  let seconds := nanos / 1000000000
  let fraction := (nanos % 1000000000).toNat
  let date ← date.addDays? (seconds / 86400)
  let secondOfDay := (seconds % 86400).toNat
  let minuteOfDay := secondOfDay / 60
  let time ← TimeOfDay.of? (minuteOfDay / 60) (minuteOfDay % 60) (secondOfDay % 60) fraction
  return ⟨date, time⟩

end Timestamp

end GuardedCache
