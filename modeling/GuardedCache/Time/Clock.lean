import GuardedCache.Time.Duration
import GuardedCache.Time.Timestamp

/-!
# Clocks

A `Clock` moves only when it is told to.  It shows two times: an instant, which
drives timers, and a timestamp, which is used for reports.  Two things can go
wrong: moving it past the greatest duration, and reading an instant past the
greatest one.  Such a `ClockFault` leaves the clock as it was.
-/

namespace GuardedCache

/-- A point on the scale that timers use. -/
structure Instant where
  /-- Nanoseconds from the start of the clock. -/
  nanos : Int
deriving DecidableEq, Repr, Inhabited

namespace Instant

/-- The time from one instant to another, which is zero if the other comes
first. -/
def elapsed (since now : Instant) : Duration :=
  ⟨(now.nanos - since.nanos).toNat⟩

end Instant

/-- Why a clock could not be moved or read. -/
inductive ClockFault where
  /-- The clock would have moved past the greatest duration. -/
  | durationOverflow
  /-- The clock shows no instant that timers can use. -/
  | instantOverflow
deriving DecidableEq, Repr

namespace ClockFault

def message : ClockFault → String
  | .durationOverflow => "overflow when adding durations"
  | .instantOverflow => "overflow when adding duration to instant"

end ClockFault

/-- What a clock shows at one moment. -/
structure Reading where
  instant : Instant
  wall : Timestamp
deriving DecidableEq, Repr

/-- What looking at a clock gives: both times, or why there are none. -/
abbrev Glance := Except ClockFault Reading

/-- A clock that is moved by hand. -/
structure Clock where
  /-- How far the clock has been moved on. -/
  offset : Duration := .zero
  /-- How far it has been set back since. -/
  setBack : Duration := .zero
deriving DecidableEq, Repr, Inhabited

namespace Clock

/-- The day on which every clock starts. -/
def originDate : Date := ⟨2024, 1, 1, by decide⟩

def origin : Timestamp := ⟨originDate, .midnight⟩

/-- The greatest whole number of seconds in a duration. -/
def maxSeconds : Nat := UInt64.size - 1

/-- The greatest whole number of seconds that an instant can be from the
start. -/
def maxInstantSeconds : Nat := 9223372036854775807

def advance (c : Clock) (span : Duration) : Except ClockFault Clock :=
  let offset := c.offset + span
  if offset.wholeSeconds ≤ maxSeconds then .ok { c with offset }
  else .error .durationOverflow

def rewind (c : Clock) (span : Duration) : Clock :=
  { c with setBack := c.setBack + span }

/-- The time for reports.  A clock that has moved past the end of the calendar
shows its origin. -/
def wall (c : Clock) : Timestamp :=
  let forward : Int := c.offset.nanos
  let base := if (Timestamp.ofMidnight? originDate forward).isSome then forward else 0
  (Timestamp.ofMidnight? originDate (base - c.setBack.nanos)).getD origin

/-- Both times, unless the instant is out of range. -/
def read (c : Clock) : Glance :=
  if c.offset.wholeSeconds ≤ maxInstantSeconds then
    .ok ⟨⟨c.offset.nanos - c.setBack.nanos⟩, c.wall⟩
  else .error .instantOverflow

end Clock

end GuardedCache
