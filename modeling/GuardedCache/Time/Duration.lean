import GuardedCache.Text.Decimal

/-!
# Durations

A duration is a whole number of nanoseconds.  Its text uses the largest of the
units s, ms, µs and ns in which it has a non-zero whole part, and gives the
fraction exactly and without trailing zeros.
-/

namespace GuardedCache

open Text

/-- A span of time. -/
structure Duration where
  nanos : Nat
deriving DecidableEq, Repr, Inhabited

namespace Duration

/-- Nanoseconds in a second. -/
def nanosPerSecond : Nat := 1000000000

/-- Nanoseconds in a millisecond. -/
def nanosPerMilli : Nat := 1000000

/-- The empty span. -/
def zero : Duration := ⟨0⟩

/-- A span of whole seconds. -/
def ofSeconds (seconds : Nat) : Duration := ⟨seconds * nanosPerSecond⟩

/-- A span of whole milliseconds. -/
def ofMillis (millis : Nat) : Duration := ⟨millis * nanosPerMilli⟩

/-- A span of seconds and nanoseconds. -/
def ofParts (seconds nanos : Nat) : Duration :=
  ⟨seconds * nanosPerSecond + nanos⟩

/-- The whole seconds in a span. -/
def wholeSeconds (d : Duration) : Nat := d.nanos / nanosPerSecond

/-- The least number of whole milliseconds that covers a span. -/
def millisRoundedUp (d : Duration) : Nat :=
  (d.nanos + (nanosPerMilli - 1)) / nanosPerMilli

instance : Add Duration := ⟨fun a b => ⟨a.nanos + b.nanos⟩⟩

instance : LT Duration := ⟨fun a b => a.nanos < b.nanos⟩

instance : LE Duration := ⟨fun a b => a.nanos ≤ b.nanos⟩

instance (a b : Duration) : Decidable (a < b) :=
  inferInstanceAs (Decidable (a.nanos < b.nanos))

instance (a b : Duration) : Decidable (a ≤ b) :=
  inferInstanceAs (Decidable (a.nanos ≤ b.nanos))

/-- `value / Decimal.tenTo places` in decimal, without trailing zeros. -/
def decimalText (places value : Nat) : List Char :=
  let whole := Decimal.natural (value / Decimal.tenTo places)
  match Decimal.fraction places (value % Decimal.tenTo places) with
  | [] => whole
  | digits => whole ++ '.' :: digits

/-- The text of a span, such as `1.5µs` or `61.5s`. -/
def text (d : Duration) : String :=
  if 1000000000 ≤ d.nanos then
    String.ofList (decimalText 9 d.nanos ++ ['s'])
  else if 1000000 ≤ d.nanos then
    String.ofList (decimalText 6 d.nanos ++ ['m', 's'])
  else if 1000 ≤ d.nanos then
    String.ofList (decimalText 3 d.nanos ++ ['µ', 's'])
  else
    String.ofList (decimalText 0 d.nanos ++ ['n', 's'])

end Duration

end GuardedCache
