import GuardedCache.Text.Blank
import GuardedCache.Text.Decimal
import GuardedCache.Time.Timestamp

/-!
# The RFC 3339 text of a moment

`write` gives the canonical text: universal time with a final `Z`, four-digit
years (signed outside 0 to 9999) and a fraction of 0, 3, 6 or 9 digits,
whichever is the shortest exact one.  `read` accepts that text and a range of
variants: short fields, blanks between the parts, either case of `T` and `Z`,
and offsets with or without a colon.
-/

namespace GuardedCache.Timestamp

open Text

/-- A year in at least four digits, with a sign outside 0 to 9999. -/
def yearText (year : Int) : List Char :=
  if 0 ≤ year ∧ year ≤ 9999 then Decimal.fixed 4 year.toNat
  else (if year < 0 then '-' else '+') :: Decimal.atLeast 4 year.natAbs

/-- The fraction of a second in 0, 3, 6 or 9 digits, the fewest that are
exact. -/
def fractionText (nanos : Nat) : List Char :=
  if nanos = 0 then []
  else if nanos % 1000000 = 0 then '.' :: Decimal.fixed 3 (nanos / 1000000)
  else if nanos % 1000 = 0 then '.' :: Decimal.fixed 6 (nanos / 1000)
  else '.' :: Decimal.fixed 9 nanos

/-- The date and the time up to the second. -/
def secondsText (t : Timestamp) : List Char :=
  yearText t.date.year ++ '-' :: Decimal.fixed 2 t.date.month ++
    '-' :: Decimal.fixed 2 t.date.day ++ 'T' :: Decimal.fixed 2 t.time.hour ++
    ':' :: Decimal.fixed 2 t.time.minute ++ ':' :: Decimal.fixed 2 t.time.second

/-- The canonical text, as characters. -/
def chars (t : Timestamp) : List Char :=
  secondsText t ++ fractionText t.time.nanos ++ ['Z']

/-- The canonical text. -/
def write (t : Timestamp) : String :=
  String.ofList t.chars

/-- The text of the moment cut off to a whole second. -/
def writeSeconds (t : Timestamp) : String :=
  String.ofList (secondsText t ++ ['Z'])

/-- A year: up to four digits, or a sign and any number of digits. -/
def readYear (text : List Char) : Option (Int × List Char) :=
  match dropBlanks text with
  | '-' :: rest => (Decimal.readAll rest).map fun (n, rest) => (-(n : Int), rest)
  | '+' :: rest => (Decimal.readAll rest).map fun (n, rest) => ((n : Int), rest)
  | rest => (Decimal.read 4 rest).map fun (n, rest) => ((n : Int), rest)

/-- A field of one or two digits, after blanks. -/
def readField (text : List Char) : Option (Nat × List Char) :=
  Decimal.read 2 (dropBlanks text)

/-- A separator, after blanks. -/
def readMark (mark : Char) (text : List Char) : Option (List Char) :=
  match dropBlanks text with
  | c :: rest => if c = mark then some rest else none
  | [] => none

/-- The fraction of a second in nanoseconds, if a point follows.  Digits after
the ninth are dropped. -/
def readFraction (text : List Char) : Option (Nat × List Char) :=
  match text with
  | '.' :: rest =>
    match Decimal.takeDigits 9 rest with
    | ([], _) => none
    | (digits, rest) =>
      let nanos := Decimal.value digits * Decimal.tenTo (9 - digits.length)
      some (nanos, rest.dropWhile Decimal.isDigit)
  | rest => some (0, rest)

/-- Two digits, the first of which is at most `top`. -/
def readTwoDigits (top : Nat) (text : List Char) : Option (Nat × List Char) :=
  match text with
  | a :: b :: rest => do
    let tens ← Decimal.digitValue? a
    let units ← Decimal.digitValue? b
    if tens ≤ top then some (tens * 10 + units, rest) else none
  | _ => none

/-- The sign of an offset: plus, hyphen or minus sign. -/
def readSign (text : List Char) : Option (Int × List Char) :=
  match text with
  | c :: rest =>
    if c = '+' then some (1, rest)
    else if c = '-' ∨ c = '\u2212' then some (-1, rest)
    else none
  | [] => none

/-- Whether a text starts with `UTC` in either case. -/
def startsWithUtc (text : List Char) : Bool :=
  (text.take 3).map Char.toUpper = ['U', 'T', 'C']

/-- An offset from universal time in minutes: `Z`, `UTC`, or a sign, two
digits of hours and two of minutes with any colons and blanks between them. -/
def readOffset (text : List Char) : Option (Int × List Char) :=
  match text with
  | 'Z' :: rest => some (0, rest)
  | 'z' :: rest => some (0, rest)
  | text =>
    if startsWithUtc text then some (0, text.drop 3)
    else do
      let (sign, rest) ← readSign text
      let (hours, rest) ← readTwoDigits 9 rest
      let (minutes, rest) ← readTwoDigits 5 (rest.dropWhile fun c => c = ':' || isBlank c)
      if hours < 24 then some (sign * (hours * 60 + minutes : Nat), rest) else none

/-- The mark between the date and the time. -/
def readTimeMark (text : List Char) : Option (List Char) :=
  match text with
  | c :: rest => if c = 'T' ∨ c = 't' ∨ c = ' ' then some rest else none
  | [] => none

/-- A moment from the characters of its text. -/
def ofChars? (text : List Char) : Option Timestamp := do
  let (year, text) ← readYear text
  let (month, text) ← readField (← readMark '-' text)
  let (day, text) ← readField (← readMark '-' text)
  let (hour, text) ← readField (← readTimeMark text)
  let (minute, text) ← readField (← readMark ':' text)
  let (second, text) ← readField (← readMark ':' text)
  let (nanos, text) ← readFraction text
  let (offset, text) ← readOffset (dropBlanks text)
  if dropBlanks text = [] then
    let date ← Date.of? year month day
    let time ← TimeOfDay.of? hour minute second nanos
    addMinutes? ⟨date, time⟩ (-offset)
  else none

/-- A moment from its text. -/
def read? (text : String) : Option Timestamp :=
  ofChars? text.toList

end GuardedCache.Timestamp
