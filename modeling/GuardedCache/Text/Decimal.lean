/-!
# Decimal numerals

Numerals as lists of characters.  `fixed` writes a number in exactly a given
number of digits, `natural` in as few as it needs, and `fraction` writes the
digits after a decimal point without trailing zeros.  `read` takes digits from
the front of a text.
-/

namespace GuardedCache.Text.Decimal

/-- The character of a decimal digit. -/
def digit (value : Nat) : Char :=
  Char.ofNat (48 + value % 10)

/-- The value of a decimal digit, if the character is one. -/
def digitValue? (c : Char) : Option Nat :=
  if 48 ≤ c.toNat ∧ c.toNat ≤ 57 then some (c.toNat - 48) else none

/-- Whether a character is one of the ten ASCII digits. -/
def isDigit (c : Char) : Bool :=
  (digitValue? c).isSome

/-- The number that a one with some zeros denotes. -/
def tenTo (zeros : Nat) : Nat := Nat.pow 10 zeros

/-- The last `width` decimal digits of a number, leading zeros included. -/
def fixed : Nat → Nat → List Char
  | 0, _ => []
  | width + 1, value => fixed width (value / 10) ++ [digit value]

/-- A number in as few digits as it needs. -/
def natural (value : Nat) : List Char :=
  if value < 10 then [digit value] else natural (value / 10) ++ [digit value]
termination_by value

/-- A number in at least `width` digits. -/
def atLeast (width value : Nat) : List Char :=
  if value < tenTo width then fixed width value else natural value

/-- The digits after a decimal point of `value / tenTo width`, without the
zeros at the end. -/
def fraction (width value : Nat) : List Char :=
  ((fixed width value).reverse.dropWhile (· == '0')).reverse

/-- The number that a list of digits denotes, read from left to right after
the digits that gave `acc`. -/
def valueFrom (acc : Nat) (digits : List Char) : Nat :=
  digits.foldl (fun total c => total * 10 + (c.toNat - 48)) acc

/-- The number that a list of digits denotes. -/
def value (digits : List Char) : Nat :=
  valueFrom 0 digits

/-- The longest run of at most `limit` digits at the front of a text, and the
text after it. -/
def takeDigits : Nat → List Char → List Char × List Char
  | 0, text => ([], text)
  | _, [] => ([], [])
  | limit + 1, c :: rest =>
    if isDigit c then
      let (digits, rest) := takeDigits limit rest
      (c :: digits, rest)
    else ([], c :: rest)

/-- A number of one to `limit` digits at the front of a text. -/
def read (limit : Nat) (text : List Char) : Option (Nat × List Char) :=
  match takeDigits limit text with
  | ([], _) => none
  | (digits, rest) => some (value digits, rest)

/-- A number of one or more digits at the front of a text. -/
def readAll (text : List Char) : Option (Nat × List Char) :=
  read text.length text

/-- The number that a text of digits denotes. -/
def natural? (text : List Char) : Option Nat :=
  match readAll text with
  | some (value, []) => some value
  | _ => none

/-- The integer that a text of digits denotes, which may start with a sign. -/
def integer? : List Char → Option Int
  | '-' :: digits => (natural? digits).map fun value => -(value : Int)
  | '+' :: digits => (natural? digits).map Int.ofNat
  | digits => (natural? digits).map Int.ofNat

end GuardedCache.Text.Decimal
