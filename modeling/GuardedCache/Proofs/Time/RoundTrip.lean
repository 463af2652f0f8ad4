import GuardedCache.Proofs.Text.Decimal
import GuardedCache.Time.Rfc3339

/-!
# The text of a moment reads back

`read?_write` says that the canonical text of a moment denotes this moment,
whatever its year, the length of its fraction, and even in a leap second.  The
reader is lenient, but where the canonical text leaves no blanks and gives every
field in full, it takes exactly the characters of each part.
-/

namespace GuardedCache.Timestamp

open Text

/-! ## The end of a part -/

theorem isBlank_of_isDigit {c : Char} (digit : Decimal.isDigit c = true) : isBlank c = false := by
  obtain ⟨low, high⟩ := Decimal.isDigit_eq_true_iff.mp digit
  simp only [isBlank, blankRanges, List.any_cons, List.any_nil, Bool.or_false,
    Bool.or_eq_false_iff, Bool.and_eq_false_iff, decide_eq_false_iff_not]
  omega

theorem dropBlanks_cons {c : Char} (other : isBlank c = false) (rest : List Char) :
    dropBlanks (c :: rest) = c :: rest :=
  List.dropWhile_cons_of_neg (by rw [other]; exact Bool.false_ne_true)

theorem dropBlanks_fixed {width : Nat} (pos : 0 < width) (n : Nat) (rest : List Char) :
    dropBlanks (Decimal.fixed width n ++ rest) = Decimal.fixed width n ++ rest := by
  obtain ⟨c, tail, digits, digit⟩ := Decimal.exists_fixed pos n
  rw [digits]
  exact dropBlanks_cons (isBlank_of_isDigit digit) (tail ++ rest)

/-! ## The parts -/

theorem readField_fixed {n : Nat} (fits : n < 100) (rest : List Char) :
    readField (Decimal.fixed 2 n ++ rest) = some (n, rest) := by
  rw [readField, dropBlanks_fixed (by decide), Decimal.read_fixed (by decide) fits]

theorem readMark_cons {mark : Char} (visible : isBlank mark = false) (rest : List Char) :
    readMark mark (mark :: rest) = some rest := by
  rw [readMark, dropBlanks_cons visible]
  exact if_pos rfl

/-- A text that starts with a digit is read as a year without a sign. -/
theorem readYear_of_isDigit {c : Char} (digit : Decimal.isDigit c = true) (rest : List Char) :
    readYear (c :: rest) =
      (Decimal.read 4 (c :: rest)).map fun (n, rest) => ((n : Int), rest) := by
  rw [readYear, dropBlanks_cons (isBlank_of_isDigit digit)]
  split
  next same =>
    rw [(List.cons.inj same).1] at digit
    cases digit
  next same =>
    rw [(List.cons.inj same).1] at digit
    cases digit
  next => rfl

theorem readYear_fixed {year : Nat} (fits : year < 10000) (rest : List Char) :
    readYear (Decimal.fixed 4 year ++ rest) = some ((year : Int), rest) := by
  have read : Decimal.read 4 (Decimal.fixed 4 year ++ rest) = some (year, rest) :=
    Decimal.read_fixed (by decide) fits rest
  obtain ⟨c, tail, digits, digit⟩ := Decimal.exists_fixed (by decide : 0 < 4) year
  rw [digits] at read
  rw [digits, List.cons_append, readYear_of_isDigit digit, ← List.cons_append, read,
    Option.map_some]

theorem readYear_yearText (year : Int) (rest : List Char) :
    readYear (yearText year ++ '-' :: rest) = some (year, '-' :: rest) := by
  rw [yearText]
  by_cases plain : 0 ≤ year ∧ year ≤ 9999
  · rw [if_pos plain, readYear_fixed (by omega), Int.toNat_of_nonneg plain.1]
  · have all := Decimal.readAll_atLeast (by decide : 0 < 4) year.natAbs
      (show Decimal.isDigit '-' = false by decide) rest
    rw [if_neg plain]
    by_cases negative : year < 0
    · rw [if_pos negative, List.cons_append, readYear, dropBlanks_cons (by decide)]
      simp only [all, Option.map_some]
      rw [show -(year.natAbs : Int) = year by omega]
    · rw [if_neg negative, List.cons_append, readYear, dropBlanks_cons (by decide)]
      simp only [all, Option.map_some]
      rw [show (year.natAbs : Int) = year by omega]

/-- Digits of a fraction of which no more than nine are written are read as
nanoseconds. -/
theorem readFraction_fixed {width n : Nat} (pos : 0 < width) (short : width ≤ 9)
    (fits : n < Decimal.tenTo width) {stop : Char} (other : Decimal.isDigit stop = false)
    (rest : List Char) :
    readFraction ('.' :: (Decimal.fixed width n ++ stop :: rest)) =
      some (n * Decimal.tenTo (9 - width), stop :: rest) := by
  have all : ∀ c ∈ Decimal.fixed width n, Decimal.isDigit c = true :=
    fun c => Decimal.isDigit_of_mem_fixed
  have few : (Decimal.fixed width n).length ≤ 9 := by
    rw [Decimal.length_fixed]
    exact short
  have taken := Decimal.takeDigits_of_stop all few other rest
  have skipped : (stop :: rest).dropWhile Decimal.isDigit = stop :: rest :=
    List.dropWhile_cons_of_neg (by rw [other]; exact Bool.false_ne_true)
  rw [readFraction, taken]
  simp only
  split
  next empty => exact absurd (Prod.mk.inj empty).1 (Decimal.fixed_ne_nil pos n)
  next digits after same =>
    obtain ⟨rfl, rfl⟩ := Prod.mk.inj same
    rw [Decimal.value_fixed fits, Decimal.length_fixed, skipped]

theorem readFraction_fractionText {nanos : Nat} (fits : nanos < 1000000000) {stop : Char}
    (other : Decimal.isDigit stop = false) (point : stop ≠ '.') (rest : List Char) :
    readFraction (fractionText nanos ++ stop :: rest) = some (nanos, stop :: rest) := by
  rw [fractionText]
  split
  next zero =>
    subst zero
    rw [List.nil_append, readFraction]
    · intro _ same
      exact absurd (List.cons.inj same).1 point
  split
  next millis =>
    have short : nanos / 1000000 < Decimal.tenTo 3 := show nanos / 1000000 < 1000 by omega
    have whole : nanos / 1000000 * Decimal.tenTo 6 = nanos :=
      Nat.div_mul_cancel (Nat.dvd_of_mod_eq_zero millis)
    rw [List.cons_append, readFraction_fixed (by decide) (by decide) short other, whole]
  split
  next micros =>
    have short : nanos / 1000 < Decimal.tenTo 6 := show nanos / 1000 < 1000000 by omega
    have whole : nanos / 1000 * Decimal.tenTo 3 = nanos :=
      Nat.div_mul_cancel (Nat.dvd_of_mod_eq_zero micros)
    rw [List.cons_append, readFraction_fixed (by decide) (by decide) short other, whole]
  next =>
    have whole : nanos * Decimal.tenTo 0 = nanos := Nat.mul_one nanos
    rw [List.cons_append, readFraction_fixed (by decide) (by decide) fits other, whole]

/-! ## The whole text -/

theorem daysInMonth_le (year : Int) (month : Nat) : daysInMonth year month ≤ 31 := by
  rw [daysInMonth]
  split
  · split <;> decide
  · split <;> decide

theorem readTimeMark_cons (rest : List Char) : readTimeMark ('T' :: rest) = some rest := by
  rw [readTimeMark, if_pos (.inl rfl)]

/-- The parts of the canonical text, one after the other. -/
theorem chars_eq (t : Timestamp) :
    t.chars = yearText t.date.year ++ '-' :: (Decimal.fixed 2 t.date.month ++
      '-' :: (Decimal.fixed 2 t.date.day ++ 'T' :: (Decimal.fixed 2 t.time.hour ++
        ':' :: (Decimal.fixed 2 t.time.minute ++ ':' :: (Decimal.fixed 2 t.time.second ++
          (fractionText t.time.nanos ++ ['Z'])))))) := by
  simp only [chars, secondsText, List.append_assoc, List.cons_append]

theorem addMinutes?_zero (t : Timestamp) : t.addMinutes? (-0) = some t := by
  obtain ⟨hour, minute, -, -⟩ := t.time.valid
  have total : (t.time.minuteOfDay : Int) + -0 = t.time.minuteOfDay := by omega
  have below : t.time.minuteOfDay < 1440 := by
    rw [TimeOfDay.minuteOfDay]
    omega
  have day : (t.time.minuteOfDay : Int) / 1440 = 0 := by omega
  have minutes : ((t.time.minuteOfDay : Int) % 1440).toNat = t.time.minuteOfDay := by omega
  have hours : t.time.minuteOfDay / 60 = t.time.hour := by
    rw [TimeOfDay.minuteOfDay]
    omega
  have rest : t.time.minuteOfDay % 60 = t.time.minute := by
    rw [TimeOfDay.minuteOfDay]
    omega
  have time : TimeOfDay.of? t.time.hour t.time.minute t.time.second t.time.nanos = some t.time :=
    dif_pos t.time.valid
  have date : t.date.addDays? 0 = some t.date := if_pos rfl
  simp only [addMinutes?, total, day, minutes, hours, rest, time, date]
  rfl

/-- A reader goes on with what its first part has found. -/
theorem bind_eq_of_eq_some {α β : Type} {x : Option α} {a : α} {f : α → Option β}
    {result : Option β} (first : x = some a) (rest : f a = result) : x >>= f = result := by
  rw [first, Option.bind_eq_bind, Option.bind_some, rest]

theorem ofChars?_chars (t : Timestamp) : ofChars? t.chars = some t := by
  obtain ⟨-, ⟨-, month⟩, -, day⟩ := t.date.valid
  obtain ⟨hour, minute, second, nanos⟩ := t.time.valid
  have days := daysInMonth_le t.date.year t.date.month
  have offset : readOffset (dropBlanks ['Z']) = some (0, []) := by
    rw [dropBlanks_cons (by decide)]
    rfl
  rw [chars_eq, ofChars?]
  apply bind_eq_of_eq_some (readYear_yearText t.date.year _)
  apply bind_eq_of_eq_some (readMark_cons (by decide) _)
  apply bind_eq_of_eq_some (readField_fixed (by omega) _)
  apply bind_eq_of_eq_some (readMark_cons (by decide) _)
  apply bind_eq_of_eq_some (readField_fixed (by omega) _)
  apply bind_eq_of_eq_some (readTimeMark_cons _)
  apply bind_eq_of_eq_some (readField_fixed (by omega) _)
  apply bind_eq_of_eq_some (readMark_cons (by decide) _)
  apply bind_eq_of_eq_some (readField_fixed (by omega) _)
  apply bind_eq_of_eq_some (readMark_cons (by decide) _)
  apply bind_eq_of_eq_some (readField_fixed (by omega) _)
  apply bind_eq_of_eq_some (readFraction_fractionText nanos (by decide) (by decide) [])
  apply bind_eq_of_eq_some offset
  refine (if_pos rfl).trans ?_
  apply bind_eq_of_eq_some (dif_pos t.date.valid : Date.of? _ _ _ = some t.date)
  apply bind_eq_of_eq_some (dif_pos t.time.valid : TimeOfDay.of? _ _ _ _ = some t.time)
  exact addMinutes?_zero t

/-- The canonical text of a moment denotes this moment. -/
theorem read?_write (t : Timestamp) : read? t.write = some t := by
  rw [read?, write, String.toList_ofList, ofChars?_chars]

end GuardedCache.Timestamp
