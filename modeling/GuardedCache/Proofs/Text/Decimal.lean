import GuardedCache.Text.Decimal

/-!
# Numerals read back

Digits that `fixed` or `natural` wrote are read back as the number that they
were written for.  A numeral ends where a reader has taken as many digits as it
may, or before the first character that is no digit.
-/

namespace GuardedCache.Text.Decimal

/-! ## Single digits -/

theorem digit_mod (n : Nat) : digit (n % 10) = digit n := by
  rw [digit, digit, Nat.mod_mod]

theorem digitValue?_digit (n : Nat) : digitValue? (digit n) = some (n % 10) := by
  have small : ∀ k < 10, digitValue? (digit k) = some k := by decide
  rw [← digit_mod]
  exact small (n % 10) (Nat.mod_lt n (by decide))

theorem isDigit_digit (n : Nat) : isDigit (digit n) = true := by
  rw [isDigit, digitValue?_digit]
  rfl

theorem toNat_digit (n : Nat) : (digit n).toNat - 48 = n % 10 := by
  have small : ∀ k < 10, (digit k).toNat - 48 = k := by decide
  rw [← digit_mod]
  exact small (n % 10) (Nat.mod_lt n (by decide))

theorem isDigit_eq_true_iff {c : Char} : isDigit c = true ↔ 48 ≤ c.toNat ∧ c.toNat ≤ 57 := by
  rw [isDigit, digitValue?]
  by_cases range : 48 ≤ c.toNat ∧ c.toNat ≤ 57 <;> simp [range]

/-! ## Written numerals -/

theorem valueFrom_append_digit (acc : Nat) (digits : List Char) (n : Nat) :
    valueFrom acc (digits ++ [digit n]) = valueFrom acc digits * 10 + n % 10 := by
  rw [valueFrom, List.foldl_append]
  exact congrArg (valueFrom acc digits * 10 + ·) (toNat_digit n)

theorem length_fixed (width n : Nat) : (fixed width n).length = width := by
  induction width generalizing n with
  | zero => rfl
  | succ width ih => rw [fixed, List.length_append, ih, List.length_singleton]

theorem fixed_ne_nil {width : Nat} (pos : 0 < width) (n : Nat) : fixed width n ≠ [] := by
  intro empty
  have length := length_fixed width n
  rw [empty] at length
  exact absurd length (Nat.ne_of_lt pos)

theorem isDigit_of_mem_fixed {width n : Nat} {c : Char} (member : c ∈ fixed width n) :
    isDigit c = true := by
  induction width generalizing n with
  | zero => cases member
  | succ width ih =>
    rcases List.mem_append.mp member with member | member
    · exact ih member
    · rw [List.mem_singleton.mp member]
      exact isDigit_digit n

theorem exists_fixed {width : Nat} (pos : 0 < width) (n : Nat) :
    ∃ c tail, fixed width n = c :: tail ∧ isDigit c = true := by
  cases digits : fixed width n with
  | nil => exact absurd digits (fixed_ne_nil pos n)
  | cons c tail =>
    have member : c ∈ fixed width n := by
      rw [digits]
      exact List.mem_cons_self
    exact ⟨c, tail, rfl, isDigit_of_mem_fixed member⟩

theorem value_fixed {width n : Nat} (fits : n < tenTo width) : value (fixed width n) = n := by
  induction width generalizing n with
  | zero => exact (Nat.lt_one_iff.mp fits).symm
  | succ width ih =>
    have fits' : n / 10 < tenTo width := Nat.div_lt_of_lt_mul (by
      rw [Nat.mul_comm]
      exact fits)
    calc value (fixed (width + 1) n)
        = value (fixed width (n / 10)) * 10 + n % 10 := valueFrom_append_digit 0 _ n
      _ = n / 10 * 10 + n % 10 := by rw [ih fits']
      _ = n := Nat.div_add_mod' n 10

theorem natural_ne_nil (n : Nat) : natural n ≠ [] := by
  rw [natural]
  split <;> simp

theorem isDigit_of_mem_natural {n : Nat} {c : Char} (member : c ∈ natural n) :
    isDigit c = true := by
  induction n using Nat.strongRecOn with
  | ind n ih =>
    rw [natural] at member
    by_cases small : n < 10
    · rw [if_pos small] at member
      rw [List.mem_singleton.mp member]
      exact isDigit_digit n
    · rw [if_neg small] at member
      rcases List.mem_append.mp member with member | member
      · exact ih (n / 10) (by omega) member
      · rw [List.mem_singleton.mp member]
        exact isDigit_digit n

theorem value_natural (n : Nat) : value (natural n) = n := by
  induction n using Nat.strongRecOn with
  | ind n ih =>
    rw [natural]
    by_cases small : n < 10
    · rw [if_pos small]
      calc value [digit n] = 0 * 10 + n % 10 := valueFrom_append_digit 0 [] n
        _ = n := by omega
    · rw [if_neg small]
      calc value (natural (n / 10) ++ [digit n])
          = value (natural (n / 10)) * 10 + n % 10 := valueFrom_append_digit 0 _ n
        _ = n / 10 * 10 + n % 10 := by rw [ih (n / 10) (by omega)]
        _ = n := Nat.div_add_mod' n 10

theorem toDigits_ten (n : Nat) : Nat.toDigits 10 n = natural n := by
  have digits : ∀ k < 10, Nat.digitChar k = digit k := by decide
  induction n using Nat.strongRecOn with
  | ind n ih =>
    rw [natural]
    by_cases small : n < 10
    · rw [if_pos small, Nat.toDigits_of_lt_base small, digits n small]
    · rw [if_neg small, Nat.toDigits_of_base_le (by decide) (Nat.le_of_not_lt small),
        ih (n / 10) (by omega), digits _ (Nat.mod_lt n (by decide)), digit_mod]

theorem toList_toString (n : Nat) : (toString n).toList = natural n := by
  rw [Nat.toString_eq_repr, Nat.repr_eq_ofList_toDigits, String.toList_ofList, toDigits_ten]

/-- Only the number zero has a leading zero. -/
theorem natural_eq_zero_cons {n : Nat} {rest : List Char} (leads : natural n = '0' :: rest) :
    n = 0 := by
  have digits : ∀ k < 10, digit k = '0' → k = 0 := by decide
  induction n using Nat.strongRecOn generalizing rest with
  | ind n ih =>
    rw [natural] at leads
    by_cases small : n < 10
    · rw [if_pos small] at leads
      exact digits n small (List.cons.inj leads).1
    · rw [if_neg small] at leads
      cases front : natural (n / 10) with
      | nil => exact absurd front (natural_ne_nil _)
      | cons c front' =>
        rw [front, List.cons_append] at leads
        rw [(List.cons.inj leads).1] at front
        have zero := ih (n / 10) (by omega) front
        omega

theorem atLeast_ne_nil {width : Nat} (pos : 0 < width) (n : Nat) : atLeast width n ≠ [] := by
  rw [atLeast]
  split
  · exact fixed_ne_nil pos n
  · exact natural_ne_nil n

theorem isDigit_of_mem_atLeast {width n : Nat} {c : Char} (member : c ∈ atLeast width n) :
    isDigit c = true := by
  rw [atLeast] at member
  split at member
  · exact isDigit_of_mem_fixed member
  · exact isDigit_of_mem_natural member

theorem value_atLeast (width n : Nat) : value (atLeast width n) = n := by
  rw [atLeast]
  split
  next fits => exact value_fixed fits
  next => exact value_natural n

/-! ## Reading -/

/-- A reader that may take no more digits stops. -/
theorem takeDigits_of_length {digits : List Char} (all : ∀ c ∈ digits, isDigit c = true)
    (rest : List Char) : takeDigits digits.length (digits ++ rest) = (digits, rest) := by
  induction digits with
  | nil => cases rest <;> rfl
  | cons c digits ih =>
    have more := ih fun d member => all d (List.mem_cons_of_mem c member)
    rw [List.cons_append, List.length_cons, takeDigits, if_pos (all c List.mem_cons_self), more]

/-- A reader stops at the first character that is no digit. -/
theorem takeDigits_of_stop {digits : List Char} (all : ∀ c ∈ digits, isDigit c = true)
    {limit : Nat} (fits : digits.length ≤ limit) {stop : Char} (other : isDigit stop = false)
    (rest : List Char) : takeDigits limit (digits ++ stop :: rest) = (digits, stop :: rest) := by
  induction digits generalizing limit with
  | nil =>
    cases limit with
    | zero => rfl
    | succ limit => exact if_neg (by rw [other]; exact Bool.false_ne_true)
  | cons c digits ih =>
    cases limit with
    | zero => cases fits
    | succ limit =>
      have more := ih (fun d member => all d (List.mem_cons_of_mem c member))
        (Nat.le_of_succ_le_succ fits)
      rw [List.cons_append, takeDigits, if_pos (all c List.mem_cons_self), more]

theorem read_of_takeDigits {limit : Nat} {text digits rest : List Char} (ne : digits ≠ [])
    (taken : takeDigits limit text = (digits, rest)) :
    read limit text = some (value digits, rest) := by
  rw [read, taken]
  cases digits with
  | nil => exact absurd rfl ne
  | cons c digits => rfl

theorem read_fixed {width n : Nat} (pos : 0 < width) (fits : n < tenTo width)
    (rest : List Char) : read width (fixed width n ++ rest) = some (n, rest) := by
  have all : ∀ c ∈ fixed width n, isDigit c = true := fun c => isDigit_of_mem_fixed
  have taken := takeDigits_of_length all rest
  rw [length_fixed] at taken
  rw [read_of_takeDigits (fixed_ne_nil pos n) taken, value_fixed fits]

theorem readAll_atLeast {width : Nat} (pos : 0 < width) (n : Nat) {stop : Char}
    (other : isDigit stop = false) (rest : List Char) :
    readAll (atLeast width n ++ stop :: rest) = some (n, stop :: rest) := by
  have all : ∀ c ∈ atLeast width n, isDigit c = true := fun c => isDigit_of_mem_atLeast
  have fits : (atLeast width n).length ≤ (atLeast width n ++ stop :: rest).length := by
    rw [List.length_append]
    exact Nat.le_add_right _ _
  rw [readAll, read_of_takeDigits (atLeast_ne_nil pos n) (takeDigits_of_stop all fits other rest),
    value_atLeast]

end GuardedCache.Text.Decimal
