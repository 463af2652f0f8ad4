import GuardedCache.Circuit.Breaker
import Mathlib.Order.Bounds.Basic

/-!
# Reset timeouts in whole milliseconds

A reset timeout is given as a span of any length and kept as a number of milliseconds.  It is
rounded up, so a circuit never opens for a shorter time than it was told to, unless the span is
longer than any number of milliseconds that a configuration can hold.

The number is computed in words: the nanoseconds of a span in a word of 128 bits, the quotient in
the same width, and the milliseconds in a word of 64 bits.  `millisWord` is that computation.  No
step of it overflows for any span of 64-bit seconds and 32-bit nanoseconds.
-/

namespace GuardedCache

namespace Duration

/-- A number of milliseconds covers a span exactly if rounding up does not exceed it. -/
theorem millisRoundedUp_le_iff (d : Duration) (millis : Nat) :
    d.millisRoundedUp ≤ millis ↔ d ≤ ofMillis millis := by
  change (d.nanos + (nanosPerMilli - 1)) / nanosPerMilli ≤ millis ↔
    d.nanos ≤ millis * nanosPerMilli
  rw [nanosPerMilli]
  omega

protected theorem le_refl (d : Duration) : d ≤ d := Nat.le_refl d.nanos

protected theorem le_trans {a b c : Duration} (first : a ≤ b) (second : b ≤ c) : a ≤ c :=
  Nat.le_trans first second

theorem eq_zero_of_le {d : Duration} (le : d ≤ zero) : d = zero :=
  congrArg mk (Nat.eq_zero_of_le_zero le)

theorem isLeast_millisRoundedUp (d : Duration) :
    IsLeast {millis | d ≤ ofMillis millis} d.millisRoundedUp :=
  ⟨(d.millisRoundedUp_le_iff _).mp (Nat.le_refl _),
    fun millis covers => (d.millisRoundedUp_le_iff millis).mpr covers⟩

theorem millisRoundedUp_mono {d e : Duration} (le : d ≤ e) :
    d.millisRoundedUp ≤ e.millisRoundedUp :=
  (d.millisRoundedUp_le_iff _).mpr
    (Duration.le_trans le ((e.millisRoundedUp_le_iff _).mp (Nat.le_refl _)))

theorem millisRoundedUp_eq_zero_iff (d : Duration) : d.millisRoundedUp = 0 ↔ d = zero := by
  constructor
  · intro none
    have covered : d ≤ ofMillis 0 := (d.millisRoundedUp_le_iff 0).mp (Nat.le_of_eq none)
    exact eq_zero_of_le covered
  · rintro rfl
    rfl

theorem millisRoundedUp_ofMillis (millis : Nat) : (ofMillis millis).millisRoundedUp = millis := by
  apply Nat.le_antisymm
  · exact ((ofMillis millis).millisRoundedUp_le_iff millis).mpr (Duration.le_refl _)
  · have covered := ((ofMillis millis).millisRoundedUp_le_iff _).mp (Nat.le_refl _)
    exact Nat.le_of_mul_le_mul_right covered (by decide)

end Duration

namespace Circuit.Config

section Words

/-- The quotient of two words, rounded up. -/
def divUp {width : Nat} (total unit : BitVec width) : BitVec width :=
  if total % unit = 0 then total / unit else total / unit + 1

/-- The nanoseconds of a span, from its whole seconds and the nanoseconds beside them. -/
def nanosWord (seconds : UInt64) (nanos : UInt32) : BitVec 128 :=
  seconds.toBitVec.setWidth 128 * 1000000000 + nanos.toBitVec.setWidth 128

/-- The milliseconds of a span, rounded up, or the greatest word if they do not fit in it. -/
def millisWord (seconds : UInt64) (nanos : UInt32) : UInt64 :=
  let millis := divUp (nanosWord seconds nanos) 1000000
  if millis.toNat < UInt64.size then .ofNat millis.toNat else .ofNat (UInt64.size - 1)

/-- The nanoseconds of the greatest span fit in 128 bits. -/
theorem toNat_nanosWord (seconds : UInt64) (nanos : UInt32) :
    (nanosWord seconds nanos).toNat = (Duration.ofParts seconds.toNat nanos.toNat).nanos := by
  have most : seconds.toNat < 2 ^ 64 := seconds.toNat_lt
  have rest : nanos.toNat < 2 ^ 32 := nanos.toNat_lt
  have fits : seconds.toNat * 1000000000 + nanos.toNat < 2 ^ 128 := calc
    seconds.toNat * 1000000000 + nanos.toNat < 2 ^ 64 * 1000000000 + 2 ^ 32 :=
      Nat.add_lt_add_of_le_of_lt (Nat.mul_le_mul_right _ (Nat.le_of_lt most)) rest
    _ < 2 ^ 128 := by decide
  have product : seconds.toNat * 1000000000 < 2 ^ 128 :=
    Nat.lt_of_le_of_lt (Nat.le_add_right ..) fits
  have unit : (1000000000 : BitVec 128).toNat = 1000000000 := by decide
  rw [nanosWord, BitVec.toNat_add, BitVec.toNat_mul, BitVec.toNat_setWidth,
    BitVec.toNat_setWidth, UInt64.toNat_toBitVec, UInt32.toNat_toBitVec, unit,
    Nat.mod_eq_of_lt (Nat.lt_trans most (by decide)),
    Nat.mod_eq_of_lt (Nat.lt_trans rest (by decide)), Nat.mod_eq_of_lt product,
    Nat.mod_eq_of_lt fits]
  rfl

/-- Rounding a quotient up does not overflow. -/
theorem toNat_divUp_millis (total : BitVec 128) :
    (divUp total 1000000).toNat = (Duration.mk total.toNat).millisRoundedUp := by
  have bound := total.isLt
  have remainder : total % 1000000 = 0 ↔ total.toNat % 1000000 = 0 := by
    rw [← BitVec.toNat_inj]
    rfl
  have quotient : (total / 1000000).toNat = total.toNat / 1000000 := rfl
  change _ = (total.toNat + (1000000 - 1)) / 1000000
  by_cases exact : total.toNat % 1000000 = 0
  · rw [divUp, if_pos (remainder.mpr exact), quotient]
    omega
  · have one : (1 : BitVec 128).toNat = 1 := rfl
    rw [divUp, if_neg (mt remainder.mp exact), BitVec.toNat_add, quotient, one]
    omega

end Words

variable (threshold probes : UInt32)

theorem toNat_resetTimeoutMs (d : Duration) :
    (ofTimeout threshold d probes).resetTimeoutMs.toNat = min d.millisRoundedUp maxMillis := by
  rw [ofTimeout, UInt64.toNat_ofNat_of_lt']
  exact Nat.lt_of_le_of_lt (Nat.min_le_right ..) (by decide)

/-- A configuration keeps the number of milliseconds that words compute. -/
theorem resetTimeoutMs_ofParts (seconds : UInt64) (nanos : UInt32) :
    (ofTimeout threshold (.ofParts seconds.toNat nanos.toNat) probes).resetTimeoutMs =
      millisWord seconds nanos := by
  have same : (divUp (nanosWord seconds nanos) 1000000).toNat =
      (Duration.ofParts seconds.toNat nanos.toNat).millisRoundedUp := by
    rw [toNat_divUp_millis, toNat_nanosWord]
  simp only [millisWord, same, ofTimeout, maxMillis]
  split
  case isTrue fits => rw [Nat.min_eq_left (Nat.le_sub_one_of_lt fits)]
  case isFalse exceeds =>
    rw [Nat.min_eq_right (Nat.le_trans (Nat.sub_le ..) (Nat.le_of_not_lt exceeds))]

theorem resetTimeoutMs_mono {d e : Duration} (le : d ≤ e) :
    (ofTimeout threshold d probes).resetTimeoutMs ≤
      (ofTimeout threshold e probes).resetTimeoutMs := by
  have rounded := Duration.millisRoundedUp_mono le
  rw [UInt64.le_iff_toNat_le, toNat_resetTimeoutMs, toNat_resetTimeoutMs]
  omega

/-- Only the empty span is kept as no milliseconds. -/
theorem resetTimeoutMs_eq_zero_iff (d : Duration) :
    (ofTimeout threshold d probes).resetTimeoutMs = 0 ↔ d = .zero := by
  rw [← d.millisRoundedUp_eq_zero_iff, ← UInt64.toNat_inj, toNat_resetTimeoutMs,
    UInt64.toNat_zero, maxMillis]
  have room : 0 < UInt64.size - 1 := by decide
  omega

theorem le_resetTimeout {d : Duration} (fits : d ≤ .ofMillis maxMillis) :
    d ≤ (ofTimeout threshold d probes).resetTimeout := by
  have within := (d.millisRoundedUp_le_iff maxMillis).mpr fits
  rw [resetTimeout, toNat_resetTimeoutMs, Nat.min_eq_left within]
  exact (d.millisRoundedUp_le_iff _).mp (Nat.le_refl _)

theorem sanitize_resetTimeoutMs {c : Config} (positive : c.resetTimeoutMs ≠ 0) :
    c.sanitize.resetTimeoutMs = c.resetTimeoutMs :=
  if_neg positive

/-- A configuration is recovered from the timeout that it holds. -/
theorem ofTimeout_resetTimeout (c : Config) :
    ofTimeout c.failureThreshold c.resetTimeout c.halfOpenMaxCalls = c := by
  have millis : (ofTimeout c.failureThreshold c.resetTimeout c.halfOpenMaxCalls).resetTimeoutMs =
      c.resetTimeoutMs := by
    have word : c.resetTimeoutMs.toNat ≤ maxMillis :=
      Nat.le_sub_one_of_lt c.resetTimeoutMs.toNat_lt
    rw [← UInt64.toNat_inj, toNat_resetTimeoutMs, resetTimeout,
      Duration.millisRoundedUp_ofMillis, Nat.min_eq_left word]
  exact congrArg (fun resetTimeoutMs => { c with resetTimeoutMs }) millis

/-- How a configuration keeps the span that it is given as its reset timeout. -/
structure RoundsUp : Prop where
  /-- The number of milliseconds is the least that covers the span, or else the greatest word. -/
  least : ∀ d, ∃ millis, IsLeast {n | d ≤ .ofMillis n} millis ∧
    (ofTimeout threshold d probes).resetTimeoutMs.toNat =
      if millis < UInt64.size then millis else UInt64.size - 1
  words : ∀ seconds nanos,
    (ofTimeout threshold (.ofParts seconds.toNat nanos.toNat) probes).resetTimeoutMs =
      millisWord seconds nanos
  covers : ∀ d, d ≤ .ofMillis maxMillis → d ≤ (ofTimeout threshold d probes).resetTimeout
  monotone : ∀ d e, d ≤ e → (ofTimeout threshold d probes).resetTimeoutMs ≤
    (ofTimeout threshold e probes).resetTimeoutMs
  zero : ∀ d, (ofTimeout threshold d probes).resetTimeoutMs = 0 ↔ d = .zero
  /-- A breaker never replaces a positive timeout by the default. -/
  built : ∀ d, d ≠ .zero → ∀ name observers now,
    (Breaker.build name (ofTimeout threshold d probes) observers now).config.resetTimeoutMs =
      (ofTimeout threshold d probes).resetTimeoutMs
  rest : ∀ d, (ofTimeout threshold d probes).failureThreshold = threshold ∧
    (ofTimeout threshold d probes).halfOpenMaxCalls = probes

/-- No reset timeout is shortened by rounding, and one in whole milliseconds is kept as it is. -/
theorem ofTimeout_rounds_up :
    (∀ threshold probes, RoundsUp threshold probes) ∧
      ∀ c : Config, ofTimeout c.failureThreshold c.resetTimeout c.halfOpenMaxCalls = c := by
  refine ⟨fun threshold probes => ?_, ofTimeout_resetTimeout⟩
  exact {
    least := fun d => by
      refine ⟨d.millisRoundedUp, d.isLeast_millisRoundedUp, ?_⟩
      rw [toNat_resetTimeoutMs, maxMillis]
      split <;> omega
    words := resetTimeoutMs_ofParts threshold probes
    covers := fun _ => le_resetTimeout threshold probes
    monotone := fun _ _ => resetTimeoutMs_mono threshold probes
    zero := resetTimeoutMs_eq_zero_iff threshold probes
    built := fun d positive _ _ _ => sanitize_resetTimeoutMs
      (mt (resetTimeoutMs_eq_zero_iff threshold probes d).mp positive)
    rest := fun _ => ⟨rfl, rfl⟩ }

/-- Half a millisecond is rounded up to a whole one. -/
example : (ofTimeout 3 ⟨500000⟩ 1).resetTimeoutMs = 1 := by decide

end Circuit.Config

end GuardedCache
