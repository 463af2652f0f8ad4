import GuardedCache.Text.Utf8

/-!
# Texts read back from UTF-8

The bytes of a text are read back as that text.  `next_encode` takes one character from the
front of its bytes: the number of a character fixes the range that its first byte falls in, and
the numbers that stand for no character are those whose second byte is refused.
-/

namespace GuardedCache.Text.Utf8

/-! ## The bytes of a text -/

theorem toList_loop (bytes : ByteArray) (index : Nat) (read : List UInt8) :
    ByteArray.toList.loop bytes index read = read.reverse ++ bytes.data.toList.drop index := by
  fun_induction ByteArray.toList.loop bytes index read with
  | case1 index read inside ih =>
    have here : index < bytes.data.toList.length := by simpa using inside
    rw [ih, List.drop_eq_getElem_cons here]
    simp [ByteArray.get!, inside]
  | case2 index read outside =>
    rw [List.drop_eq_nil_of_le (by simpa using outside), List.append_nil]

/-- The bytes of a text are those of its characters. -/
theorem toList_toUTF8 (text : String) :
    text.toUTF8.toList = text.toList.flatMap String.utf8EncodeChar := by
  have bytes : text.toUTF8 = (text.toList.flatMap String.utf8EncodeChar).toByteArray := by
    rw [String.toUTF8_eq_toByteArray, ← List.utf8Encode, ← String.toByteArray_ofList,
      String.ofList_toList]
  rw [bytes, ByteArray.toList, toList_loop, List.toList_data_toByteArray]
  rfl

/-! ## One character -/

theorem toNat_valid (c : Char) :
    c.toNat < 0xD800 ∨ 0xDFFF < c.toNat ∧ c.toNat < 0x110000 := c.valid

theorem toNat_ofNat {value : Nat} (small : value < 256) : (UInt8.ofNat value).toNat = value :=
  UInt8.toNat_ofNat_of_lt small

theorem range_iff {low high byte : UInt8} :
    (decide (low ≤ byte) && decide (byte ≤ high)) = true ↔
      low.toNat ≤ byte.toNat ∧ byte.toNat ≤ high.toNat := by
  rw [Bool.and_eq_true, decide_eq_true_eq, decide_eq_true_eq, UInt8.le_iff_toNat_le,
    UInt8.le_iff_toNat_le]

theorem isSecondOfThree_of_range {first second : UInt8}
    (tail : 0x80 ≤ second.toNat ∧ second.toNat ≤ 0xBF)
    (low : first.toNat = 0xE0 → 0xA0 ≤ second.toNat)
    (high : first.toNat = 0xED → second.toNat ≤ 0x9F) : isSecondOfThree first second = true := by
  unfold isSecondOfThree
  split
  next same => exact range_iff.mpr ⟨low (by rw [same]; rfl), tail.2⟩
  split
  next same => exact range_iff.mpr ⟨tail.1, high (by rw [same]; rfl)⟩
  · exact range_iff.mpr tail

theorem isSecondOfFour_of_range {first second : UInt8}
    (tail : 0x80 ≤ second.toNat ∧ second.toNat ≤ 0xBF)
    (low : first.toNat = 0xF0 → 0x90 ≤ second.toNat)
    (high : first.toNat = 0xF4 → second.toNat ≤ 0x8F) : isSecondOfFour first second = true := by
  unfold isSecondOfFour
  split
  next same => exact range_iff.mpr ⟨low (by rw [same]; rfl), tail.2⟩
  split
  next same => exact range_iff.mpr ⟨tail.1, high (by rw [same]; rfl)⟩
  · exact range_iff.mpr tail

/-- A byte that carries six bits. -/
theorem isTail_ofNat {bits : Nat} (small : bits < 64) :
    isTail (UInt8.ofNat (bits + 128)) = true := by
  have upper : bits + 128 ≤ 0xBF := by omega
  refine range_iff.mpr ?_
  rw [toNat_ofNat (by omega)]
  exact ⟨Nat.le_add_left 128 bits, upper⟩

theorem tailBits_ofNat {bits : Nat} (small : bits < 64) :
    tailBits (UInt8.ofNat (bits + 128)) = bits := by
  have value : (UInt8.ofNat (bits + 128)).toNat = bits + 128 := toNat_ofNat (by omega)
  unfold tailBits
  rw [value]
  exact Nat.add_sub_cancel bits 128

/-- What kind of character a byte starts is told by its number. -/
theorem next_eq (first : UInt8) (rest : List UInt8) : next first rest =
    if first.toNat < 0x80 then (some (Char.ofNat first.toNat), rest)
    else if 0xC2 ≤ first.toNat ∧ first.toNat ≤ 0xDF then nextOfTwo first rest
    else if 0xE0 ≤ first.toNat ∧ first.toNat ≤ 0xEF then nextOfThree first rest
    else if 0xF0 ≤ first.toNat ∧ first.toNat ≤ 0xF4 then nextOfFour first rest
    else (none, rest) := by
  simp only [next, range_iff, UInt8.lt_iff_toNat_lt]
  rfl

section Encoded

variable {c : Char} (rest : List UInt8)

theorem next_encode_one (range : c.toNat ≤ 0x7F) :
    next (UInt8.ofNat c.toNat) rest = (some c, rest) := by
  rw [next_eq, toNat_ofNat (by omega), if_pos (by omega), Char.ofNat_toNat]

theorem next_encode_two (range : 0x7F < c.toNat ∧ c.toNat ≤ 0x7FF) :
    next (UInt8.ofNat (c.toNat / 64 % 32 + 192)) (UInt8.ofNat (c.toNat % 64 + 128) :: rest) =
      (some c, rest) := by
  have first : (UInt8.ofNat (c.toNat / 64 % 32 + 192)).toNat = c.toNat / 64 % 32 + 192 :=
    toNat_ofNat (by omega)
  have small : c.toNat % 64 < 64 := Nat.mod_lt _ (by decide)
  rw [next_eq, first, if_neg (by omega), if_pos (by omega), nextOfTwo, if_pos (isTail_ofNat small),
    first, tailBits_ofNat small]
  have value : (c.toNat / 64 % 32 + 192 - 0xC0) * 64 + c.toNat % 64 = c.toNat := by omega
  rw [value, Char.ofNat_toNat]

theorem next_encode_three (range : 0x7FF < c.toNat ∧ c.toNat ≤ 0xFFFF) :
    next (UInt8.ofNat (c.toNat / 4096 % 16 + 224))
        (UInt8.ofNat (c.toNat / 64 % 64 + 128) :: UInt8.ofNat (c.toNat % 64 + 128) :: rest) =
      (some c, rest) := by
  have valid := toNat_valid c
  have first : (UInt8.ofNat (c.toNat / 4096 % 16 + 224)).toNat = c.toNat / 4096 % 16 + 224 :=
    toNat_ofNat (by omega)
  have second : (UInt8.ofNat (c.toNat / 64 % 64 + 128)).toNat = c.toNat / 64 % 64 + 128 :=
    toNat_ofNat (by omega)
  have middle : c.toNat / 64 % 64 < 64 := Nat.mod_lt _ (by decide)
  have small : c.toNat % 64 < 64 := Nat.mod_lt _ (by decide)
  have follows : isSecondOfThree (UInt8.ofNat (c.toNat / 4096 % 16 + 224))
      (UInt8.ofNat (c.toNat / 64 % 64 + 128)) = true := by
    apply isSecondOfThree_of_range <;> rw [second] <;> omega
  rw [next_eq, first, if_neg (by omega), if_neg (by omega), if_pos (by omega), nextOfThree,
    if_pos follows]
  simp only [isTail_ofNat small, if_true, first, tailBits_ofNat middle, tailBits_ofNat small]
  have value : ((c.toNat / 4096 % 16 + 224 - 0xE0) * 64 + c.toNat / 64 % 64) * 64 +
      c.toNat % 64 = c.toNat := by omega
  rw [value, Char.ofNat_toNat]

theorem next_encode_four (range : 0xFFFF < c.toNat) :
    next (UInt8.ofNat (c.toNat / 262144 % 8 + 240))
        (UInt8.ofNat (c.toNat / 4096 % 64 + 128) :: UInt8.ofNat (c.toNat / 64 % 64 + 128) ::
          UInt8.ofNat (c.toNat % 64 + 128) :: rest) =
      (some c, rest) := by
  have valid := toNat_valid c
  have first : (UInt8.ofNat (c.toNat / 262144 % 8 + 240)).toNat = c.toNat / 262144 % 8 + 240 :=
    toNat_ofNat (by omega)
  have second : (UInt8.ofNat (c.toNat / 4096 % 64 + 128)).toNat = c.toNat / 4096 % 64 + 128 :=
    toNat_ofNat (by omega)
  have high : c.toNat / 4096 % 64 < 64 := Nat.mod_lt _ (by decide)
  have middle : c.toNat / 64 % 64 < 64 := Nat.mod_lt _ (by decide)
  have small : c.toNat % 64 < 64 := Nat.mod_lt _ (by decide)
  have follows : isSecondOfFour (UInt8.ofNat (c.toNat / 262144 % 8 + 240))
      (UInt8.ofNat (c.toNat / 4096 % 64 + 128)) = true := by
    apply isSecondOfFour_of_range <;> rw [second] <;> omega
  rw [next_eq, first, if_neg (by omega), if_neg (by omega), if_neg (by omega), if_pos (by omega),
    nextOfFour, if_pos follows, nextOfFourTail, if_pos (isTail_ofNat middle)]
  simp only [isTail_ofNat small, if_true, first, tailBits_ofNat high, tailBits_ofNat middle,
    tailBits_ofNat small]
  have value : (((c.toNat / 262144 % 8 + 240 - 0xF0) * 64 + c.toNat / 4096 % 64) * 64 +
      c.toNat / 64 % 64) * 64 + c.toNat % 64 = c.toNat := by omega
  rw [value, Char.ofNat_toNat]

end Encoded

/-- The bytes of a character are not empty, and they are read back as that character. -/
theorem next_encode (c : Char) (rest : List UInt8) :
    ∃ first tail, String.utf8EncodeChar c = first :: tail ∧
      next first (tail ++ rest) = (some c, rest) := by
  have length : c.val.toNat = c.toNat := rfl
  rw [String.utf8EncodeChar, length]
  by_cases one : c.toNat ≤ 0x7F
  · exact ⟨_, _, if_pos one, next_encode_one rest one⟩
  by_cases two : c.toNat ≤ 0x7FF
  · exact ⟨_, _, (if_neg one).trans (if_pos two), next_encode_two rest ⟨by omega, two⟩⟩
  by_cases three : c.toNat ≤ 0xFFFF
  · exact ⟨_, _, (if_neg one).trans ((if_neg two).trans (if_pos three)),
      next_encode_three rest ⟨by omega, three⟩⟩
  · exact ⟨_, _, (if_neg one).trans ((if_neg two).trans (if_neg three)),
      next_encode_four rest (by omega)⟩

/-! ## All characters -/

theorem characters_nil : characters [] = [] := by
  rw [characters]

/-- The bytes of a text are read back, whatever comes after them. -/
theorem characters_encode (text : List Char) (rest : List UInt8) :
    characters (text.flatMap String.utf8EncodeChar ++ rest) =
      text.map some ++ characters rest := by
  induction text with
  | nil => rfl
  | cons c text ih =>
    obtain ⟨first, tail, bytes, read⟩ :=
      next_encode c (text.flatMap String.utf8EncodeChar ++ rest)
    rw [List.flatMap_cons, bytes, List.append_assoc, List.cons_append, characters, read, ih]
    rfl

theorem characters_toUTF8 (text : String) :
    characters text.toUTF8.toList = text.toList.map some := by
  have read := characters_encode text.toList []
  rwa [List.append_nil, characters_nil, List.append_nil, ← toList_toUTF8] at read

/-- Nothing in the bytes of a text is replaced when they are decoded. -/
theorem decodeLossy_toUTF8 (text : String) : decodeLossy text.toUTF8.toList = text := by
  have kept : (text.toList.map some).map (fun c => c.getD '\ufffd') = text.toList := by
    rw [List.map_map]
    exact List.map_id _
  rw [decodeLossy, characters_toUTF8, kept, String.ofList_toList]

end GuardedCache.Text.Utf8
