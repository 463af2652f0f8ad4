import Mathlib.Data.List.Forall2
import Mathlib.Data.List.TakeWhile
import GuardedCache.Http.Form
import GuardedCache.Proofs.Json.RoundTrip
import GuardedCache.Proofs.Text.Utf8

/-!
# Form data that was encoded

There is more than one way to encode a text for a query: any byte may be escaped, with digits of
either case, and most characters may also stand for themselves.  Whatever was chosen, the text is
read back.  None of the characters that an encoded text is made of separates pairs or ends a
query, so pairs that are joined fall apart where they were joined.
-/

namespace GuardedCache.Http

open Text

/-! ## Encoded texts -/

/-- The signs that stand for themselves everywhere. -/
def unreservedSigns : List Char := ['-', '.', '_', '~']

/-- Those that neither separate anything in a query nor start an escape. -/
def plainSigns : List Char :=
  unreservedSigns ++ ['!', '$', '\x27', '(', ')', '*', ',', ';', ':', '@', '/', '?']

/-- Whether a character can stand for itself in a query. -/
def isPlain (c : Char) : Bool := c.isAlphanum || plainSigns.contains c

/-- A text that encodes some bytes. -/
inductive Encodes : List Char → List UInt8 → Prop where
  | nil : Encodes [] []
  | plain {c : Char} {text : List Char} {bytes : List UInt8} (stands : isPlain c = true)
      (rest : Encodes text bytes) : Encodes (c :: text) (UInt8.ofNat c.toNat :: bytes)
  | escaped {high low : Char} {h l : Nat} {text : List Char} {bytes : List UInt8}
      (upper : Json.hexValue? high = some h) (lower : Json.hexValue? low = some l)
      (rest : Encodes text bytes) :
      Encodes ('%' :: high :: low :: text) (UInt8.ofNat (h * 16 + l) :: bytes)

def EncodesText (encoded : List Char) (text : String) : Prop :=
  Encodes encoded text.toUTF8.toList

/-- A byte in an encoded text: letters, digits and four signs stand for themselves. -/
def encodeByte (byte : UInt8) : List Char :=
  let c := Char.ofNat byte.toNat
  if c.isAlphanum || unreservedSigns.contains c then [c]
  else ['%', Json.hexDigit (byte.toNat / 16), Json.hexDigit (byte.toNat % 16)]

/-- The percent-encoding of a text. -/
def percentEncode (text : String) : List Char :=
  text.toUTF8.toList.flatMap encodeByte

theorem isPlain_of_unreserved {c : Char}
    (unreserved : (c.isAlphanum || unreservedSigns.contains c) = true) :
    isPlain c = true := by
  rw [isPlain, Bool.or_eq_true, List.contains_iff_mem]
  rw [Bool.or_eq_true, List.contains_iff_mem] at unreserved
  exact unreserved.imp_right fun sign => List.mem_append_left _ sign

theorem toNat_char {value : Nat} (small : value < 256) : (Char.ofNat value).toNat = value := by
  have valid : value.isValidChar := .inl (by omega)
  rw [Char.ofNat, dif_pos valid]
  rfl

theorem encodes_encodeByte (byte : UInt8) {text : List Char} {bytes : List UInt8}
    (rest : Encodes text bytes) : Encodes (encodeByte byte ++ text) (byte :: bytes) := by
  have small : byte.toNat < 256 := byte.toNat_lt
  rw [encodeByte]
  split
  next unreserved =>
    have same : UInt8.ofNat (Char.ofNat byte.toNat).toNat = byte := by
      rw [toNat_char small, UInt8.ofNat_toNat]
    have encoded := Encodes.plain (isPlain_of_unreserved unreserved) rest
    rwa [same] at encoded
  next reserved =>
    have same : UInt8.ofNat (byte.toNat / 16 * 16 + byte.toNat % 16) = byte := by
      rw [Nat.div_add_mod', UInt8.ofNat_toNat]
    have encoded := Encodes.escaped (Json.hexValue?_hexDigit (by omega : byte.toNat / 16 < 16))
      (Json.hexValue?_hexDigit (Nat.mod_lt byte.toNat (by decide : 0 < 16))) rest
    rwa [same] at encoded

/-- The percent-encoding of a text is one of the texts that encode it. -/
theorem encodesText_percentEncode (text : String) : EncodesText (percentEncode text) text := by
  rw [EncodesText, percentEncode]
  induction text.toUTF8.toList with
  | nil => exact .nil
  | cons byte bytes ih =>
    rw [List.flatMap_cons]
    exact encodes_encodeByte byte ih

/-! ## The characters of an encoded text -/

theorem forall_ascii {P : Char → Prop} (all : ∀ value < 128, P (Char.ofNat value)) (c : Char)
    (small : c.toNat < 128) : P c := by
  have here := all c.toNat small
  rwa [Char.ofNat_toNat] at here

theorem toNat_of_hexValue? {c : Char} {value : Nat} (digit : Json.hexValue? c = some value) :
    c.toNat < 128 := by
  unfold Json.hexValue? at digit
  grind

theorem isPlain_of_hexValue? {c : Char} {value : Nat} (digit : Json.hexValue? c = some value) :
    isPlain c = true := by
  have all := forall_ascii (P := fun c => (Json.hexValue? c).isSome = true → isPlain c = true)
    (by decide)
  exact all c (toNat_of_hexValue? digit) (by rw [digit]; rfl)

theorem toNat_of_isPlain {c : Char} (plain : isPlain c = true) : c.toNat < 128 := by
  rw [isPlain, Bool.or_eq_true, List.contains_iff_mem] at plain
  rcases plain with alphanum | sign
  · unfold Char.isAlphanum Char.isAlpha Char.isUpper Char.isLower Char.isDigit at alphanum
    simp only [Bool.or_eq_true, Bool.and_eq_true, decide_eq_true_eq, UInt32.le_iff_toNat_le,
      Char.reduceVal, UInt32.reduceToNat] at alphanum
    rw [Char.toNat]
    omega
  · have all : (plainSigns.all fun sign => decide (sign.toNat < 128)) = true := by decide
    exact of_decide_eq_true (List.all_eq_true.mp all c sign)

theorem ne_of_isPlain {c mark : Char} (plain : isPlain c = true) (marks : isPlain mark = false) :
    c ≠ mark := by
  rintro rfl
  cases plain.symm.trans marks

/-- Encoded texts are made of characters that stand for themselves, and percent signs. -/
theorem Encodes.isPlain_of_mem {text : List Char} {bytes : List UInt8}
    (encoded : Encodes text bytes) {c : Char} (member : c ∈ text) : c = '%' ∨ isPlain c = true := by
  induction encoded with
  | nil => cases member
  | plain stands _ ih =>
    rcases List.mem_cons.mp member with rfl | member
    · exact .inr stands
    · exact ih member
  | escaped upper lower _ ih =>
    simp only [List.mem_cons] at member
    rcases member with rfl | rfl | rfl | member
    · exact .inl rfl
    · exact .inr (isPlain_of_hexValue? upper)
    · exact .inr (isPlain_of_hexValue? lower)
    · exact ih member

/-- No other character occurs in an encoded text. -/
theorem Encodes.notMem {text : List Char} {bytes : List UInt8} (encoded : Encodes text bytes)
    {mark : Char} (marks : isPlain mark = false) (other : mark ≠ '%') : mark ∉ text := by
  intro member
  rcases encoded.isPlain_of_mem member with percent | plain
  · exact other percent
  · cases plain.symm.trans marks

/-! ## Encoded texts are read back -/

/-- The bytes of a text of ASCII characters. -/
def ascii (text : List Char) : List UInt8 := text.map fun c => UInt8.ofNat c.toNat

theorem toList_toUTF8_ascii {text : List Char} (small : ∀ c ∈ text, c.toNat < 128) :
    (String.ofList text).toUTF8.toList = ascii text := by
  rw [Utf8.toList_toUTF8, String.toList_ofList]
  induction text with
  | nil => rfl
  | cons c text ih =>
    obtain ⟨here, small⟩ := List.forall_mem_cons.mp small
    have byte : String.utf8EncodeChar c = [UInt8.ofNat c.toNat] :=
      if_pos (Nat.le_of_lt_succ here)
    rw [List.flatMap_cons, ih small, byte]
    rfl

theorem formBytes_plain {byte : UInt8} (percent : byte ≠ 37) (plus : byte ≠ 43)
    (rest : List UInt8) : formBytes (byte :: rest) = byte :: formBytes rest := by
  have same : (if byte = 43 then 32 else byte) = byte := if_neg plus
  match rest with
  | [] => exact congrArg (· :: []) same
  | [last] => exact congrArg (· :: formBytes [last]) same
  | high :: low :: rest => rw [formBytes, if_neg percent, same]

theorem formBytes_escaped {high low : Char} {h l : Nat} (upper : Json.hexValue? high = some h)
    (lower : Json.hexValue? low = some l) (rest : List UInt8) :
    formBytes (37 :: UInt8.ofNat high.toNat :: UInt8.ofNat low.toNat :: rest) =
      UInt8.ofNat (h * 16 + l) :: formBytes rest := by
  have kept {c : Char} {value : Nat} (digit : Json.hexValue? c = some value) :
      Char.ofNat (UInt8.ofNat c.toNat).toNat = c := by
    have small := toNat_of_hexValue? digit
    rw [Utf8.toNat_ofNat (by omega), Char.ofNat_toNat]
  rw [formBytes, if_pos rfl, kept upper, kept lower, upper, lower]

/-- A plain character is not taken for the start of an escape or for a space. -/
theorem ofNat_ne_of_isPlain {c mark : Char} (plain : isPlain c = true)
    (marks : isPlain mark = false) (small : mark.toNat < 128) :
    UInt8.ofNat c.toNat ≠ UInt8.ofNat mark.toNat := by
  intro same
  have low := toNat_of_isPlain plain
  have number := congrArg UInt8.toNat same
  rw [Utf8.toNat_ofNat (by omega), Utf8.toNat_ofNat (by omega)] at number
  exact ne_of_isPlain plain marks (Char.toNat_inj.mp number)

theorem formBytes_ascii {text : List Char} {bytes : List UInt8} (encoded : Encodes text bytes) :
    formBytes (ascii text) = bytes := by
  induction encoded with
  | nil => rfl
  | @plain c _ _ stands _ ih =>
    have percent : UInt8.ofNat c.toNat ≠ UInt8.ofNat '%'.toNat :=
      ofNat_ne_of_isPlain stands (by decide) (by decide)
    have plus : UInt8.ofNat c.toNat ≠ UInt8.ofNat '+'.toNat :=
      ofNat_ne_of_isPlain stands (by decide) (by decide)
    rw [ascii, List.map_cons, formBytes_plain percent plus, ← ascii, ih]
  | escaped upper lower _ ih =>
    rw [ascii, List.map_cons, List.map_cons, List.map_cons, ← ascii]
    exact (formBytes_escaped upper lower _).trans (by rw [ih])

/-- However a text was encoded, it is read back. -/
theorem formDecode_encoded {encoded : List Char} {text : String}
    (encodes : EncodesText encoded text) : formDecode encoded = text := by
  have small (c : Char) (member : c ∈ encoded) : c.toNat < 128 := by
    rcases encodes.isPlain_of_mem member with rfl | plain
    · decide
    · exact toNat_of_isPlain plain
  rw [formDecode, toList_toUTF8_ascii small, formBytes_ascii encodes, Utf8.decodeLossy_toUTF8]

/-- A text of plain characters encodes itself. -/
theorem encodesText_plain {text : List Char} (plain : text.all isPlain = true) :
    EncodesText text (String.ofList text) := by
  rw [List.all_eq_true] at plain
  have small (c : Char) (member : c ∈ text) := toNat_of_isPlain (plain c member)
  rw [EncodesText, toList_toUTF8_ascii small]
  clear small
  induction text with
  | nil => exact .nil
  | cons c text ih =>
    obtain ⟨here, plain⟩ := List.forall_mem_cons.mp plain
    exact .plain here (ih plain)

/-! ## Texts that are cut where they were joined -/

section Cut

variable {mark : Char} {part : List Char} (uncut : mark ∉ part)

include uncut

theorem splitAll_of_notMem : splitAll mark part = [part] := by
  induction part with
  | nil => rfl
  | cons c part ih =>
    obtain ⟨other, uncut⟩ := not_or.mp (mt List.mem_cons.mpr uncut)
    rw [splitAll, if_neg (Ne.symm other), ih uncut]

theorem splitAll_append_cons (rest : List Char) :
    splitAll mark (part ++ mark :: rest) = part :: splitAll mark rest := by
  induction part with
  | nil => rw [List.nil_append, splitAll, if_pos rfl]
  | cons c part ih =>
    obtain ⟨other, uncut⟩ := not_or.mp (mt List.mem_cons.mpr uncut)
    rw [List.cons_append, splitAll, if_neg (Ne.symm other), ih uncut]

theorem splitFirst_of_notMem : splitFirst mark part = (part, none) := by
  have all : part.dropWhile (· ≠ mark) = [] := by
    rw [List.dropWhile_eq_nil_iff]
    intro c member
    exact decide_eq_true fun same => uncut (same ▸ member)
  rw [splitFirst, all]

theorem splitFirst_append_cons (rest : List Char) :
    splitFirst mark (part ++ mark :: rest) = (part, some rest) := by
  have before : ∀ c ∈ part, decide (c ≠ mark) = true := by
    intro c member
    exact decide_eq_true fun same => uncut (same ▸ member)
  rw [splitFirst, List.dropWhile_append_of_pos before, List.takeWhile_append_of_pos before]
  simp

end Cut

theorem splitAll_intercalate {mark : Char} {parts : List (List Char)} (nonempty : parts ≠ [])
    (uncut : ∀ part ∈ parts, mark ∉ part) :
    splitAll mark (List.intercalate [mark] parts) = parts := by
  induction parts with
  | nil => exact absurd rfl nonempty
  | cons part parts ih =>
    obtain ⟨here, uncut⟩ := List.forall_mem_cons.mp uncut
    cases parts with
    | nil =>
      rw [List.intercalate_singleton]
      exact splitAll_of_notMem here
    | cons next parts =>
      rw [List.intercalate_cons_cons, List.append_assoc, List.singleton_append,
        splitAll_append_cons here, ih (List.cons_ne_nil next parts) uncut]

theorem notMem_intercalate {mark separator : Char} {parts : List (List Char)}
    (other : mark ≠ separator) (uncut : ∀ part ∈ parts, mark ∉ part) :
    mark ∉ List.intercalate [separator] parts := by
  induction parts with
  | nil => simp
  | cons part parts ih =>
    obtain ⟨here, uncut⟩ := List.forall_mem_cons.mp uncut
    cases parts with
    | nil => rwa [List.intercalate_singleton]
    | cons next parts =>
      simp only [List.intercalate_cons_cons, List.mem_append, List.mem_singleton, not_or]
      exact ⟨⟨here, other⟩, ih uncut⟩

/-! ## Pairs -/

/-- A part of a query that encodes a pair. -/
def EncodesPair (part : List Char) (pair : String × String) : Prop :=
  ∃ name value, part = name ++ '=' :: value ∧
    EncodesText name pair.1 ∧ EncodesText value pair.2

theorem EncodesPair.formPair_eq {part : List Char} {pair : String × String}
    (encodes : EncodesPair part pair) : formPair part = pair := by
  obtain ⟨name, value, rfl, first, second⟩ := encodes
  have uncut : '=' ∉ name := first.notMem (by decide) (by decide)
  rw [formPair, splitFirst_append_cons uncut]
  exact Prod.ext (formDecode_encoded first) (formDecode_encoded second)

theorem EncodesPair.notMem {part : List Char} {pair : String × String}
    (encodes : EncodesPair part pair) {mark : Char} (marks : isPlain mark = false)
    (percent : mark ≠ '%') (equals : mark ≠ '=') : mark ∉ part := by
  obtain ⟨name, value, rfl, first, second⟩ := encodes
  simp only [List.mem_append, List.mem_cons, not_or]
  exact ⟨first.notMem marks percent, equals, second.notMem marks percent⟩

/-- The parts of a query that encode some pairs in order. -/
abbrev EncodePairs (parts : List (List Char)) (pairs : List (String × String)) : Prop :=
  List.Forall₂ EncodesPair parts pairs

theorem EncodePairs.notMem {parts : List (List Char)} {pairs : List (String × String)}
    (encode : EncodePairs parts pairs) {mark : Char} (marks : isPlain mark = false)
    (percent : mark ≠ '%') (equals : mark ≠ '=') : ∀ part ∈ parts, mark ∉ part := by
  induction encode with
  | nil => exact fun _ member => nomatch member
  | cons here _ ih => exact List.forall_mem_cons.mpr ⟨here.notMem marks percent equals, ih⟩

theorem map_formPair_encoded {parts : List (List Char)} {pairs : List (String × String)}
    (encode : EncodePairs parts pairs) : (parts.filter (· ≠ [])).map formPair = pairs := by
  induction encode with
  | nil => rfl
  | @cons part pair parts pairs here rest ih =>
    have filled : decide (part ≠ []) = true := by
      obtain ⟨name, value, rfl, _⟩ := here
      simp
    rw [List.filter_cons, if_pos filled, List.map_cons, here.formPair_eq, ih]

/-- However pairs were encoded, they are read back from the query that they make up. -/
theorem formPairs_encoded {parts : List (List Char)} {pairs : List (String × String)}
    (encode : EncodePairs parts pairs) :
    formPairs (String.ofList (List.intercalate ['&'] parts)) = pairs := by
  rw [formPairs, String.toList_ofList]
  cases parts with
  | nil =>
    cases encode
    rfl
  | cons part parts =>
    have uncut : ∀ own ∈ part :: parts, '&' ∉ own :=
      encode.notMem (by decide) (by decide) (by decide)
    rw [splitAll_intercalate (List.cons_ne_nil part parts) uncut]
    exact map_formPair_encoded encode

end GuardedCache.Http
