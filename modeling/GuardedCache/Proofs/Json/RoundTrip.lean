import GuardedCache.Json.Reader
import GuardedCache.Json.Writer

/-!
# JSON reads back

The text of a value without numbers denotes that value: `read?_write`.  Every
lemma on the way is about a text that goes on after what is read, so that the
pieces of an array or an object can be read one after the other.
-/

namespace GuardedCache.Json

/-! ## Strings -/

theorem hexValue?_hexDigit {n : Nat} (small : n < 16) : hexValue? (hexDigit n) = some n := by
  have all : ∀ k < 16, hexValue? (hexDigit k) = some k := by decide
  exact all n small

theorem unit?_unicodeEscape {unit : Nat} (fits : unit < 65536) :
    unit? (hexDigit (unit / 4096 % 16)) (hexDigit (unit / 256 % 16))
      (hexDigit (unit / 16 % 16)) (hexDigit (unit % 16)) = some unit := by
  simp only [unit?, hexValue?_hexDigit (Nat.mod_lt _ (by decide : 0 < 16)), bind,
    Option.bind_some, pure, Option.some.injEq]
  omega

/-- An escape by digits is read as its code unit. -/
theorem readPieces_unicodeEscape {unit : Nat} (fits : unit < 65536) (rest : List Char) :
    readPieces (unicodeEscape unit ++ rest) =
      (readPieces rest).map fun (pieces, rest) => (Piece.ofUnit unit :: pieces, rest) := by
  simp only [unicodeEscape, List.cons_append, List.nil_append, readPieces,
    unit?_unicodeEscape fits]
  cases readPieces rest <;> rfl

theorem ofUnit_toNat {c : Char} (low : c.toNat < 0x20) : Piece.ofUnit c.toNat = .char c := by
  rw [Piece.ofUnit, if_neg (by omega), Char.ofNat_toNat]

/-- A character stands for itself unless it is a quote, a backslash or a control
character. -/
theorem readPieces_plain {c : Char} (quote : c ≠ '\x22') (backslash : c ≠ '\\')
    (high : ¬ c.toNat < 0x20) (rest : List Char) :
    readPieces (c :: rest) =
      (readPieces rest).map fun (pieces, rest) => (.char c :: pieces, rest) := by
  rw [readPieces]
  · rw [if_neg quote, if_neg (by simp [backslash, high])]
    cases readPieces rest <;> rfl
  · intro _ _ _ _ _ same
    exact absurd same backslash
  · intro _ _ same
    exact absurd same backslash

theorem readPieces_short {c letter : Char} (known : shortEscape? letter = some c)
    (other : letter ≠ 'u') (rest : List Char) :
    readPieces ('\\' :: letter :: rest) =
      (readPieces rest).map fun (pieces, rest) => (.char c :: pieces, rest) := by
  rw [readPieces, known]
  · cases readPieces rest <;> rfl
  · intro _ _ _ _ _ same
    exact absurd same other

/-- A character is read back from the way it stands inside a string. -/
theorem readPieces_escape (c : Char) (rest : List Char) :
    readPieces (escape c ++ rest) =
      (readPieces rest).map fun (pieces, rest) => (.char c :: pieces, rest) := by
  fun_cases escape c
  case case8 low => rw [readPieces_unicodeEscape (by omega), ofUnit_toNat low]
  case case9 quote backslash _ _ _ _ _ high => exact readPieces_plain quote backslash high rest
  -- the others have an escape of one letter
  all_goals
    subst_vars
    exact readPieces_short rfl (by decide) rest

theorem readPieces_stringTail (text rest : List Char) :
    readPieces (stringTail text ++ rest) = some (text.map .char, rest) := by
  induction text with
  | nil => rfl
  | cons c text ih =>
    rw [stringTail, List.append_assoc] at ih
    rw [stringTail, List.flatMap_cons, List.append_assoc, List.append_assoc, readPieces_escape, ih]
    rfl

theorem joinPieces_map_char (text : List Char) : joinPieces (text.map .char) = some text := by
  induction text with
  | nil => rfl
  | cons c text ih => rw [List.map_cons, joinPieces, ih, Option.map_some]

/-- A string starts with a quote, after which its text is read back. -/
theorem exists_stringChars (text : Text) :
    ∃ tail, stringChars text = '\x22' :: tail ∧
      ∀ rest, readString (tail ++ rest) = some (text, rest) := by
  cases text with
  | some text =>
    refine ⟨_, rfl, fun rest => ?_⟩
    rw [readString, readPieces_stringTail]
    simp only [bind, Option.bind_some, pure, joinPieces_map_char, Option.map_some,
      String.ofList_toList]
  | none =>
    -- half of a surrogate pair is the only piece, and it has no character
    refine ⟨_, rfl, fun rest => ?_⟩
    rw [readString, List.append_assoc, readPieces_unicodeEscape (by decide)]
    rfl

/-! ## Values -/

mutual

/-- No number occurs in a value. -/
def Value.IsNumberFree : Value → Prop
  | .number _ => False
  | .array items => AreNumberFree items
  | .object members => HaveNumberFree members
  | _ => True

def AreNumberFree : List Value → Prop
  | [] => True
  | item :: rest => item.IsNumberFree ∧ AreNumberFree rest

def HaveNumberFree : List (Text × Value) → Prop
  | [] => True
  | (_, value) :: rest => value.IsNumberFree ∧ HaveNumberFree rest

end

theorem skipSpace_cons {c : Char} (other : isSpace c = false) (rest : List Char) :
    skipSpace (c :: rest) = c :: rest :=
  List.dropWhile_cons_of_neg (by rw [other]; exact Bool.false_ne_true)

/-- The text of a value starts with a character that no blank and no closing
bracket is. -/
theorem exists_chars {value : Value} (free : value.IsNumberFree) :
    ∃ c rest, value.chars = c :: rest ∧ isSpace c = false ∧ c ≠ ']' := by
  cases value with
  | null => exact ⟨_, _, rfl, by decide, by decide⟩
  | bool value => cases value <;> exact ⟨_, _, rfl, by decide, by decide⟩
  | number digits => exact free.elim
  | string text =>
    obtain ⟨tail, chars, _⟩ := exists_stringChars text
    exact ⟨_, _, chars, by decide, by decide⟩
  | array items => exact ⟨_, _, rfl, by decide, by decide⟩
  | object members => exact ⟨_, _, rfl, by decide, by decide⟩

theorem exists_itemsChars {item : Value} (free : item.IsNumberFree) (items : List Value) :
    ∃ c rest, itemsChars (item :: items) = c :: rest ∧ isSpace c = false ∧ c ≠ ']' := by
  obtain ⟨c, rest, chars, open_, more⟩ := exists_chars free
  refine ⟨c, rest ++ moreItemsChars items, ?_, open_, more⟩
  rw [itemsChars, chars, List.cons_append]

theorem exists_membersChars (member : Text × Value) (members : List (Text × Value)) :
    ∃ rest, membersChars (member :: members) = '\x22' :: rest := by
  obtain ⟨tail, chars, _⟩ := exists_stringChars member.1
  exact ⟨_, by rw [membersChars, chars, List.cons_append]⟩

theorem moreItemsChars_cons (item : Value) (items : List Value) :
    moreItemsChars (item :: items) = ',' :: itemsChars (item :: items) := by
  rw [moreItemsChars, itemsChars]

theorem moreMembersChars_cons (member : Text × Value) (members : List (Text × Value)) :
    moreMembersChars (member :: members) = ',' :: membersChars (member :: members) := by
  rw [moreMembersChars, membersChars]

/-! ## One piece at a time -/

theorem readValue_bracket {fuel : Nat} {c : Char} (open_ : isSpace c = false) (more : c ≠ ']')
    (rest : List Char) :
    readValue (fuel + 1) ('[' :: c :: rest) =
      (readItems fuel (c :: rest)).map fun (items, rest) => (.array items, rest) := by
  simp only [readValue, skipSpace_cons open_]
  split
  next same => exact absurd (List.cons.inj same).1 more
  next => rfl

theorem readValue_brace {fuel : Nat} (rest : List Char) :
    readValue (fuel + 1) ('\x7b' :: '\x22' :: rest) =
      (readMembers fuel ('\x22' :: rest)).map fun (members, rest) => (.object members, rest) := by
  simp only [readValue, skipSpace_cons (show isSpace '\x22' = false by decide)]
  rfl

theorem readItems_last {fuel : Nat} {text rest : List Char} {item : Value}
    (first : readValue fuel text = some (item, ']' :: rest)) :
    readItems (fuel + 1) text = some ([item], rest) := by
  rw [readItems, first]
  rfl

theorem readItems_more {fuel : Nat} {text rest : List Char} {item : Value}
    (first : readValue fuel text = some (item, ',' :: rest)) :
    readItems (fuel + 1) text =
      (readItems fuel (skipSpace rest)).map fun (items, rest) => (item :: items, rest) := by
  rw [readItems, first]
  simp only [bind, Option.bind_some, skipSpace_cons (show isSpace ',' = false by decide)]
  cases readItems fuel (skipSpace rest) <;> rfl

theorem readMembers_last {fuel : Nat} {text after rest : List Char} {name : Text} {value : Value}
    (first : readString text = some (name, ':' :: after))
    (open_ : skipSpace after = after)
    (second : readValue fuel after = some (value, '\x7d' :: rest)) :
    readMembers (fuel + 1) ('\x22' :: text) = some ([(name, value)], rest) := by
  rw [readMembers, first]
  simp only [bind, Option.bind_some, skipSpace_cons (show isSpace ':' = false by decide), open_,
    second]
  rfl

theorem readMembers_more {fuel : Nat} {text after rest : List Char} {name : Text} {value : Value}
    (first : readString text = some (name, ':' :: after))
    (open_ : skipSpace after = after)
    (second : readValue fuel after = some (value, ',' :: rest)) :
    readMembers (fuel + 1) ('\x22' :: text) =
      (readMembers fuel (skipSpace rest)).map
        fun (members, rest) => ((name, value) :: members, rest) := by
  rw [readMembers, first]
  simp only [bind, Option.bind_some, skipSpace_cons (show isSpace ':' = false by decide), open_,
    second, skipSpace_cons (show isSpace ',' = false by decide)]
  cases readMembers fuel (skipSpace rest) <;> rfl

theorem length_moreItemsChars_pos (items : List Value) : 0 < (moreItemsChars items).length := by
  cases items <;> simp [moreItemsChars]

theorem length_moreMembersChars_pos (members : List (Text × Value)) :
    0 < (moreMembersChars members).length := by
  cases members <;> simp [moreMembersChars]

/-! ## Whole values -/

mutual

/-- A reader has enough fuel if it has as much of it as there are characters. -/
theorem readValue_chars (value : Value) (free : value.IsNumberFree) {fuel : Nat}
    (enough : value.chars.length ≤ fuel) (rest : List Char) :
    readValue fuel (value.chars ++ rest) = some (value, rest) := by
  obtain ⟨_, _, nonempty, _⟩ := exists_chars free
  cases fuel with
  | zero =>
    rw [nonempty] at enough
    cases enough
  | succ fuel =>
    match value with
    | .null => rfl
    | .bool true => rfl
    | .bool false => rfl
    | .string text =>
      obtain ⟨tail, chars, read⟩ := exists_stringChars text
      rw [Value.chars, chars, List.cons_append, readValue, read, Option.map_some]
    | .array [] =>
      simp only [Value.chars, itemsChars, List.cons_append, List.nil_append, readValue,
        skipSpace_cons (show isSpace ']' = false by decide)]
    | .array (item :: items) =>
      rw [Value.chars, List.length_cons] at enough
      have read := readItems_chars item items free (Nat.le_of_succ_le_succ enough) rest
      obtain ⟨c, tail, chars, open_, more⟩ := exists_itemsChars free.1 items
      rw [chars, List.cons_append] at read
      rw [Value.chars, chars, List.cons_append, List.cons_append, readValue_bracket open_ more,
        read, Option.map_some]
    | .object [] =>
      simp only [Value.chars, membersChars, List.cons_append, List.nil_append, readValue,
        skipSpace_cons (show isSpace '\x7d' = false by decide)]
    | .object (member :: members) =>
      rw [Value.chars, List.length_cons] at enough
      have read := readMembers_chars member members free (Nat.le_of_succ_le_succ enough) rest
      obtain ⟨tail, chars⟩ := exists_membersChars member members
      rw [chars, List.cons_append] at read
      rw [Value.chars, chars, List.cons_append, List.cons_append, readValue_brace, read,
        Option.map_some]
termination_by fuel

theorem readItems_chars (item : Value) (items : List Value)
    (free : AreNumberFree (item :: items)) {fuel : Nat}
    (enough : (itemsChars (item :: items)).length ≤ fuel) (rest : List Char) :
    readItems fuel (itemsChars (item :: items) ++ rest) = some (item :: items, rest) := by
  have longer := length_moreItemsChars_pos items
  rw [itemsChars, List.length_append] at enough
  cases fuel with
  | zero => omega
  | succ fuel =>
    have first : readValue fuel (item.chars ++ (moreItemsChars items ++ rest)) =
        some (item, moreItemsChars items ++ rest) :=
      readValue_chars item free.1 (by omega) _
    rw [itemsChars, List.append_assoc]
    match items with
    | [] => exact readItems_last first
    | next :: items =>
      rw [moreItemsChars_cons, List.length_cons] at enough
      have read : readItems fuel (itemsChars (next :: items) ++ rest) =
          some (next :: items, rest) :=
        readItems_chars next items free.2 (by omega) rest
      obtain ⟨c, tail, chars, open_, _⟩ := exists_itemsChars free.2.1 items
      rw [moreItemsChars_cons, chars, List.cons_append, List.cons_append] at first
      rw [chars, List.cons_append] at read
      rw [moreItemsChars_cons, chars, List.cons_append, List.cons_append, readItems_more first,
        skipSpace_cons open_, read, Option.map_some]
termination_by fuel

theorem readMembers_chars (member : Text × Value) (members : List (Text × Value))
    (free : HaveNumberFree (member :: members)) {fuel : Nat}
    (enough : (membersChars (member :: members)).length ≤ fuel) (rest : List Char) :
    readMembers fuel (membersChars (member :: members) ++ rest) =
      some (member :: members, rest) := by
  obtain ⟨name, value⟩ := member
  have longer := length_moreMembersChars_pos members
  obtain ⟨tail, quoted, named⟩ := exists_stringChars name
  obtain ⟨c, front, chars, open_, _⟩ := exists_chars free.1
  rw [membersChars, quoted, List.length_append, List.length_cons, List.length_cons,
    List.length_append] at enough
  cases fuel with
  | zero => omega
  | succ fuel =>
    have second : readValue fuel (value.chars ++ (moreMembersChars members ++ rest)) =
        some (value, moreMembersChars members ++ rest) :=
      readValue_chars value free.1 (by omega) _
    have first := named (':' :: (value.chars ++ (moreMembersChars members ++ rest)))
    have after : skipSpace (value.chars ++ (moreMembersChars members ++ rest)) =
        value.chars ++ (moreMembersChars members ++ rest) := by
      rw [chars, List.cons_append, skipSpace_cons open_]
    rw [membersChars, quoted, List.cons_append, List.cons_append, List.append_assoc,
      List.cons_append, List.append_assoc]
    match members with
    | [] => exact readMembers_last first after second
    | next :: members =>
      rw [moreMembersChars_cons, List.length_cons] at enough
      have read : readMembers fuel (membersChars (next :: members) ++ rest) =
          some (next :: members, rest) :=
        readMembers_chars next members free.2 (by omega) rest
      obtain ⟨text, chars⟩ := exists_membersChars next members
      rw [moreMembersChars_cons, chars, List.cons_append, List.cons_append] at first after second
      rw [chars, List.cons_append] at read
      rw [moreMembersChars_cons, chars, List.cons_append, List.cons_append,
        readMembers_more first after second,
        skipSpace_cons (show isSpace '\x22' = false by decide), read, Option.map_some]
termination_by fuel

end

/-- The text of a value without numbers denotes this value. -/
theorem read?_write {value : Value} (free : value.IsNumberFree) :
    read? value.write = some value := by
  obtain ⟨c, tail, chars, open_, _⟩ := exists_chars free
  have start : skipSpace value.chars = value.chars := by rw [chars, skipSpace_cons open_]
  have enough : value.chars.length ≤ 2 * value.chars.length + 2 := by omega
  have read := readValue_chars value free enough []
  rw [List.append_nil] at read
  rw [read?, Value.write, String.toList_ofList, ofChars?, start, read]
  rfl

end GuardedCache.Json
