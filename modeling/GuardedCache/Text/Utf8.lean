/-!
# UTF-8

Decoding of bytes.  `next` takes one character from the front, or the longest
start of a character that is broken off there.  `decode?` accepts only whole
characters; `decodeLossy` puts a replacement character for each broken one.
-/

namespace GuardedCache.Text.Utf8

/-- Whether a byte continues a character. -/
def isTail (byte : UInt8) : Bool := 0x80 ≤ byte && byte ≤ 0xBF

/-- The six bits that a continuing byte carries. -/
def tailBits (byte : UInt8) : Nat := byte.toNat - 0x80

/-- Whether a byte can follow the first byte of a character of three bytes. -/
def isSecondOfThree (first second : UInt8) : Bool :=
  if first = 0xE0 then 0xA0 ≤ second && second ≤ 0xBF
  else if first = 0xED then 0x80 ≤ second && second ≤ 0x9F
  else isTail second

/-- Whether a byte can follow the first byte of a character of four bytes. -/
def isSecondOfFour (first second : UInt8) : Bool :=
  if first = 0xF0 then 0x90 ≤ second && second ≤ 0xBF
  else if first = 0xF4 then 0x80 ≤ second && second ≤ 0x8F
  else isTail second

/-- A character of two bytes after its first byte. -/
def nextOfTwo (first : UInt8) (rest : List UInt8) : Option Char × List UInt8 :=
  match rest with
  | b :: rest' =>
    if isTail b then (some (Char.ofNat ((first.toNat - 0xC0) * 64 + tailBits b)), rest')
    else (none, rest)
  | [] => (none, [])

/-- A character of three bytes after its first byte. -/
def nextOfThree (first : UInt8) (rest : List UInt8) : Option Char × List UInt8 :=
  match rest with
  | b :: rest' =>
    if isSecondOfThree first b then
      match rest' with
      | c :: rest'' =>
        if isTail c then
          (some (Char.ofNat (((first.toNat - 0xE0) * 64 + tailBits b) * 64 + tailBits c)), rest'')
        else (none, rest')
      | [] => (none, [])
    else (none, rest)
  | [] => (none, [])

/-- A character of four bytes after its first two bytes. -/
def nextOfFourTail (bits : Nat) (rest : List UInt8) : Option Char × List UInt8 :=
  match rest with
  | c :: rest' =>
    if isTail c then
      match rest' with
      | d :: rest'' =>
        if isTail d then
          (some (Char.ofNat ((bits * 64 + tailBits c) * 64 + tailBits d)), rest'')
        else (none, rest')
      | [] => (none, [])
    else (none, rest)
  | [] => (none, [])

/-- A character of four bytes after its first byte. -/
def nextOfFour (first : UInt8) (rest : List UInt8) : Option Char × List UInt8 :=
  match rest with
  | b :: rest' =>
    if isSecondOfFour first b then
      nextOfFourTail ((first.toNat - 0xF0) * 64 + tailBits b) rest'
    else (none, rest)
  | [] => (none, [])

/-- The character that starts with a byte, or none if it is broken off, and
the bytes after it. -/
def next (first : UInt8) (rest : List UInt8) : Option Char × List UInt8 :=
  if first < 0x80 then (some (Char.ofNat first.toNat), rest)
  else if 0xC2 ≤ first && first ≤ 0xDF then nextOfTwo first rest
  else if 0xE0 ≤ first && first ≤ 0xEF then nextOfThree first rest
  else if 0xF0 ≤ first && first ≤ 0xF4 then nextOfFour first rest
  else (none, rest)

theorem length_nextOfTwo (first : UInt8) (rest : List UInt8) :
    (nextOfTwo first rest).2.length ≤ rest.length := by
  fun_cases nextOfTwo first rest <;> simp

theorem length_nextOfThree (first : UInt8) (rest : List UInt8) :
    (nextOfThree first rest).2.length ≤ rest.length := by
  fun_cases nextOfThree first rest <;> simp
  omega

theorem length_nextOfFourTail (bits : Nat) (rest : List UInt8) :
    (nextOfFourTail bits rest).2.length ≤ rest.length := by
  fun_cases nextOfFourTail bits rest <;> simp
  omega

theorem length_nextOfFour (first : UInt8) (rest : List UInt8) :
    (nextOfFour first rest).2.length ≤ rest.length := by
  fun_cases nextOfFour first rest with
  | case1 b rest' =>
    have := length_nextOfFourTail ((first.toNat - 0xF0) * 64 + tailBits b) rest'
    simp only [List.length_cons]
    omega
  | case2 => simp
  | case3 => simp

theorem length_next (first : UInt8) (rest : List UInt8) :
    (next first rest).2.length ≤ rest.length := by
  unfold next
  split
  · simp
  split
  · exact length_nextOfTwo first rest
  split
  · exact length_nextOfThree first rest
  split
  · exact length_nextOfFour first rest
  · simp

/-- The characters of some bytes, with none for each broken one. -/
def characters : List UInt8 → List (Option Char)
  | [] => []
  | first :: rest => (next first rest).1 :: characters (next first rest).2
termination_by bytes => bytes.length
decreasing_by
  have := length_next first rest
  simp only [List.length_cons]
  omega

/-- The text of some bytes, if they are whole characters. -/
def decode? (bytes : List UInt8) : Option String :=
  ((characters bytes).mapM id).map String.ofList

/-- The text of some bytes, with a replacement character for each broken
character. -/
def decodeLossy (bytes : List UInt8) : String :=
  String.ofList ((characters bytes).map fun c => c.getD '\ufffd')

end GuardedCache.Text.Utf8
