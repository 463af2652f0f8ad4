/-!
# White space

The characters with the Unicode property `White_Space`.  Space, tab, line feed
and carriage return are four of the twenty-five.
-/

namespace GuardedCache.Text

/-- The code points with the property `White_Space`, as closed ranges. -/
def blankRanges : List (Nat × Nat) :=
  [(0x09, 0x0D), (0x20, 0x20), (0x85, 0x85), (0xA0, 0xA0), (0x1680, 0x1680),
   (0x2000, 0x200A), (0x2028, 0x2029), (0x202F, 0x202F), (0x205F, 0x205F),
   (0x3000, 0x3000)]

/-- Whether a character is white space. -/
def isBlank (c : Char) : Bool :=
  blankRanges.any fun (low, high) => low ≤ c.toNat && c.toNat ≤ high

/-- A text without the white space at its front. -/
def dropBlanks (text : List Char) : List Char :=
  text.dropWhile isBlank

example : isBlank ' ' ∧ isBlank '\t' ∧ isBlank '\n' ∧ isBlank '\r' ∧
    ¬ isBlank 'x' := by decide

end GuardedCache.Text
