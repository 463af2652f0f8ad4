import GuardedCache.Text.Decimal
import GuardedCache.Yaml.Scalar.Plain

/-!
# Block scalars

A block scalar is a run of lines that are indented by the same number of
spaces, which is given in its header or found from its first lines.  A literal
one keeps its line breaks, a folded one folds those between lines that start
with a word.  The header also says what becomes of the breaks at the end.
-/

namespace GuardedCache.Yaml

/-- What becomes of the line breaks at the end of a block scalar. -/
inductive Chomping where
  | strip
  | clip
  | keep
deriving DecidableEq, Repr

/-- The header of a block scalar. -/
structure BlockHeader where
  /-- What becomes of the breaks at the end. -/
  chomping : Chomping := .clip
  /-- The additional indentation, if it is given. -/
  indentation : Option Nat := none

/-- The chomping at the front of a source, if there is one. -/
def chomping? : Source → Option (Chomping × Source)
  | [] => none
  | p :: rest =>
    if p.char = '+' then some (.keep, rest)
    else if p.char = '-' then some (.strip, rest)
    else none

/-- The digit at the front of a source, if there is one. -/
def indentation? : Source → Option (Nat × Source)
  | [] => none
  | p :: rest => (Text.Decimal.digitValue? p.char).map fun digit => (digit, rest)

/-- The header at the front of a source, with chomping and indentation in
either order. -/
def readHeader (s : Source) : BlockHeader × Source :=
  match chomping? s with
  | some (chomping, rest) =>
    match indentation? rest with
    | some (digit, rest) => ({ chomping, indentation := some digit }, rest)
    | none => ({ chomping }, rest)
  | none =>
    match indentation? s with
    | some (digit, rest) =>
      match chomping? rest with
      | some (chomping, rest) => ({ chomping, indentation := some digit }, rest)
      | none => ({ indentation := some digit }, rest)
    | none => ({}, s)

/-- The breaks of the empty lines at the front of a source, the greatest
indentation seen, and what follows.  Only spaces may indent.  If the
indentation of the scalar is known, spaces beyond it are not skipped. -/
def emptyLines (indent : Option Nat) (widest : Nat) : Source → Option (List Char × Nat × Source)
  | [] => some ([], widest, [])
  | p :: rest =>
    let inside := indent.all (p.column < ·)
    if p.char = ' ' ∧ inside then emptyLines indent widest rest
    else if p.char = '\t' ∧ inside then none
    else if isBreak p.char then
      (emptyLines indent (max widest p.column) rest).map
        fun (breaks, widest, rest) => (p.char :: breaks, widest, rest)
    else some ([], max widest p.column, p :: rest)

theorem length_emptyLines {indent : Option Nat} {widest : Nat} {s : Source}
    {found : List Char × Nat × Source} (h : emptyLines indent widest s = some found) :
    found.2.2.length ≤ s.length := by
  induction s generalizing widest found with
  | nil =>
    simp only [emptyLines, Option.some.injEq] at h
    subst h
    exact Nat.le_refl _
  | cons p rest ih =>
    rw [emptyLines] at h
    simp only at h
    split at h
    · exact Nat.le_succ_of_le (ih h)
    split at h
    · contradiction
    split at h
    · obtain ⟨inner, hinner, rfl⟩ := Option.map_eq_some_iff.mp h
      have shorter := ih hinner
      exact Nat.le_succ_of_le shorter
    · obtain rfl := Option.some.inj h
      exact Nat.le_refl _

/-- A line of a block scalar with the line breaks after it. -/
structure BlockLine where
  /-- The text after the indentation. -/
  text : List Char
  /-- The break at its end, if it is not the end of the document. -/
  ending : List Char
  /-- The breaks of the empty lines after it. -/
  blanks : List Char

/-- The lines at the front of a source that start in a column, and what
follows. -/
def blockLines (indent : Nat) (s : Source) : Option (List BlockLine × Source) :=
  if s.head?.any fun p => p.column = indent then
    let text := (spanOf (!isBreak ·) s).1
    match _atBreak : skipLine s with
    | [] => some ([⟨text, [], []⟩], [])
    | b :: more =>
      match _found : emptyLines (some indent) 0 more with
      | none => none
      | some (blanks, _, rest) =>
        (blockLines indent rest).map
          fun (lines, rest) => (⟨text, [b.char], blanks⟩ :: lines, rest)
  else some ([], s)
termination_by s.length
decreasing_by
  have shorter := length_emptyLines _found
  have suffix := (List.dropWhile_suffix (l := s) fun p => !isBreak p.char).length_le
  rw [skipLine] at _atBreak
  simp only [_atBreak, List.length_cons] at suffix shorter
  omega

/-- The text of lines after a break, the breaks of some empty lines and
perhaps a line that starts with a blank. -/
def joinLines (folded : Bool) (ending blanks : List Char) (afterBlank : Bool)
    (chomping : Chomping) : List BlockLine → List Char
  | [] =>
    match chomping with
    | .strip => []
    | .clip => ending
    | .keep => ending ++ blanks
  | line :: lines =>
    let startsBlank := line.text.head?.any isBlank
    let gap :=
      if folded ∧ ending = ['\n'] ∧ ¬ afterBlank ∧ ¬ startsBlank then
        if blanks = [] then [' '] else blanks
      else ending ++ blanks
    gap ++ line.text ++ joinLines folded line.ending line.blanks startsBlank chomping lines

/-- A block scalar after its mark, in a collection whose lines start at column
`limit` or later. -/
def blockScalar (folded : Bool) (limit : Nat) (s : Source) : Option Lexeme := do
  let (header, rest) := readHeader s
  let rest ← endLine? rest
  let indent ← match header.indentation with
    | none => some none
    | some 0 => none
    | some digit => some (some (limit - 1 + digit))
  let (blanks, widest, rest) ← emptyLines indent 0 rest
  let (lines, rest) ← blockLines (indent.getD (max (max widest limit) 1)) rest
  return { text := joinLines folded [] blanks false header.chomping lines, rest }

end GuardedCache.Yaml
