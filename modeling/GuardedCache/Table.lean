/-!
# Tables

A table maps keys to values and keeps them in the order in which the keys first
came.  No key stands in it twice.  `get?_insert` and `get?_erase` say what the
two ways to change a table do to what it holds.
-/

namespace GuardedCache

/-- A finite map with distinct keys in a fixed order. -/
structure Table (κ α : Type) where
  /-- The keys and their values. -/
  entries : List (κ × α)
  /-- No key stands in the table twice. -/
  distinct : (entries.map Prod.fst).Nodup

namespace Table

variable {κ α : Type}

/-- The table without keys. -/
def empty : Table κ α := ⟨[], List.nodup_nil⟩

instance : Inhabited (Table κ α) := ⟨empty⟩

/-- The keys in order. -/
def keys (t : Table κ α) : List κ := t.entries.map Prod.fst

/-- The number of keys. -/
def size (t : Table κ α) : Nat := t.entries.length

variable [DecidableEq κ]

/-- The value of the first entry with a key. -/
def find? (entries : List (κ × α)) (key : κ) : Option α :=
  match entries with
  | [] => none
  | (k, value) :: rest => if k = key then some value else find? rest key

/-- The value of a key. -/
def get? (t : Table κ α) (key : κ) : Option α :=
  find? t.entries key

/-- Entries in which the value of a key is replaced, or added at the end. -/
def put (entries : List (κ × α)) (key : κ) (value : α) : List (κ × α) :=
  match entries with
  | [] => [(key, value)]
  | (k, old) :: rest =>
    if k = key then (k, value) :: rest else (k, old) :: put rest key value

/-- Entries without those of a key. -/
def drop (entries : List (κ × α)) (key : κ) : List (κ × α) :=
  entries.filter fun entry => entry.1 ≠ key

theorem mem_keys_put {entries : List (κ × α)} {key other : κ} {value : α} :
    other ∈ (put entries key value).map Prod.fst ↔
      other = key ∨ other ∈ entries.map Prod.fst := by
  induction entries with
  | nil => simp [put]
  | cons entry rest ih =>
    obtain ⟨k, old⟩ := entry
    by_cases h : k = key
    · subst h
      simp [put]
    · simp only [put, h, if_false, List.map_cons, List.mem_cons, ih]
      grind

theorem nodup_keys_put {entries : List (κ × α)} (key : κ) (value : α)
    (distinct : (entries.map Prod.fst).Nodup) :
    ((put entries key value).map Prod.fst).Nodup := by
  induction entries with
  | nil => simp [put]
  | cons entry rest ih =>
    obtain ⟨k, old⟩ := entry
    rw [List.map_cons, List.nodup_cons] at distinct
    by_cases h : k = key
    · subst h
      simpa [put] using distinct
    · simp only [put, h, if_false, List.map_cons, List.nodup_cons]
      refine ⟨fun hmem => ?_, ih distinct.2⟩
      exact (mem_keys_put.mp hmem).elim h distinct.1

/-- The table in which a key has a value. -/
def insert (t : Table κ α) (key : κ) (value : α) : Table κ α where
  entries := put t.entries key value
  distinct := nodup_keys_put key value t.distinct

/-- The table in which a key has no value. -/
def erase (t : Table κ α) (key : κ) : Table κ α where
  entries := drop t.entries key
  distinct := (t.distinct).sublist (List.filter_sublist.map Prod.fst)

/-- The table with the given entries.  Of the entries with the same key the
last one counts. -/
def ofList (entries : List (κ × α)) : Table κ α :=
  entries.foldl (fun t (key, value) => t.insert key value) empty

@[simp]
theorem get?_empty (key : κ) : (empty : Table κ α).get? key = none := rfl

theorem find?_put (entries : List (κ × α)) (key other : κ) (value : α) :
    find? (put entries key value) other =
      if other = key then some value else find? entries other := by
  induction entries with
  | nil =>
    by_cases h : other = key
    · simp [put, find?, h]
    · simp [put, find?, h, Ne.symm h]
  | cons entry rest ih =>
    obtain ⟨k, old⟩ := entry
    by_cases h : k = key
    · subst h
      by_cases ho : other = k
      · simp [put, find?, ho]
      · simp [put, find?, ho, Ne.symm ho]
    · by_cases ho : k = other
      · subst ho
        simp [put, find?, h]
      · simp [put, find?, h, ho, ih]

theorem find?_drop (entries : List (κ × α)) (key other : κ) :
    find? (drop entries key) other =
      if other = key then none else find? entries other := by
  induction entries with
  | nil => simp [drop, find?]
  | cons entry rest ih =>
    obtain ⟨k, old⟩ := entry
    rw [drop] at ih
    by_cases h : k = key
    · subst h
      by_cases ho : other = k
      · simpa [drop, find?, ho] using ih
      · simpa [drop, find?, ho, Ne.symm ho] using ih
    · by_cases ho : k = other
      · subst ho
        simp [drop, find?, h]
      · simpa [drop, find?, h, ho] using ih

theorem mem_iff_find? {entries : List (κ × α)} (distinct : (entries.map Prod.fst).Nodup)
    {key : κ} {value : α} : (key, value) ∈ entries ↔ find? entries key = some value := by
  induction entries with
  | nil => simp [find?]
  | cons entry rest ih =>
    obtain ⟨k, old⟩ := entry
    rw [List.map_cons, List.nodup_cons] at distinct
    rw [find?, List.mem_cons, ih distinct.2]
    by_cases h : k = key
    · subst h
      have other : find? rest k ≠ some value := fun found =>
        distinct.1 (List.mem_map.mpr ⟨(k, value), (ih distinct.2).mpr found, rfl⟩)
      simp [other, eq_comm]
    · simp [h, Ne.symm h]

theorem find?_eq_none_of_notMem {entries : List (κ × α)} {key : κ}
    (absent : key ∉ entries.map Prod.fst) : find? entries key = none := by
  induction entries with
  | nil => rfl
  | cons entry rest ih =>
    rw [List.map_cons, List.mem_cons, not_or] at absent
    rw [find?, if_neg (Ne.symm absent.1)]
    exact ih absent.2

/-- The entries of a table are the values that its keys have. -/
theorem mem_entries_iff (t : Table κ α) (key : κ) (value : α) :
    (key, value) ∈ t.entries ↔ t.get? key = some value :=
  mem_iff_find? t.distinct

/-- Inserting changes the value of one key and of no other. -/
theorem get?_insert (t : Table κ α) (key other : κ) (value : α) :
    (t.insert key value).get? other =
      if other = key then some value else t.get? other :=
  find?_put t.entries key other value

/-- Erasing takes the value of one key and of no other. -/
theorem get?_erase (t : Table κ α) (key other : κ) :
    (t.erase key).get? other = if other = key then none else t.get? other :=
  find?_drop t.entries key other

end Table

end GuardedCache
