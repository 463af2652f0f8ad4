import Mathlib.Data.List.Forall2
import GuardedCache.Admin
import GuardedCache.Proofs.Circuit.Dating
import GuardedCache.Proofs.Json.RoundTrip
import GuardedCache.Proofs.Time.RoundTrip

/-!
# The list of breakers

The admin surface lists the registered breakers in a JSON text.  `Line.readAll?` reads such a
text as its receiver does, and what it finds there is the registry: one line for each name, in
the order of the names, with the state of the breaker and the second in which it entered that
state.  Looking at the list or at the snapshots changes nothing, and a circuit whose time is up
stays open until somebody asks for a call.
-/

namespace GuardedCache

open Circuit Http

namespace Timestamp

/-- The moment cut off to a whole second. -/
def wholeSecond (t : Timestamp) : Timestamp where
  date := t.date
  time := { t.time with
    nanos := 0
    valid := ⟨t.time.valid.1, t.time.valid.2.1, t.time.valid.2.2.1, by decide⟩ }

/-- The text of whole seconds is the canonical text of the moment that is cut off. -/
theorem writeSeconds_eq (t : Timestamp) : t.writeSeconds = t.wholeSecond.write := by
  have fraction : fractionText t.wholeSecond.time.nanos = [] := rfl
  rw [writeSeconds, write, chars, fraction, List.append_nil]
  rfl

theorem read?_writeSeconds (t : Timestamp) : read? t.writeSeconds = some t.wholeSecond := by
  rw [writeSeconds_eq, read?_write]

end Timestamp

namespace Admin

/-! ## What the receiver reads -/

/-- What a line of the list says about a breaker. -/
structure Line where
  name : String
  state : State
  lastChange : Timestamp
deriving DecidableEq, Repr

namespace Line

/-- The text of the only member of an object with a name. -/
def textOf? (members : List (Json.Text × Json.Value)) (name : String) : Option String :=
  match Json.Value.membersNamed members name with
  | [value] => value.text?
  | _ => none

/-- The line that a JSON value denotes. -/
def ofJson? : Json.Value → Option Line
  | .object members => do
    let name ← textOf? members "name"
    let state ← State.ofName? (← textOf? members "state")
    let lastChange ← Timestamp.read? (← textOf? members "last_change")
    return { name, state, lastChange }
  | _ => none

/-- The lines of a JSON array. -/
def readAll? (body : String) : Option (List Line) :=
  match Json.read? body with
  | some (.array items) => items.mapM ofJson?
  | _ => none

end Line

/-- The line about a breaker. -/
def lineOf (b : Breaker) : Line where
  name := b.name
  state := b.state
  lastChange := b.phase.sinceWall.wholeSecond

theorem ofJson?_statusOf (b : Breaker) : Line.ofJson? (statusOf b) = some (lineOf b) := by
  have name : Line.textOf? [(some "name", .str b.name), (some "state", b.phase.state.toJson),
      (some "last_change", .str b.phase.sinceWall.writeSeconds)] "name" = some b.name := rfl
  have state : Line.textOf? [(some "name", .str b.name), (some "state", b.phase.state.toJson),
      (some "last_change", .str b.phase.sinceWall.writeSeconds)] "state" =
        some b.phase.state.name := rfl
  have date : Line.textOf? [(some "name", .str b.name), (some "state", b.phase.state.toJson),
      (some "last_change", .str b.phase.sinceWall.writeSeconds)] "last_change" =
        some b.phase.sinceWall.writeSeconds := rfl
  simp only [statusOf, Json.Value.record, List.map_cons, List.map_nil, Line.ofJson?, name, state,
    date, bind, Option.bind_some, State.ofName?_name, Timestamp.read?_writeSeconds, pure]
  rfl

theorem mapM_ofJson?_map_statusOf (breakers : List Breaker) :
    (breakers.map statusOf).mapM Line.ofJson? = some (breakers.map lineOf) := by
  induction breakers with
  | nil => rfl
  | cons b rest ih =>
    rw [List.map_cons, List.map_cons, List.mapM_cons, ofJson?_statusOf, ih]
    rfl

theorem areNumberFree_map_statusOf (breakers : List Breaker) :
    Json.AreNumberFree (breakers.map statusOf) := by
  induction breakers with
  | nil => trivial
  | cons b rest ih => exact ⟨⟨trivial, trivial, trivial, trivial⟩, ih⟩

/-- The receiver of the list reads one line for each snapshot. -/
theorem readAll?_list (f : Fleet) :
    Line.readAll? (list f).body = some (f.snapshots.map lineOf) := by
  have free : (Json.Value.array (f.snapshots.map statusOf)).IsNumberFree :=
    areNumberFree_map_statusOf f.snapshots
  have read : Json.read? (list f).body = some (.array (f.snapshots.map statusOf)) :=
    Json.read?_write free
  rw [Line.readAll?, read]
  exact mapM_ofJson?_map_statusOf f.snapshots

/-! ## The order of the names -/

/-- Registered breakers are listed in the strict order of their names. -/
theorem sorted_pairwise (f : Fleet) :
    f.registry.sorted.Pairwise fun first second => first.1 < second.1 := by
  have ordered : f.registry.sorted.Pairwise fun first second => first.1 ≤ second.1 := by
    refine (List.pairwise_mergeSort ?_ ?_ f.registry.names.entries).imp of_decide_eq_true
    · intro first second third below above
      exact decide_eq_true (String.le_trans (of_decide_eq_true below) (of_decide_eq_true above))
    · intro first second
      rw [Bool.or_eq_true, decide_eq_true_eq, decide_eq_true_eq]
      exact String.le_total first.1 second.1
  have distinct := List.pairwise_map.mp f.nodup_sorted
  exact (ordered.and distinct).imp fun ⟨below, different⟩ => Std.lt_of_le_of_ne below different

/-! ## The list after a run -/

def listPath : String := "/api/circuit-breakers"

theorem respond_list (query : Option String) (f : Fleet) :
    respond "GET" ⟨listPath, query⟩ f = (.ok (list f), f) :=
  (if_pos rfl).trans rfl

/-- What a line says about the breaker under a name after a run: its state, and what the clock
showed, in whole seconds, when it entered this state. -/
structure Line.Describes (f : Fleet) (uses : List Fleet.Use) (row : String × Handle)
    (line : Line) : Prop where
  name_eq : line.name = row.1
  state_eq : line.state = ((f.afterUses uses).breaker row.2).state
  lastChange_eq : ∃ m, f.entering? row.2 uses = some m ∧
    line.lastChange = m.before.clock.wall.wholeSecond

/-- What a fleet shows after a run is its registry: `rows` are the names with the breakers that
are registered under them. -/
structure Mirrors (f : Fleet) (uses : List Fleet.Use) (rows : List (String × Handle))
    (response : Response) : Prop where
  registered : ∀ name handle, (name, handle) ∈ rows ↔ (f.afterUses uses).find? name = some handle
  ascending : rows.Pairwise fun first second => first.1 < second.1
  isJson : response.status = 200 ∧ response.contentType = some "application/json"
  lines : ∃ lines, Line.readAll? response.body = some lines ∧
    List.Forall₂ (Line.Describes f uses) rows lines
  /-- The snapshots come in the same order and show each breaker with all its counters. -/
  snapshots : (f.afterUses uses).told .snapshots =
    .shown (rows.map fun row => (f.afterUses uses).breaker row.2)
  dated : ∀ row ∈ rows, ((f.afterUses uses).breaker row.2).name = row.1 ∧
    ∃ m, f.entering? row.2 uses = some m ∧
      ((f.afterUses uses).breaker row.2).phase.sinceWall = m.before.clock.wall
  /-- A circuit whose time is up is shown as open, and open it stays. -/
  overdue : ∀ row ∈ rows, ∀ now, (f.afterUses uses).clock.read = .ok now →
    ((f.afterUses uses).breaker row.2).state = .opened →
      ((f.afterUses uses).breaker row.2).IsDue now →
        ∃ lines line, Line.readAll? response.body = some lines ∧ line ∈ lines ∧
          line.name = row.1 ∧ line.state = .opened

theorem mirrors_list {f : Fleet} {uses : List Fleet.Use} (sound : (f.afterUses uses).IsSound)
    (dated : ∀ handle < (f.afterUses uses).breakers.length, ∃ m, f.entering? handle uses = some m ∧
      ((f.afterUses uses).breaker handle).phase.sinceWall = m.before.clock.wall) :
    Mirrors f uses (f.afterUses uses).registry.sorted (list (f.afterUses uses)) := by
  have registered (name : String) (handle : Handle) :
      (name, handle) ∈ (f.afterUses uses).registry.sorted ↔
        (f.afterUses uses).find? name = some handle := Fleet.mem_sorted_iff _ name handle
  have bears : ∀ row ∈ (f.afterUses uses).registry.sorted,
      ((f.afterUses uses).breaker row.2).name = row.1 ∧
        ∃ m, f.entering? row.2 uses = some m ∧
          ((f.afterUses uses).breaker row.2).phase.sinceWall = m.before.clock.wall := by
    intro row member
    have found := (registered row.1 row.2).mp member
    exact ⟨sound.named row.1 row.2 found, dated row.2 (sound.inside row.1 row.2 found)⟩
  refine {
    registered
    ascending := sorted_pairwise _
    isJson := ⟨rfl, rfl⟩
    lines := ⟨_, readAll?_list _, ?_⟩
    snapshots := rfl
    dated := bears
    overdue := ?_ }
  · rw [Fleet.snapshots, List.map_map, List.forall₂_map_right_iff, List.forall₂_same]
    intro row member
    obtain ⟨named, m, entry, wall⟩ := bears row member
    exact ⟨named, rfl, m, entry, congrArg Timestamp.wholeSecond wall⟩
  · intro row member now _ opened _
    refine ⟨_, lineOf ((f.afterUses uses).breaker row.2), readAll?_list _, ?_, (bears row member).1,
      opened⟩
    exact List.mem_map_of_mem (List.mem_map_of_mem (f := fun row => _) member)

/-- After every run the list and the snapshots mirror the registry, and the fleet that has shown
them is the same as before. -/
theorem listing_mirrors_registry (clock : Clock) (defaults : Config) (observers : List Observer)
    (uses : List Fleet.Use) (query : Option String) :
    let f := Fleet.unused clock defaults observers
    (∃ rows response, respond "GET" ⟨listPath, query⟩ (f.afterUses uses) =
        (.ok response, f.afterUses uses) ∧ Mirrors f uses rows response) ∧
      (f.afterUses uses).afterUse .snapshots = f.afterUses uses := by
  intro f
  have sound := (Fleet.isSound_unused clock defaults observers).afterUses uses
  exact ⟨⟨_, _, respond_list query _, mirrors_list sound fun _ inside => Fleet.exists_entry inside⟩,
    rfl⟩

end Admin

end GuardedCache
