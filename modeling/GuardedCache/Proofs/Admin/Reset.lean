import GuardedCache.Admin
import GuardedCache.Proofs.Circuit.Registration
import GuardedCache.Proofs.Circuit.Renewal
import GuardedCache.Proofs.Http.Form

/-!
# Resets by name

A reset on the admin surface does something to the breaker that its query names, or it does
nothing at all.  `Asks` says what a query asks for in terms of the values that it gives for the
two parameters; a query that asks for nothing `IsMalformed` in one of a few ways.  The parameters
are read one by one, so what was read of them holds a value at most once
(`foldlM_add_eq_ok_iff`).

A name reaches the surface in a URI, so it has to be encoded, and every encoding of it asks for
just that name.
-/

namespace GuardedCache.Admin

open Circuit Http

/-! ## What a query asks for -/

/-- The values that pairs give for a parameter. -/
def values (pairs : List (String × String)) (key : String) : List String :=
  (pairs.filter fun pair => pair.1 = key).map Prod.snd

/-- The values that a query gives for a parameter. -/
def valuesOf (query : Option String) (key : String) : List String :=
  values (formPairs (query.getD "")) key

def boolText : Bool → String
  | true => "true"
  | false => "false"

theorem readBool_boolText (value : Bool) : readBool (boolText value) = .ok value := by
  cases value <;> rfl

theorem boolText_injective : Function.Injective boolText := by
  intro a b same
  have read := readBool_boolText a
  rw [same, readBool_boolText] at read
  exact (Except.ok.inj read).symm

theorem readBool_eq_ok_iff {text : String} {value : Bool} :
    readBool text = .ok value ↔ text = boolText value := by
  constructor
  · intro read
    rw [readBool] at read
    split at read
    next same => cases read; exact same
    split at read
    next same => cases read; exact same
    · cases read
  · rintro rfl
    exact readBool_boolText value

section Values

variable (pairs : List (String × String)) (key : String) (value : String)

theorem values_nil : values [] key = [] := rfl

theorem values_cons_self : values ((key, value) :: pairs) key = value :: values pairs key := by
  rw [values, List.filter_cons, if_pos (decide_eq_true rfl)]
  rfl

theorem values_cons_of_ne {other : String} (different : key ≠ other) :
    values ((key, value) :: pairs) other = values pairs other := by
  rw [values, List.filter_cons, if_neg (by simpa using different)]
  rfl

end Values

theorem toList_inj {α : Type} {first second : Option α} :
    first.toList = second.toList ↔ first = second := by
  cases first <;> cases second <;> simp

theorem toList_ne_cons_cons {α : Type} (held : Option α) (first second : α) (rest : List α) :
    first :: second :: rest ≠ held.toList := by
  cases held <;> simp

theorem ne_of_readBool_error {text : String} {error : QueryError}
    (read : readBool text = .error error) (held : Option Bool) (rest : List String) :
    text :: rest ≠ (held.map boolText).toList := by
  intro same
  cases held with
  | none => cases same
  | some flag =>
    obtain rfl : text = boolText flag := (List.cons.inj same).1
    cases (readBool_boolText flag).symm.trans read

/-- What a request holds in the end is what it held before and what the pairs say, and that is
at most one value for each parameter. -/
theorem foldlM_add_eq_ok_iff (pairs : List (String × String)) (before after : ResetRequest) :
    pairs.foldlM ResetRequest.add before = .ok after ↔
      before.name.toList ++ values pairs "name" = after.name.toList ∧
        (before.keepConfig.map boolText).toList ++ values pairs "keep_config" =
          (after.keepConfig.map boolText).toList := by
  induction pairs generalizing before with
  | nil =>
    have keeps : before.keepConfig.map boolText = after.keepConfig.map boolText ↔
        before.keepConfig = after.keepConfig :=
      (Option.map_injective boolText_injective).eq_iff
    rw [values_nil, values_nil, List.append_nil, List.append_nil, toList_inj, toList_inj, keeps,
      List.foldlM_nil]
    obtain ⟨name, keep⟩ := before
    obtain ⟨name', keep'⟩ := after
    simp [pure, Except.pure]
  | cons pair pairs ih =>
    obtain ⟨key, value⟩ := pair
    rw [List.foldlM_cons, ResetRequest.add]
    by_cases name : key = "name"
    · subst name
      rw [values_cons_self, values_cons_of_ne _ _ _ (by decide), if_pos rfl]
      cases held : before.name with
      | some first =>
        exact ⟨nofun, fun ⟨twice, _⟩ => absurd twice (toList_ne_cons_cons _ _ _ _)⟩
      | none => exact ih { before with name := some value }
    by_cases keep : key = "keep_config"
    · subst keep
      rw [values_cons_self, values_cons_of_ne _ _ _ name, if_neg name, if_pos rfl]
      cases held : before.keepConfig with
      | some first =>
        exact ⟨nofun, fun ⟨_, twice⟩ => absurd twice (toList_ne_cons_cons _ _ _ _)⟩
      | none =>
        cases read : readBool value with
        | ok flag =>
          rw [readBool_eq_ok_iff] at read
          subst read
          exact ih { before with keepConfig := some flag }
        | error error =>
          exact ⟨nofun, fun ⟨_, kept⟩ => absurd kept (ne_of_readBool_error read _ _)⟩
    · rw [values_cons_of_ne _ _ _ name, values_cons_of_ne _ _ _ keep, if_neg name, if_neg keep]
      exact ih before

/-- A query asks for a reset of the breaker with a name.  The breaker is kept only if the query
says so. -/
structure Asks (query : Option String) (name : String) (keep : Bool) : Prop where
  named : valuesOf query "name" = [name]
  nonempty : name ≠ ""
  kept : keep = true → valuesOf query "keep_config" = ["true"]
  forgotten : keep = false →
    valuesOf query "keep_config" = [] ∨ valuesOf query "keep_config" = ["false"]

/-- A query asks for nothing that can be done. -/
inductive IsMalformed (query : Option String) : Prop where
  | nameless (missing : valuesOf query "name" = [] ∨ valuesOf query "name" = [""])
  | repeated (key : String) (known : key = "name" ∨ key = "keep_config")
      (twice : 2 ≤ (valuesOf query key).length)
  | notBool (text : String) (given : valuesOf query "keep_config" = [text])
      (neither : text ≠ "true" ∧ text ≠ "false")

theorem ofQuery_eq_ok_iff (query : Option String) (request : ResetRequest) :
    ResetRequest.ofQuery query = .ok request ↔
      valuesOf query "name" = request.name.toList ∧
        valuesOf query "keep_config" = (request.keepConfig.map boolText).toList :=
  foldlM_add_eq_ok_iff (formPairs (query.getD "")) {} request

/-- What a query asks for if it is not malformed. -/
theorem asks_or_isMalformed (query : Option String) :
    (∃ name keep, Asks query name keep) ∨ IsMalformed query := by
  match named : valuesOf query "name" with
  | [] => exact .inr (.nameless (.inl named))
  | first :: second :: rest =>
    exact .inr (.repeated "name" (.inl rfl) (by rw [named]; simp))
  | [name] =>
    by_cases empty : name = ""
    · exact .inr (.nameless (.inr (empty ▸ named)))
    match kept : valuesOf query "keep_config" with
    | [] => exact .inl ⟨name, false, named, empty, nofun, fun _ => .inl kept⟩
    | first :: second :: rest =>
      exact .inr (.repeated "keep_config" (.inr rfl) (by rw [kept]; simp))
    | [text] =>
      by_cases yes : text = "true"
      · exact .inl ⟨name, true, named, empty, fun _ => yes ▸ kept, nofun⟩
      by_cases no : text = "false"
      · exact .inl ⟨name, false, named, empty, nofun, fun _ => .inr (no ▸ kept)⟩
      · exact .inr (.notBool text kept ⟨yes, no⟩)

theorem Asks.ofQuery_eq {query : Option String} {name : String} {keep : Bool}
    (asks : Asks query name keep) :
    ∃ request, ResetRequest.ofQuery query = .ok request ∧ request.name = some name ∧
      (request.keepConfig = some true ↔ keep = true) := by
  cases keep with
  | true =>
    exact ⟨⟨some name, some true⟩, (ofQuery_eq_ok_iff query _).mpr ⟨asks.named, asks.kept rfl⟩, rfl,
      by simp⟩
  | false =>
    rcases asks.forgotten rfl with absent | no
    · exact ⟨⟨some name, none⟩, (ofQuery_eq_ok_iff query _).mpr ⟨asks.named, absent⟩, rfl, by simp⟩
    · exact ⟨⟨some name, some false⟩, (ofQuery_eq_ok_iff query _).mpr ⟨asks.named, no⟩, rfl,
        by simp⟩

/-- A malformed query that can be read names no breaker. -/
theorem IsMalformed.filter_name {query : Option String} (malformed : IsMalformed query)
    {request : ResetRequest} (asked : ResetRequest.ofQuery query = .ok request) :
    request.name.filter (· ≠ "") = none := by
  obtain ⟨named, kept⟩ := (ofQuery_eq_ok_iff query request).mp asked
  have short {α : Type} (held : Option α) : held.toList.length ≤ 1 := by
    cases held <;> simp
  cases malformed with
  | nameless missing =>
    rw [named] at missing
    have missing : request.name = none ∨ request.name = some "" := by simpa using missing
    rcases missing with absent | empty
    · rw [absent]
      rfl
    · rw [empty]
      rfl
  | repeated key known twice =>
    rcases known with rfl | rfl
    · rw [named] at twice
      exact absurd (short request.name) (Nat.not_le_of_lt twice)
    · rw [kept] at twice
      exact absurd (short (request.keepConfig.map boolText)) (Nat.not_le_of_lt twice)
  | notBool text given neither =>
    rw [kept] at given
    cases flag : request.keepConfig with
    | none =>
      rw [flag] at given
      cases given
    | some value =>
      rw [flag] at given
      obtain rfl := (List.cons.inj given).1
      cases value with
      | true => exact absurd rfl neither.1
      | false => exact absurd rfl neither.2

/-! ## What comes of a request -/

def resetPath : String := "/api/circuit-breakers/reset"

/-- The response to a reset. -/
def done : Response := .plain 200 "Circuit breaker reset successfully"

theorem respond_reset (query : Option String) (f : Fleet) :
    respond "POST" ⟨resetPath, query⟩ f =
      match ResetRequest.ofQuery query with
      | .ok request => reset request f
      | .error error => (.ok (.plain 400 error.message), f) := by
  have other : resetPath ≠ "/api/circuit-breakers" := by decide
  have health : resetPath ≠ "/api/health" := by decide
  exact (if_neg other).trans ((if_neg health).trans ((if_pos rfl).trans (if_pos rfl)))

section Respond

variable {query : Option String} {name : String}

/-- The request that a query makes is carried out for the name that it gives. -/
theorem respond_of_asks {keep : Bool} (asks : Asks query name keep) (f : Fleet) :
    respond "POST" ⟨resetPath, query⟩ f =
      if keep then ((f.resetNamed name).1.map fun _ => done, (f.resetNamed name).2)
      else (.ok done, (f.remove name).2) := by
  obtain ⟨request, asked, named, keeps⟩ := asks.ofQuery_eq
  have filled : request.name.filter (· ≠ "") = some name := by
    simp [named, asks.nonempty]
  rw [respond_reset, asked]
  simp only [reset, filled, keeps]
  rfl

theorem respond_of_malformed (malformed : IsMalformed query) (f : Fleet) :
    ∃ response, response.status = 400 ∧
      respond "POST" ⟨resetPath, query⟩ f = (.ok response, f) := by
  rw [respond_reset]
  cases asked : ResetRequest.ofQuery query with
  | error error => exact ⟨.plain 400 error.message, rfl, rfl⟩
  | ok request =>
    simp only [reset, malformed.filter_name asked]
    exact ⟨_, rfl, rfl⟩

end Respond

/-! ## What a reset leaves alone -/

/-- A name is forgotten, and nothing else happens: no breaker changes, not even the one that had
the name. -/
structure Forgets (f : Fleet) (name : String) (after : Fleet) : Prop where
  find?_eq : ∀ other, after.find? other = if other = name then none else f.find? other
  defaults_eq : after.registry.defaults = f.registry.defaults
  observers_eq : after.registry.observers = f.registry.observers
  breakers_eq : after.breakers = f.breakers
  journal_eq : after.journal = f.journal
  clock_eq : after.clock = f.clock

/-- The breaker with a name, if there is one, is closed in place.  The registry and all other
breakers stay as they are. -/
structure Closes (f : Fleet) (name : String) (after : Fleet) : Prop where
  registry_eq : after.registry = f.registry
  length_eq : after.breakers.length = f.breakers.length
  clock_eq : after.clock = f.clock
  face_eq : ∀ handle, f.find? name = some handle →
    (after.breaker handle).face = ⟨.closed, 0, 0, 0⟩
  config_eq : ∀ handle, (after.breaker handle).config = (f.breaker handle).config
  observers_eq : ∀ handle, (after.breaker handle).observers = (f.breaker handle).observers
  name_eq : ∀ handle, (after.breaker handle).name = (f.breaker handle).name
  others : ∀ handle, f.find? name ≠ some handle → after.breaker handle = f.breaker handle
  journal_eq : (∀ handle, f.find? name = some handle → (f.breaker handle).state = .closed) →
    after.journal = f.journal

theorem forgets_remove (f : Fleet) (name : String) : Forgets f name (f.remove name).2 where
  find?_eq other := Table.get?_erase f.registry.names name other
  defaults_eq := rfl
  observers_eq := rfl
  breakers_eq := rfl
  journal_eq := rfl
  clock_eq := rfl

/-- The answer to a reset in place says whether there is a breaker with the name. -/
theorem resetNamed_of_found {f : Fleet} {name : String} {handle : Handle}
    (found : f.find? name = some handle) :
    f.resetNamed name = ((f.reset handle).1.map fun _ => true, (f.reset handle).2) := by
  rw [Fleet.resetNamed, found]

theorem closes_self {f : Fleet} {name : String} (missing : f.find? name = none) :
    Closes f name f where
  registry_eq := rfl
  length_eq := rfl
  clock_eq := rfl
  face_eq handle found := by cases missing.symm.trans found
  config_eq _ := rfl
  observers_eq _ := rfl
  name_eq _ := rfl
  others _ _ := rfl
  journal_eq _ := rfl

/-- A reset does not touch what was fixed when its breaker was built. -/
theorem fixed_reset (b : Breaker) (glance : Glance) :
    (b.reset glance).breaker.config = b.config ∧
      (b.reset glance).breaker.observers = b.observers ∧
      (b.reset glance).breaker.name = b.name := by
  have row := b.closure glance
  generalize b.reset glance = effect at row ⊢
  cases row <;> exact ⟨rfl, rfl, rfl⟩

/-- A breaker that was never built is blank, and a reset leaves it so. -/
theorem breaker_reset (f : Fleet) (handle : Handle) :
    (f.reset handle).2.breaker handle = ((f.breaker handle).reset f.clock.read).breaker := by
  by_cases inside : handle < f.breakers.length
  · exact Fleet.breaker_apply _ inside
  · have outside := Nat.le_of_not_lt inside
    have blank : f.breaker handle = .blank := by
      rw [Fleet.breaker, List.getD_eq_getElem?_getD, List.getElem?_eq_none outside]
      rfl
    rw [Fleet.reset, Fleet.breaker_apply_of_le _ outside, blank]
    cases f.clock.read <;> rfl

theorem closes_reset {f : Fleet} {name : String} {handle : Handle} {now : Reading}
    (found : f.find? name = some handle) (read : f.clock.read = .ok now) :
    Closes f name (f.reset handle).2 := by
  have others (other : Handle) (different : other ≠ handle) :
      (f.reset handle).2.breaker other = f.breaker other := Fleet.breaker_apply_of_ne _ different
  have fixed (other : Handle) :
      ((f.reset handle).2.breaker other).config = (f.breaker other).config ∧
        ((f.reset handle).2.breaker other).observers = (f.breaker other).observers ∧
        ((f.reset handle).2.breaker other).name = (f.breaker other).name := by
    by_cases same : other = handle
    · rw [same, breaker_reset]
      exact fixed_reset _ _
    · rw [others other same]
      exact ⟨rfl, rfl, rfl⟩
  constructor
  · rfl
  · exact Fleet.length_apply _
  · rfl
  · intro other also
    obtain rfl : handle = other := Option.some.inj (found.symm.trans also)
    rw [breaker_reset, read]
    exact ((f.breaker handle).reset_ok now).2.1
  · exact fun other => (fixed other).1
  · exact fun other => (fixed other).2.1
  · exact fun other => (fixed other).2.2
  · exact fun other different => others other fun same => different (same ▸ found)
  · intro closed
    have events := ((f.breaker handle).reset_ok now).2.2
    rw [if_pos (closed handle found), ← read] at events
    exact (congrArg (f.journal ++ ·) events).trans (List.append_nil f.journal)

/-- A reset in place closes the breaker, unless there is one and the clock cannot be read. -/
theorem closes_resetNamed {f : Fleet} {name : String}
    (readable : ∀ handle, f.find? name = some handle → ∃ now, f.clock.read = .ok now) :
    (∃ found, (f.resetNamed name).1 = .ok found) ∧ Closes f name (f.resetNamed name).2 := by
  cases found : f.find? name with
  | none =>
    rw [Fleet.resetNamed, found]
    exact ⟨⟨false, rfl⟩, closes_self found⟩
  | some handle =>
    obtain ⟨now, read⟩ := readable handle found
    have answer : (f.reset handle).1 = .ok () := by
      rw [Fleet.reset, read]
      exact ((f.breaker handle).reset_ok now).1
    rw [resetNamed_of_found found, answer]
    exact ⟨⟨true, rfl⟩, closes_reset found read⟩

/-- Without the time nothing happens to a registered breaker. -/
theorem resetNamed_of_fault {f : Fleet} {name : String} {handle : Handle} {fault : ClockFault}
    (found : f.find? name = some handle) (read : f.clock.read = .error fault) :
    f.resetNamed name = (.error fault, f) := by
  have idle : f.reset handle = (.error fault, f) := by
    rw [Fleet.reset, read]
    exact Fleet.apply_of_idle _ rfl
  rw [resetNamed_of_found found, idle]
  rfl

/-! ## Names in URIs -/

/-- An absolute path and a query are told apart by the question mark. -/
theorem ofUri_append_cons {path query : List Char} (absolute : path.head? = some '/')
    (noQuery : '?' ∉ path) (noFragment : '#' ∉ path ++ '?' :: query) :
    Target.ofUri (String.ofList (path ++ '?' :: query)) =
      ⟨String.ofList path, some (String.ofList query)⟩ := by
  obtain ⟨rest, absolute⟩ := List.head?_eq_some_iff.mp absolute
  have kept : dropAuthority (path ++ '?' :: query) = path ++ '?' :: query := by
    rw [absolute]
    rfl
  rw [Target.ofUri, String.toList_ofList, kept, splitFirst_of_notMem noFragment]
  simp only [splitFirst_append_cons noQuery]
  rw [if_neg (by rw [absolute]; exact List.cons_ne_nil _ _)]
  rfl

/-- The part of a query that says whether the breaker is kept. -/
def keepPart (keep : Bool) : List Char := "keep_config=".toList ++ (boolText keep).toList

/-- The query for a reset of the breaker with an encoded name. -/
def resetQuery (encoded : List Char) (keep : Option Bool) : List Char :=
  List.intercalate ['&'] (("name=".toList ++ encoded) :: (keep.map keepPart).toList)

/-- The URI for a reset of the breaker with an encoded name. -/
def resetUri (encoded : List Char) (keep : Option Bool) : String :=
  String.ofList (resetPath.toList ++ '?' :: resetQuery encoded keep)

/-- What the query for a reset says, part by part. -/
theorem encode_resetQuery {encoded : List Char} {name : String}
    (encodes : EncodesText encoded name) (keep : Option Bool) :
    EncodePairs (("name=".toList ++ encoded) :: (keep.map keepPart).toList)
      (("name", name) :: (keep.map fun keep => ("keep_config", boolText keep)).toList) := by
  have first : EncodesPair ("name=".toList ++ encoded) ("name", name) :=
    ⟨"name".toList, encoded, rfl, encodesText_plain rfl, encodes⟩
  have second (keep : Bool) : EncodesPair (keepPart keep) ("keep_config", boolText keep) := by
    refine ⟨"keep_config".toList, (boolText keep).toList, rfl, encodesText_plain rfl, ?_⟩
    cases keep <;> exact encodesText_plain rfl
  refine .cons first ?_
  cases keep with
  | none => exact .nil
  | some keep => exact .cons (second keep) .nil

theorem asks_resetQuery {encoded : List Char} {name : String} (nonempty : name ≠ "")
    (encodes : EncodesText encoded name) (keep : Option Bool) :
    Asks (some (String.ofList (resetQuery encoded keep))) name (keep.getD false) := by
  have pairs := formPairs_encoded (encode_resetQuery encodes keep)
  rw [← resetQuery] at pairs
  have kept : valuesOf (some (String.ofList (resetQuery encoded keep))) "keep_config" =
      (keep.map boolText).toList := by
    rw [valuesOf, Option.getD_some, pairs]
    cases keep <;> simp [values]
  refine ⟨?_, nonempty, ?_, ?_⟩
  · rw [valuesOf, Option.getD_some, pairs]
    cases keep <;> simp [values]
  · intro yes
    rw [kept]
    cases keep with
    | none => cases yes
    | some keep =>
      cases yes
      rfl
  · intro no
    rw [kept]
    cases keep with
    | none => exact .inl rfl
    | some keep =>
      cases no
      exact .inr rfl

/-- Every encoding of a name asks for just that name. -/
theorem asks_resetUri {encoded : List Char} {name : String} (nonempty : name ≠ "")
    (encodes : EncodesText encoded name) (keep : Option Bool) :
    ∃ query, Target.ofUri (resetUri encoded keep) = ⟨resetPath, query⟩ ∧
      Asks query name (keep.getD false) := by
  have absolute : resetPath.toList.head? = some '/' := by decide
  have inPath : '#' ∉ resetPath.toList := by decide
  have inQuery : '#' ∉ resetQuery encoded keep :=
    notMem_intercalate (by decide)
      ((encode_resetQuery encodes keep).notMem (by decide) (by decide) (by decide))
  have noFragment : '#' ∉ resetPath.toList ++ '?' :: resetQuery encoded keep := by
    simp only [List.mem_append, List.mem_cons, not_or]
    exact ⟨inPath, by decide, inQuery⟩
  refine ⟨some (String.ofList (resetQuery encoded keep)), ?_, asks_resetQuery nonempty encodes keep⟩
  rw [resetUri, ofUri_append_cons absolute (by decide) noFragment, String.ofList_toList]

/-! ## The admin surface -/

/-- A request does what it asks for to the breaker that it names, or it does nothing. -/
structure ActsOnNamed (query : Option String) (f : Fleet)
    (result : Except ClockFault Response × Fleet) : Prop where
  forgets : ∀ name, Asks query name false → result.1 = .ok done ∧ Forgets f name result.2
  closes : ∀ name, Asks query name true →
    (∀ handle, f.find? name = some handle → ∃ now, f.clock.read = .ok now) →
    result.1 = .ok done ∧ Closes f name result.2
  brokenOff : ∀ name handle fault, Asks query name true → f.find? name = some handle →
    f.clock.read = .error fault → result = (.error fault, f)
  refuses : IsMalformed query → ∃ response, response.status = 400 ∧ result = (.ok response, f)
  covered : (∃ name keep, Asks query name keep) ∨ IsMalformed query

theorem actsOnNamed_respond (query : Option String) (f : Fleet) :
    ActsOnNamed query f (respond "POST" ⟨resetPath, query⟩ f) where
  forgets name asks := by
    rw [respond_of_asks asks]
    exact ⟨rfl, forgets_remove f name⟩
  closes name asks readable := by
    obtain ⟨⟨found, answer⟩, closes⟩ := closes_resetNamed readable
    rw [respond_of_asks asks, if_pos rfl, answer]
    exact ⟨rfl, closes⟩
  brokenOff name handle fault asks found read := by
    rw [respond_of_asks asks, if_pos rfl, resetNamed_of_fault found read]
    rfl
  refuses malformed := respond_of_malformed malformed f
  covered := asks_or_isMalformed query

/-- A request to reset a breaker acts on the breaker that its query names, or on nothing, and a
name can be given in any encoding.  A reset in place is broken off if the time cannot be told. -/
theorem reset_acts_on_named (f : Fleet) :
    (∀ query, ActsOnNamed query f (respond "POST" ⟨resetPath, query⟩ f)) ∧
      (∀ name encoded keep, name ≠ "" → EncodesText encoded name →
        ∃ query, Target.ofUri (resetUri encoded keep) = ⟨resetPath, query⟩ ∧
          Asks query name (keep.getD false)) ∧
      ∀ name, EncodesText (percentEncode name) name :=
  ⟨fun query => actsOnNamed_respond query f,
    fun _ _ keep nonempty encodes => asks_resetUri nonempty encodes keep, encodesText_percentEncode⟩

/-- A breaker is registered, and then the clock is moved to where it cannot be read. -/
def lateFleet : Fleet :=
  ((({} : Fleet).lookup "b" {}).2.advance (.ofSeconds 9300000000000000000)).2

/-- There is no answer to a reset in place while the clock cannot be read. -/
theorem unread_reset_not_answered :
    ¬ ∀ (f : Fleet) (query : Option String) (name : String), Asks query name true →
      (respond "POST" ⟨resetPath, query⟩ f).1 = .ok done := by
  intro all
  have asks : Asks (some (String.ofList (resetQuery (percentEncode "b") (some true)))) "b" true :=
    asks_resetQuery (by decide) (encodesText_percentEncode "b") (some true)
  have found : lateFleet.find? "b" = some 0 := by decide
  have read : lateFleet.clock.read = .error .instantOverflow := by decide
  have answer := all lateFleet _ "b" asks
  rw [respond_of_asks asks, if_pos rfl, resetNamed_of_fault found read] at answer
  cases answer

end GuardedCache.Admin
