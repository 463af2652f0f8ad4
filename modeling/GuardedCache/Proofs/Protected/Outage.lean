import GuardedCache.Proofs.Circuit.Failing
import GuardedCache.Proofs.Protected.Calls

/-!
# How much a store bears during an outage

As long as a store fails every call, the breaker of an operation lets only a few calls
through: as many as its threshold, and one more for each half-open window.  Between two
windows the reset timeout has to pass, so the time that has passed bounds the load.  All
other calls are refused and do not reach the store, unless the clock cannot be read, which
breaks them off.
-/

namespace GuardedCache

open Circuit Store

namespace Protected

variable {σ : Type}

/-- A call of a store, and how the clock moves: while the store works, and then until the
next call. -/
structure Attempt (σ : Type) where
  store : MessageStore σ
  request : Request
  /-- How long the store takes. -/
  delay : Duration := .zero
  during : Duration := .zero
  after : Duration := .zero

namespace Site

/-- What an attempt comes to. -/
def attempt (site : Site σ) (a : Attempt σ) : VisitAnswer × Site σ :=
  site.callUntil (.ofRequest a.store a.request a.delay) (site.fleet.advance a.during).2.clock

/-- The site with a clock that has moved on. -/
def wait (site : Site σ) (span : Duration) : Site σ :=
  { site with fleet := (site.fleet.advance span).2 }

/-- The site when the next call may come. -/
def afterAttempt (site : Site σ) (a : Attempt σ) : Site σ :=
  (site.attempt a).2.wait a.after

def afterAttempts (site : Site σ) (attempts : List (Attempt σ)) : Site σ :=
  attempts.foldl afterAttempt site

/-- The store fails every call that it receives. -/
def IsDown : Site σ → List (Attempt σ) → Prop
  | _, [] => True
  | site, a :: rest =>
    (∀ now, site.fleet.clock.read = .ok now → site.admits a.request.operation now = true →
      ∃ error, site.reply a.store a.request a.delay = .error error) ∧
    (site.afterAttempt a).IsDown rest

/-- The breaker of an operation as the next call finds it. -/
def current (site : Site σ) (operation : Operation) : Breaker :=
  site.guard operation site.fleet.clock.shown

/-- What a call comes to: it reaches the store, or its breaker refuses it, or the clock
cannot be read and breaks it off.  In the last two cases nothing happens to the store. -/
inductive Handled (site : Site σ) (operation : Operation) : VisitAnswer × Site σ → Prop where
  | reached (answer : VisitAnswer) (after : Site σ) (now : Reading)
      (read : site.fleet.clock.read = .ok now) (calls : after.calls = site.calls + 1) :
      Handled site operation (answer, after)
  | refused (fleet : Fleet) (now : Reading) (read : site.fleet.clock.read = .ok now) :
      Handled site operation
        (.guarded (.refused operation operation.breakerName), { site with fleet })
  | unread (fault : ClockFault) (read : site.fleet.clock.read = .error fault) :
      Handled site operation (.guarded (.aborted fault.message), site)

variable {site : Site σ} {operation : Operation} {now : Reading} {handle : Handle} {g : Fleet}

theorem guard_of_read (read : site.fleet.clock.read = .ok now) :
    site.guard operation now = site.current operation := by
  rw [current, ← Clock.eq_shown_of_read read]

theorem current_of_found (found : site.fleet.find? operation.breakerName = some handle) :
    site.current operation = site.fleet.breaker handle := by
  rw [current, guard, found]
  rfl

theorem current_of_missing (missing : site.fleet.find? operation.breakerName = none) :
    site.current operation = site.fleet.blueprint operation.breakerName
      { config := (site.table operation).breaker } site.fleet.clock.shown := by
  rw [current, guard, missing]
  rfl

/-- An admitted call reaches the store, and its breaker hears how it went. -/
structure Served (site : Site σ) (operation : Operation) (handle : Handle) (outcome : Outcome)
    (permit : Permit) (after : Site σ) : Prop where
  issued : ((site.current operation).acquire site.fleet.clock.read).answer = .ok (some permit)
  calls : after.calls = site.calls + 1
  precedes : site.fleet.clock.Precedes after.fleet.clock
  found : after.fleet.find? operation.breakerName = some handle
  breaker_eq : after.fleet.breaker handle =
    (((site.current operation).acquire site.fleet.clock.read).breaker.settle permit outcome
      after.fleet.clock.read).breaker
  sound : after.fleet.IsSound

/-- The breaker of an operation has admitted some calls, and all of them have failed. -/
structure Endures (site : Site σ) (operation : Operation) (config : Config)
    (created : Instant) (received : Nat) : Prop where
  sound : site.fleet.IsSound
  config_eq : (site.current operation).config = config
  weathers : (site.current operation).Weathers created received site.fleet.clock
  unasked : site.fleet.find? operation.breakerName = none → received = 0

namespace Endures

variable {config : Config} {created : Instant} {received : Nat}

theorem turn (h : site.Endures operation config created received) {later : Clock}
    (precedes : site.fleet.clock.Precedes later) :
    Endures { site with fleet := { site.fleet with clock := later } } operation config created
      received := by
  have sound := h.sound.turn later
  cases found : site.fleet.find? operation.breakerName with
  | some handle =>
    have same : Site.current { site with fleet := { site.fleet with clock := later } } operation =
        site.current operation := by
      rw [current_of_found found]
      exact current_of_found found
    exact ⟨sound, by rw [same]; exact h.config_eq, by rw [same]; exact h.weathers.turn precedes,
      h.unasked⟩
  | none =>
    -- a breaker that was not made yet would be made later
    have blueprint := current_of_missing found
    have turned : Site.current { site with fleet := { site.fleet with clock := later } } operation =
        site.fleet.blueprint operation.breakerName
          { config := (site.table operation).breaker } later.shown :=
      current_of_missing found
    have past : created.nanos ≤ site.fleet.clock.shown.instant.nanos := by
      have spaced := h.weathers.spaced.1
      rw [blueprint] at spaced
      exact Int.le_trans (Int.le_add_of_nonneg_right (Int.natCast_nonneg _)) spaced
    refine ⟨sound, ?_, ?_, h.unasked⟩
    · rw [turned, ← h.config_eq, blueprint]
      rfl
    · rw [turned, h.unasked found]
      exact .build _ _ _ (Int.le_trans past precedes.shown_le) (Int.le_refl _)

theorem wait (h : site.Endures operation config created received) (span : Duration) :
    (site.wait span).Endures operation config created received := by
  obtain ⟨clock, precedes, moved⟩ := site.fleet.exists_advance span
  rw [Site.wait, moved]
  exact h.turn precedes

theorem of_served (h : site.Endures operation config created received)
    (readable : site.fleet.clock.read = .ok now) {permit : Permit} {after : Site σ}
    (served : site.Served operation handle .failure permit after) :
    after.Endures operation config created (received + 1) := by
  have current := current_of_found served.found
  rw [served.breaker_eq] at current
  refine ⟨served.sound, ?_, ?_, ?_⟩
  · rw [current, ← h.config_eq]
    exact (Breaker.keeps_report _ .failure (some permit) _).config_eq.trans
      (Breaker.keeps_acquire _ _).config_eq
  · rw [current]
    exact h.weathers.fail readable served.issued served.precedes
  · intro missing
    cases missing.symm.trans served.found

end Endures

variable {a : Attempt σ}

theorem Approaches.clock_eq (h : site.Approaches operation now handle g) :
    (g.acquire handle).2.clock = site.fleet.clock := by
  rw [← Protected.clock_start site.table operation site.fleet, h.start_eq, Fleet.startCall_snd]

theorem Approaches.served (h : site.Approaches a.request.operation now handle g)
    (read : site.fleet.clock.read = .ok now)
    (admits : site.admits a.request.operation now = true) :
    ∃ permit, site.Served a.request.operation handle
      (.ofBool (site.reply a.store a.request a.delay).isOk) permit (site.attempt a).2 := by
  obtain ⟨permit, issued, granted⟩ := h.start_of_admits admits
  rw [guard_of_read read, ← read] at issued
  obtain ⟨later, precedes, moved⟩ := site.fleet.exists_advance a.during
  obtain ⟨clock, moment, ended⟩ := callUntil_of_granted a.store a.delay later granted
  have precedes : site.fleet.clock.Precedes clock := by
    rcases moment with rfl | rfl
    · rw [h.clock_eq]
      exact .refl _
    · exact precedes
  have acquired : (g.acquire handle).2.breaker handle =
      ((site.current a.request.operation).acquire site.fleet.clock.read).breaker := by
    rw [Fleet.acquire, Fleet.breaker_apply _ h.touched.inside, h.breaker_eq, h.read, read,
      guard_of_read read]
  have turned : site.fleet.OnlyTouches a.request.operation.breakerName handle
      { (g.acquire handle).2 with clock } := (h.touched.apply _).turn clock
  refine ⟨permit, ?_⟩
  rw [attempt, moved, ended, settled, Fleet.finishCall_snd, outcome_ofExcept]
  constructor
  · exact issued
  · rfl
  · exact precedes
  · exact turned.found
  · rw [Fleet.settle, Fleet.breaker_apply _ turned.inside, ← acquired]
    rfl
  · exact ((h.sound.acquire handle).turn clock).settle handle permit _

/-- A refused call does nothing but raise the number of refusals. -/
theorem Approaches.attempt_of_refuse (h : site.Approaches a.request.operation now handle g)
    (refuses : site.admits a.request.operation now = false) :
    site.attempt a = (.guarded (.refused a.request.operation a.request.operation.breakerName),
        { site with fleet := (g.acquire handle).2 }) ∧
      (g.acquire handle).2.breaker handle =
        (site.guard a.request.operation now).countAdmission false :=
  ⟨callUntil_of_refused _ (h.start_of_refuse refuses), h.breaker_of_refuse refuses⟩

theorem Endures.of_refused {config : Config} {created : Instant} {received : Nat}
    (h : site.Endures operation config created received)
    (approaches : site.Approaches operation now handle g) (read : site.fleet.clock.read = .ok now)
    (breaker : (g.acquire handle).2.breaker handle =
      (site.guard operation now).countAdmission false) :
    Endures { site with fleet := (g.acquire handle).2 } operation config created received := by
  have found : (g.acquire handle).2.find? operation.breakerName = some handle :=
    (approaches.touched.apply _).found
  have current : Site.current { site with fleet := (g.acquire handle).2 } operation =
      (site.current operation).countAdmission false := by
    rw [current_of_found found, ← guard_of_read read]
    exact breaker
  refine ⟨approaches.sound.acquire handle, ?_, ?_, ?_⟩
  · rw [current]
    exact h.config_eq
  · rw [current]
    change Breaker.Weathers _ _ _ (g.acquire handle).2.clock
    rw [approaches.clock_eq]
    exact h.weathers.refuse
  · intro missing
    cases missing.symm.trans found

/-- One more call is handled, and if it reaches the store it fails. -/
theorem Endures.attempt {config : Config} {created : Instant} {received : Nat}
    (h : site.Endures a.request.operation config created received)
    (fails : ∀ now, site.fleet.clock.read = .ok now → site.admits a.request.operation now = true →
      ∃ error, site.reply a.store a.request a.delay = .error error) :
    site.Handled a.request.operation (site.attempt a) ∧
      ∃ more, (site.attempt a).2.calls = site.calls + more ∧
        (site.attempt a).2.Endures a.request.operation config created (received + more) := by
  cases read : site.fleet.clock.read with
  | error fault =>
    have broken : site.attempt a = (.guarded (.aborted fault.message), site) :=
      callUntil_of_faulted _ (start_of_fault site.table _ read)
    rw [broken]
    exact ⟨.unread fault read, 0, rfl, h⟩
  | ok now =>
    obtain ⟨handle, g, approaches⟩ := exists_approaches h.sound a.request.operation read
    cases admits : site.admits a.request.operation now with
    | true =>
      obtain ⟨error, reply⟩ := fails now read admits
      obtain ⟨permit, served⟩ := approaches.served read admits
      rw [reply] at served
      exact ⟨.reached _ _ now read served.calls, 1, served.calls, h.of_served read served⟩
    | false =>
      obtain ⟨refused, breaker⟩ := approaches.attempt_of_refuse admits
      rw [refused]
      refine ⟨.refused _ now read, 0, rfl, ?_⟩
      exact h.of_refused approaches read breaker

/-! ## Sequences of calls -/

theorem isDown_append (before after : List (Attempt σ)) :
    site.IsDown (before ++ after) ↔
      site.IsDown before ∧ (site.afterAttempts before).IsDown after := by
  induction before generalizing site with
  | nil => exact ⟨fun down => ⟨trivial, down⟩, And.right⟩
  | cons a rest ih =>
    rw [List.cons_append, IsDown, IsDown, ih, and_assoc]
    rfl

/-- A store that has nothing but errors is down. -/
theorem isDown_of_error {attempts : List (Attempt σ)}
    (errs : ∀ a ∈ attempts, ∀ state, ∃ error, (a.store.answer a.request state).1 = .error error) :
    site.IsDown attempts := by
  induction attempts generalizing site with
  | nil => trivial
  | cons a rest ih =>
    refine ⟨fun now _ _ => ?_, ih fun b member => errs b (List.mem_cons_of_mem a member)⟩
    rw [reply]
    split
    · exact ⟨_, rfl⟩
    · exact errs a List.mem_cons_self site.store

/-- A sequence of calls leaves the breaker with the failures of those that reached the
store. -/
theorem Endures.afterAttempts {config : Config} {created : Instant} {received : Nat}
    {attempts : List (Attempt σ)} (h : site.Endures operation config created received)
    (same : ∀ a ∈ attempts, a.request.operation = operation) (down : site.IsDown attempts) :
    ∃ more, (site.afterAttempts attempts).calls = site.calls + more ∧
      (site.afterAttempts attempts).Endures operation config created (received + more) := by
  induction attempts generalizing site received with
  | nil => exact ⟨0, rfl, h⟩
  | cons a rest ih =>
    cases same a List.mem_cons_self
    obtain ⟨fails, down⟩ := down
    obtain ⟨_, first, calls, endures⟩ := h.attempt fails
    obtain ⟨later, more, endures⟩ := ih (endures.wait a.after)
      (fun b member => same b (List.mem_cons_of_mem a member)) down
    refine ⟨first + later, ?_, ?_⟩
    · rw [← Nat.add_assoc, ← calls]
      exact more
    · rw [← Nat.add_assoc]
      exact endures

/-- What the store and the callers of an operation see of an outage. -/
structure Spared (site : Site σ) (operation : Operation) (config : Config) (created : Instant)
    (attempts : List (Attempt σ)) : Prop where
  bounded : (site.afterAttempts attempts).calls ≤ site.calls + config.failureThreshold.toNat +
    ((site.afterAttempts attempts).current operation).totals.halfOpened
  spaced : 0 < ((site.afterAttempts attempts).current operation).totals.halfOpened →
    ((site.afterAttempts attempts).current operation).totals.halfOpened *
        config.resetTimeout.nanos <
      (created.elapsed (site.afterAttempts attempts).fleet.clock.shown.instant).nanos
  handled : ∀ before a after, attempts = before ++ a :: after →
    (site.afterAttempts before).Handled operation ((site.afterAttempts before).attempt a)

/-- While a store fails every call of an operation, one call after the other, the breaker
of the operation, which is new at first, lets no more of them through than its threshold and
one for each half-open window, and all windows have to wait for their timeouts.  The other
calls are refused, or broken off by a clock that cannot be read. -/
theorem outage_bounded (sound : site.fleet.IsSound) {config : Config}
    {observers : List Observer} {created : Reading}
    (fresh : site.current operation =
      .build operation.breakerName config observers created)
    (past : created.instant.nanos ≤ site.fleet.clock.shown.instant.nanos)
    {attempts : List (Attempt σ)} (same : ∀ a ∈ attempts, a.request.operation = operation)
    (down : site.IsDown attempts) :
    site.Spared operation config.sanitize created.instant attempts := by
  have start : site.Endures operation config.sanitize created.instant 0 := by
    refine ⟨sound, ?_, ?_, fun _ => rfl⟩
    · rw [fresh]
      rfl
    · rw [fresh]
      exact .build _ _ _ (Int.le_refl _) past
  constructor
  · obtain ⟨more, calls, endures⟩ := start.afterAttempts same down
    have bounded := endures.weathers.bounded
    rw [Breaker.threshold, endures.config_eq] at bounded
    omega
  · intro woken
    obtain ⟨more, calls, endures⟩ := start.afterAttempts same down
    have strictly := endures.weathers.spaced.2 woken
    have behind := endures.weathers.behind
    rw [endures.config_eq] at strictly
    change _ < (_ - _ : Int).toNat
    omega
  · rintro before a after rfl
    obtain ⟨down_before, fails, _⟩ := (isDown_append before (a :: after)).mp down
    have earlier : ∀ b ∈ before, b.request.operation = operation :=
      fun b member => same b (List.mem_append_left _ member)
    cases same a (List.mem_append_right before List.mem_cons_self)
    obtain ⟨more, _, endures⟩ := start.afterAttempts earlier down_before
    exact (endures.attempt fails).1

/-- A store that is out of order. -/
def deadStore : MessageStore Unit where
  answer _ state := (.error (.redis "connection refused"), state)
  fits _ _ _ answered := by cases answered

/-- A site whose breakers open with the first failure, for some milliseconds. -/
def brittle (clock : Clock) (timeout : UInt64) : Site Unit where
  fleet := { clock, registry := { defaults := ⟨1, timeout, 1⟩ } }
  table := .builtIn
  store := ()

/-- A read of a store that is out of order, and a pause after it. -/
def failingRead (pause : Duration) : Attempt Unit where
  store := deadStore
  request := .getMessage "a"
  after := pause

theorem isDown_failingRead (site : Site Unit) (pauses : List Duration) :
    site.IsDown (pauses.map failingRead) := by
  refine isDown_of_error fun a member state => ?_
  obtain ⟨pause, _, rfl⟩ := List.mem_map.mp member
  exact ⟨.redis "connection refused", rfl⟩

/-- Three reads, with 11 ms after the first: it opens the circuit for 10 ms, the second is
the probe of the only half-open window, and the third is refused. -/
theorem outage_bounded_with_one_window :
    let site := brittle {} 10
    let reads := [.ofMillis 11, .zero, .zero].map failingRead
    site.Spared .getMessage (Config.sanitize ⟨1, 10, 1⟩) ⟨0⟩ reads ∧
      (site.afterAttempts reads).calls = 2 ∧
      ((site.afterAttempts reads).current .getMessage).totals.halfOpened = 1 := by
  intro site reads
  have same : ∀ a ∈ reads, a.request.operation = .getMessage := by
    intro a member
    obtain ⟨pause, _, rfl⟩ := List.mem_map.mp member
    rfl
  have fresh : site.current .getMessage =
      .build Operation.getMessage.breakerName ⟨1, 10, 1⟩ [] ⟨⟨0⟩, site.fleet.clock.wall⟩ := rfl
  have spared := outage_bounded (.of_unregistered rfl) fresh (Int.le_refl _) same
    (isDown_failingRead site _)
  exact ⟨spared, by decide, by decide⟩

/-- A read opens the circuit for a long time, and before it is over the clock cannot be read
any more.  The next read is neither refused nor does it reach the store. -/
theorem unread_call_not_refused :
    ¬ ∀ (site : Site Unit) (operation : Operation) (config : Config) (observers : List Observer)
        (created : Reading) (attempts : List (Attempt Unit)), site.fleet.IsSound →
      site.current operation = .build operation.breakerName config observers created →
      created.instant.nanos ≤ site.fleet.clock.shown.instant.nanos →
      (∀ a ∈ attempts, a.request.operation = operation) → site.IsDown attempts →
      ∀ before a after, attempts = before ++ a :: after →
        ((site.afterAttempts before).attempt a).2.calls =
            (site.afterAttempts before).calls + 1 ∨
          ((site.afterAttempts before).attempt a).1 =
            .guarded (.refused operation operation.breakerName) := by
  intro all
  let site := brittle { offset := .ofSeconds 9215000000000000000 } 18446744073709551615
  let opener := failingRead (.ofSeconds 17000000000000000)
  let next := failingRead .zero
  have same : ∀ a ∈ [opener, next], a.request.operation = .getMessage := by
    intro a member
    obtain ⟨pause, _, rfl⟩ :=
      List.mem_map.mp (show a ∈ [_, _].map failingRead from member)
    rfl
  have fresh : site.current .getMessage = .build Operation.getMessage.breakerName
      ⟨1, 18446744073709551615, 1⟩ [] site.fleet.clock.shown := rfl
  have handled := all site .getMessage _ _ _ [opener, next] (.of_unregistered rfl) fresh
    (Int.le_refl _) same (isDown_failingRead site [_, _]) [opener] next [] rfl
  have read : (site.afterAttempts [opener]).fleet.clock.read = .error .instantOverflow := by
    decide
  have broken : (site.afterAttempts [opener]).attempt next =
      (.guarded (.aborted ClockFault.instantOverflow.message), site.afterAttempts [opener]) :=
    callUntil_of_faulted _ (start_of_fault _ _ read)
  rw [broken] at handled
  rcases handled with reached | refused
  · exact absurd reached (Nat.ne_of_lt (Nat.lt_succ_self _))
  · cases refused

end Site

end Protected

end GuardedCache
