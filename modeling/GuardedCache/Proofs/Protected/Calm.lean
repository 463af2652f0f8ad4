import GuardedCache.Proofs.Circuit.Usage
import GuardedCache.Protected.Cache

/-!
# Calls that go well

While the five breakers are closed, a call of the protected cache is granted, and if it
succeeds, then its breaker stays closed.  No transition is made, and no observer is told
anything.
-/

namespace GuardedCache

open Circuit Store

/-! ## Closed breakers -/

namespace Circuit

namespace Breaker

variable {b : Breaker}

theorem acquire_of_closed (closed : b.state = .closed) (now : Reading) :
    b.acquire (.ok now) = ⟨.ok (some ⟨b.phase.epoch, false⟩), b.countAdmission true, []⟩ := by
  have closed : b.phase.state = .closed := closed
  simp only [acquire, verdict, closed, if_true]

/-- A success changes nothing that observers could be told of. -/
theorem report_success_of_closed (closed : b.state = .closed) (permit : Option Permit)
    (glance : Glance) :
    b.Stays (b.report .success permit glance).breaker ∧
      (b.report .success permit glance).events = [] := by
  have counted := b.stays_countOutcome .success
  have row := b.report_row .success permit glance
  generalize b.report .success permit glance = effect at row ⊢
  cases row with
  | healthy _ success _ clean => exact ⟨counted, rfl⟩
  | unread fault unhealthy => exact ⟨counted, rfl⟩
  | stale _ stale => exact ⟨counted, rfl⟩
  | ignored _ opened => exact ⟨counted, rfl⟩
  | forgiven _ fresh success _ =>
    exact ⟨⟨rfl, rfl, rfl, rfl, counted.entries_eq⟩, rfl⟩
  | noted _ fresh failure _ below => cases failure
  | tripped _ fresh failure _ reached => cases failure
  | progressed _ fresh success halfOpen below => cases closed.symm.trans halfOpen
  | recovered _ fresh success halfOpen reached => cases closed.symm.trans halfOpen
  | relapsed _ fresh failure halfOpen => cases failure

end Breaker

namespace Fleet

/-- How many transitions the breaker under a name has made; none if there is no breaker. -/
def epochOf (f : Fleet) (name : String) : Nat :=
  (f.find? name).elim 0 fun handle => (f.breaker handle).phase.epoch

theorem epochOf_of_found {f : Fleet} {name : String} {handle : Handle}
    (found : f.find? name = some handle) :
    f.epochOf name = (f.breaker handle).phase.epoch := by
  rw [epochOf, found]
  rfl

theorem epochOf_of_missing {f : Fleet} {name : String} (missing : f.find? name = none) :
    f.epochOf name = 0 := by
  rw [epochOf, missing]
  rfl

theorem journal_lookup (f : Fleet) (name : String) (options : Options) :
    (f.lookup name options).2.journal = f.journal := by
  rw [lookup, build]
  cases f.find? name with
  | some handle => rfl
  | none => cases f.clock.read <;> rfl

end Fleet

end Circuit

namespace Protected

/-- The five breakers are closed, as far as they are registered. -/
def IsClosed (f : Fleet) : Prop :=
  ∀ (operation : Operation) (handle : Handle),
    f.find? operation.breakerName = some handle → (f.breaker handle).state = .closed

/-- The five breakers are closed and have made no transition since. -/
structure StaysClosed (f g : Fleet) : Prop where
  kept : ∀ (operation : Operation) (handle : Handle),
    f.find? operation.breakerName = some handle → g.find? operation.breakerName = some handle
  closed : IsClosed g
  epoch_eq : ∀ operation : Operation,
    g.epochOf operation.breakerName = f.epochOf operation.breakerName

/-- Nothing is done to the five breakers, and none of them is registered or forgotten. -/
structure LeavesAlone (f g : Fleet) : Prop where
  find?_eq : ∀ operation : Operation,
    g.find? operation.breakerName = f.find? operation.breakerName
  breaker_eq : ∀ (operation : Operation) (handle : Handle),
    f.find? operation.breakerName = some handle → g.breaker handle = f.breaker handle

theorem LeavesAlone.refl (f : Fleet) : LeavesAlone f f :=
  ⟨fun _ => rfl, fun _ _ _ => rfl⟩

theorem LeavesAlone.of_turnsClock (f : Fleet) {u : Fleet.Use} (turns : u.turnsClock = true) :
    LeavesAlone f (f.afterUse u) := by
  cases u with
  | advance span =>
    rw [Fleet.afterUse, Fleet.advance]
    cases f.clock.advance span <;> exact ⟨fun _ => rfl, fun _ _ _ => rfl⟩
  | rewind span => exact ⟨fun _ => rfl, fun _ _ _ => rfl⟩
  | _ => cases turns

theorem StaysClosed.trans {f g k : Fleet} (first : StaysClosed f g) (second : StaysClosed g k) :
    StaysClosed f k where
  kept operation handle found := second.kept operation handle (first.kept operation handle found)
  closed := second.closed
  epoch_eq operation := (second.epoch_eq operation).trans (first.epoch_eq operation)

namespace IsClosed

variable {f g : Fleet} {operation : Operation} {handle : Handle}

theorem leave (h : IsClosed f) (alone : LeavesAlone f g) : StaysClosed f g where
  kept operation handle found := (alone.find?_eq operation).trans found
  closed operation handle found := by
    rw [alone.find?_eq] at found
    rw [alone.breaker_eq operation handle found]
    exact h operation handle found
  epoch_eq operation := by
    have same := alone.find?_eq operation
    cases found : f.find? operation.breakerName with
    | none => rw [Fleet.epochOf_of_missing found, Fleet.epochOf_of_missing (same.trans found)]
    | some handle =>
      rw [Fleet.epochOf_of_found found, Fleet.epochOf_of_found (same.trans found),
        alone.breaker_eq operation handle found]

/-- One of the five breakers may be touched as long as it makes no transition. -/
theorem touch (h : IsClosed f) (sound : f.IsSound)
    (touches : f.OnlyTouches operation.breakerName handle g)
    (apart : f.find? operation.breakerName = none → f.breakers.length ≤ handle)
    (closed : (g.breaker handle).state = .closed)
    (epoch : (g.breaker handle).phase.epoch = f.epochOf operation.breakerName) :
    StaysClosed f g := by
  have others {other : Operation} (different : other ≠ operation) {old : Handle}
      (found : f.find? other.breakerName = some old) :=
    touches.registered sound (fun same => different (Operation.breakerName_injective same))
      found apart
  have names {other : Operation} (different : other ≠ operation) :
      g.find? other.breakerName = f.find? other.breakerName :=
    touches.names _ fun same => different (Operation.breakerName_injective same)
  constructor
  · intro other old found
    by_cases same : other = operation
    · subst same
      rw [touches.kept old found]
      exact touches.found
    · exact (others same found).1
  · intro other old found
    by_cases same : other = operation
    · subst same
      cases touches.found.symm.trans found
      exact closed
    · rw [names same] at found
      rw [(others same found).2]
      exact h other old found
  · intro other
    by_cases same : other = operation
    · subst same
      rw [Fleet.epochOf_of_found touches.found, epoch]
    · cases found : f.find? other.breakerName with
      | none =>
        rw [Fleet.epochOf_of_missing found, Fleet.epochOf_of_missing ((names same).trans found)]
      | some old =>
        rw [Fleet.epochOf_of_found found, Fleet.epochOf_of_found (others same found).1,
          (others same found).2]

/-- What a call does to the fleet is told to nobody. -/
structure Calms (f g : Fleet) : Prop where
  stays : StaysClosed f g
  sound : g.IsSound
  journal_eq : g.journal = f.journal
  clock_eq : g.clock = f.clock

theorem Calms.trans {k : Fleet} (first : Calms f g) (second : Calms g k) : Calms f k where
  stays := first.stays.trans second.stays
  sound := second.sound
  journal_eq := second.journal_eq.trans first.journal_eq
  clock_eq := second.clock_eq.trans first.clock_eq

/-- The breaker of an operation is there, or it is built and closed. -/
theorem lookup (h : IsClosed f) (sound : f.IsSound) (table : BindingTable)
    (operation : Operation) {now : Reading} (read : f.clock.read = .ok now) :
    ∃ handle g, breaker table operation f = (.ok handle, g) ∧
      g.find? operation.breakerName = some handle ∧ Calms f g := by
  obtain ⟨handle, g, looked, finds⟩ :=
    sound.lookup operation.breakerName { config := (table operation).breaker } read
  refine ⟨handle, g, looked, finds.found, ?_⟩
  constructor
  · refine h.touch sound (.of_finds finds) finds.outside ?_ ?_
    · rw [finds.breaker_eq]
      cases found : f.find? operation.breakerName with
      | none => rfl
      | some old => exact h operation old found
    · rw [finds.breaker_eq, Fleet.epochOf]
      cases f.find? operation.breakerName <;> rfl
  · exact finds.sound
  · have same := f.journal_lookup operation.breakerName { config := (table operation).breaker }
    rwa [looked] at same
  · exact finds.clock_eq

/-- What leaves a registered breaker closed and tells nobody leaves the five breakers closed. -/
theorem apply {β : Type} (h : IsClosed f) (sound : f.IsSound)
    (found : f.find? operation.breakerName = some handle) (doing : Breaker → Effect β)
    (name_eq : (doing (f.breaker handle)).breaker.name = (f.breaker handle).name)
    (stays : (f.breaker handle).Stays (doing (f.breaker handle)).breaker)
    (silent : (doing (f.breaker handle)).events = []) : Calms f (f.apply handle doing).2 := by
  have after : (f.apply handle doing).2.breaker handle = (doing (f.breaker handle)).breaker :=
    Fleet.breaker_apply doing (sound.inside _ _ found)
  have finds := sound.finds_registered found (f.breaker handle)
  constructor
  · refine h.touch sound ((Fleet.OnlyTouches.of_finds finds).apply doing) finds.outside ?_ ?_
    · rw [after, stays.state_eq]
      exact h operation handle found
    · rw [after, stays.epoch_eq, Fleet.epochOf_of_found found]
  · exact sound.apply name_eq
  · rw [Fleet.journal_apply, silent, List.append_nil]
  · rfl

/-- Every call is granted. -/
theorem start (h : IsClosed f) (sound : f.IsSound) (table : BindingTable)
    (operation : Operation) {now : Reading} (read : f.clock.read = .ok now) :
    ∃ handle permit g, Protected.start table operation f = (.granted ⟨handle, permit⟩, g) ∧
      g.find? operation.breakerName = some handle ∧ Calms f g := by
  obtain ⟨handle, g, looked, found, calms⟩ := h.lookup sound table operation read
  have read : g.clock.read = .ok now := by rw [calms.clock_eq, read]
  have acquires := Breaker.acquire_of_closed (calms.stays.closed operation handle found) now
  have granted : g.acquire handle = (.ok (some ⟨(g.breaker handle).phase.epoch, false⟩),
      (g.acquire handle).2) := by
    rw [Fleet.acquire, read, Fleet.apply, acquires]
  refine ⟨handle, ⟨(g.breaker handle).phase.epoch, false⟩, (g.acquire handle).2, ?_, found, ?_⟩
  · rw [Protected.start, looked]
    simp only
    rw [Fleet.startCall, granted]
  · refine calms.trans (calms.stays.closed.apply calms.sound found _ ?_ ?_ ?_)
    · rw [read, acquires]
      rfl
    · rw [read, acquires]
      exact Breaker.stays_countAdmission _ true
    · rw [read, acquires]

/-- A call that succeeds and is not broken off is over as it should be. -/
theorem finish (h : IsClosed f) (sound : f.IsSound)
    (found : f.find? operation.breakerName = some handle) (permit : Permit) (response : Response)
    (unbroken : ∀ text,
      (Protected.finish operation ⟨handle, permit⟩ (.done response) f).1 ≠ .aborted text) :
    ∃ g, Protected.finish operation ⟨handle, permit⟩ (.done response) f =
        (.ofResponse response, g) ∧ Calms f g := by
  obtain ⟨stays, silent⟩ := Breaker.report_success_of_closed (h operation handle found)
    (some permit) f.clock.read
  have calms : Calms f (f.settle handle permit .success).2 :=
    h.apply sound found _
      ((f.breaker handle).passage_report .success (some permit) f.clock.read).name_eq stays silent
  rw [Protected.finish, Fleet.finishCall] at unbroken ⊢
  simp only [WorkEnd.outcome] at unbroken ⊢
  generalize f.settle handle permit .success = settled at calms unbroken ⊢
  obtain ⟨fault | _, g⟩ := settled
  · exact absurd rfl (unbroken fault.message)
  · exact ⟨g, rfl, calms⟩

/-- All breakers can be built. -/
theorem registerBreakers (h : IsClosed f) (sound : f.IsSound) (table : BindingTable)
    {now : Reading} (read : f.clock.read = .ok now) (operations : List Operation) :
    ∃ g, Protected.registerBreakers table operations f = (.ok (), g) ∧ Calms f g ∧
      ∀ operation ∈ operations, ∃ handle, g.find? operation.breakerName = some handle := by
  induction operations generalizing f with
  | nil => exact ⟨f, rfl, ⟨h.leave (.refl f), sound, rfl, rfl⟩, nofun⟩
  | cons operation rest ih =>
    obtain ⟨handle, g, looked, found, calms⟩ := h.lookup sound table operation read
    obtain ⟨k, registered, later, all⟩ := ih calms.stays.closed calms.sound
      (by rw [calms.clock_eq, read])
    refine ⟨k, ?_, calms.trans later, ?_⟩
    · rw [Protected.registerBreakers, looked]
      exact registered
    · refine List.forall_mem_cons.mpr ⟨⟨handle, ?_⟩, all⟩
      exact later.stays.kept operation handle found

end IsClosed

end Protected

end GuardedCache
