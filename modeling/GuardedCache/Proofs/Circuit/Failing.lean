import GuardedCache.Proofs.Circuit.Timing

/-!
# A breaker that sees only failures

As long as every call fails, a breaker admits as many calls as its threshold and one more
for each half-open window, and between two windows its timeout has to pass.  `Weathers`
says that of a breaker on a clock that is never set back.  Such a clock may get out of
range, and then no outcome is taken into account any more.
-/

namespace GuardedCache

open Circuit

/-! ## Clocks that only move on -/

namespace Clock

/-- What a clock shows or would show if its instant were in range. -/
def shown (c : Clock) : Reading := ⟨⟨c.offset.nanos - c.setBack.nanos⟩, c.wall⟩

/-- A clock is moved on and not set back. -/
structure Precedes (c later : Clock) : Prop where
  offset : c.offset.nanos ≤ later.offset.nanos
  setBack : later.setBack = c.setBack

variable {c later : Clock}

theorem eq_shown_of_read {now : Reading} (read : c.read = .ok now) : now = c.shown := by
  rw [Clock.read] at read
  split at read
  · exact (Except.ok.inj read).symm
  · cases read

namespace Precedes

theorem refl (c : Clock) : c.Precedes c := ⟨Nat.le_refl _, rfl⟩

theorem shown_le (h : c.Precedes later) :
    c.shown.instant.nanos ≤ later.shown.instant.nanos := by
  have offset := h.offset
  simp only [shown, h.setBack]
  omega

/-- A clock that can be read could be read before. -/
theorem read (h : c.Precedes later) {now : Reading} (readable : later.read = .ok now) :
    c.read = .ok c.shown := by
  rw [Clock.read] at readable ⊢
  split at readable
  case isTrue inside =>
    exact if_pos (Nat.le_trans (Nat.div_le_div_right h.offset) inside)
  case isFalse => cases readable

end Precedes

end Clock

theorem Circuit.Fleet.exists_advance (f : Fleet) (span : Duration) :
    ∃ clock, f.clock.Precedes clock ∧ (f.advance span).2 = { f with clock } := by
  rw [Fleet.advance]
  cases moved : f.clock.advance span with
  | error fault => exact ⟨f.clock, .refl f.clock, rfl⟩
  | ok clock =>
    refine ⟨clock, ?_, rfl⟩
    rw [Clock.advance] at moved
    split at moved
    · cases moved
      exact ⟨Nat.le_add_right _ _, rfl⟩
    · cases moved

/-! ## Failures in a row -/

namespace Circuit.Breaker

variable {b : Breaker} {created : Instant} {received : Nat} {now : Reading}

/-- The state of a breaker that has admitted some calls, all of which have failed.  It is
never half-open between two calls, since the first failure of a window ends it. -/
inductive HasFailed (b : Breaker) (received : Nat) : Prop where
  | holds (closed : b.state = .closed) (failures : b.phase.failures = received)
      (below : received < b.threshold) (unbroken : b.totals.halfOpened = 0)
  | broken (opened : b.state = .opened)
      (bears : received = b.threshold + b.totals.halfOpened)

/-- The state of such a breaker while one more call is on its way. -/
inductive Awaits (b : Breaker) (received : Nat) (permit : Permit) : Prop where
  | failure (closed : b.state = .closed) (failures : b.phase.failures = received)
      (below : received < b.threshold) (unbroken : b.totals.halfOpened = 0)
      (current : permit.epoch = b.phase.epoch)
  | probe (halfOpen : b.state = .halfOpen)
      (bears : received + 1 = b.threshold + b.totals.halfOpened)
      (current : permit.epoch = b.phase.epoch)

theorem Awaits.not_stale {permit : Permit} (h : b.Awaits received permit) :
    b.isStale (some permit) = false := by
  cases h with
  | failure closed failures below unbroken current =>
    exact decide_eq_false (not_not_intro current)
  | probe halfOpen bears current => exact decide_eq_false (not_not_intro current)

theorem Awaits.lt {permit : Permit} (h : b.Awaits received permit) :
    received + 1 ≤ b.threshold + b.totals.halfOpened := by
  cases h with
  | failure closed failures below unbroken current => omega
  | probe halfOpen bears current => omega

/-- One more call is admitted. -/
theorem HasFailed.awaits (h : b.HasFailed received) {permit : Permit}
    (issued : (b.acquire (.ok now)).answer = .ok (some permit)) :
    (b.acquire (.ok now)).breaker.Awaits received permit := by
  have row := b.acquisition (.ok now)
  generalize b.acquire (.ok now) = effect at row issued ⊢
  cases row with
  | refused _ full => cases issued
  | passed _ closed =>
    cases issued
    cases h with
    | holds _ failures below unbroken => exact .failure closed failures below unbroken rfl
    | broken opened => cases closed.symm.trans opened
  | reserved _ halfOpen room =>
    cases h with
    | holds closed => cases halfOpen.symm.trans closed
    | broken opened => cases halfOpen.symm.trans opened
  | woken _ opened due =>
    cases issued
    cases h with
    | holds closed => cases opened.symm.trans closed
    | broken _ bears => exact .probe rfl (congrArg (· + 1) bears) rfl

/-- The call on its way fails as well. -/
theorem Awaits.settle {permit : Permit} (h : b.Awaits received permit) (now : Reading) :
    (b.settle permit .failure (.ok now)).breaker.HasFailed (received + 1) := by
  have row := b.report_row .failure (some permit) (.ok now)
  rw [Breaker.settle]
  generalize b.report .failure (some permit) (.ok now) = effect at row ⊢
  cases row with
  | healthy _ success => cases success
  | stale _ stale => cases stale.symm.trans h.not_stale
  | forgiven _ _ success => cases success
  | progressed _ _ success => cases success
  | recovered _ _ success => cases success
  | ignored _ opened =>
    cases h with
    | failure closed => cases opened.symm.trans closed
    | probe halfOpen => cases opened.symm.trans halfOpen
  | noted _ _ _ closed below =>
    cases h with
    | failure _ failures _ unbroken =>
      exact .holds closed (congrArg (· + 1) failures) (failures ▸ below) unbroken
    | probe halfOpen => cases closed.symm.trans halfOpen
  | tripped _ _ _ closed reached =>
    cases h with
    | failure _ failures below unbroken =>
      refine .broken rfl ?_
      change received + 1 = b.threshold + b.totals.halfOpened
      omega
    | probe halfOpen => cases closed.symm.trans halfOpen
  | relapsed _ _ _ halfOpen =>
    cases h with
    | failure closed => cases halfOpen.symm.trans closed
    | probe _ bears => exact .broken rfl bears

/-- What a breaker has been through when a number of calls were received since it was made,
all of which have failed, and a clock has moved on. -/
structure Weathers (b : Breaker) (created : Instant) (received : Nat) (clock : Clock) :
    Prop where
  bounded : received ≤ b.threshold + b.totals.halfOpened
  spaced : b.IsSpaced created
  behind : b.phase.since.nanos ≤ clock.shown.instant.nanos
  /-- When the clock cannot be read any more, the last outcome may be lost. -/
  failed : ∀ now, clock.read = .ok now → b.HasFailed received

namespace Weathers

variable {clock later : Clock}

theorem build (name : String) (config : Config) (observers : List Observer)
    (past : created.nanos ≤ now.instant.nanos)
    (behind : now.instant.nanos ≤ clock.shown.instant.nanos) :
    (Breaker.build name config observers now).Weathers created 0 clock where
  bounded := Nat.zero_le _
  spaced := by
    refine ⟨?_, fun woken => absurd woken (Nat.lt_irrefl 0)⟩
    simpa [Breaker.build] using past
  behind := behind
  failed _ _ := by
    refine .holds rfl rfl ?_ rfl
    exact Nat.pos_of_ne_zero fun zero =>
      ((Config.invalidField_eq_none_iff _).mp config.invalidField_sanitize).1
        (UInt32.toNat_inj.mp zero)

theorem turn (h : b.Weathers created received clock) (precedes : clock.Precedes later) :
    b.Weathers created received later where
  bounded := h.bounded
  spaced := h.spaced
  behind := Int.le_trans h.behind precedes.shown_le
  failed _ read := h.failed _ (precedes.read read)

theorem refuse (h : b.Weathers created received clock) :
    (b.countAdmission false).Weathers created received clock where
  bounded := h.bounded
  spaced := h.spaced.of_stays rfl (b.stays_countAdmission false)
  behind := h.behind
  failed now read := by
    cases h.failed now read with
    | holds closed failures below unbroken => exact .holds closed failures below unbroken
    | broken opened bears => exact .broken opened bears

end Weathers

/-- The timer of a breaker is not ahead of the clock that it looks at. -/
theorem Keeps.since_le {clock : Clock} {after : Breaker} (h : b.Keeps clock.read after)
    (behind : b.phase.since.nanos ≤ clock.shown.instant.nanos) :
    after.phase.since.nanos ≤ clock.shown.instant.nanos := by
  rcases h.since_eq with same | ⟨now, read, set⟩
  · rw [same]
    exact behind
  · exact Int.le_of_eq (by rw [set, Clock.eq_shown_of_read read])

theorem IsSpaced.of_look {β : Type} {byReset : Bool} {clock : Clock} {effect : Effect β}
    (h : b.IsSpaced created) (passage : b.Passage byReset clock.read effect)
    (behind : b.phase.since.nanos ≤ clock.shown.instant.nanos) :
    effect.breaker.IsSpaced created := by
  refine h.of_passage passage fun now read => ?_
  rw [Clock.eq_shown_of_read read]
  exact behind

theorem HasFailed.le (h : b.HasFailed received) :
    received ≤ b.threshold + b.totals.halfOpened := by
  cases h with
  | holds closed failures below unbroken => omega
  | broken opened bears => exact Nat.le_of_eq bears

/-- The failure of the call is lost if the clock cannot be read, and yet it was counted in. -/
theorem Awaits.settle_unread {permit : Permit} (h : b.Awaits received permit)
    (fault : ClockFault) :
    received + 1 ≤ (b.settle permit .failure (.error fault)).breaker.threshold +
      (b.settle permit .failure (.error fault)).breaker.totals.halfOpened := by
  have row := b.report_row .failure (some permit) (.error fault)
  rw [Breaker.settle]
  generalize b.report .failure (some permit) (.error fault) = effect at row ⊢
  cases row with
  | healthy _ success => cases success
  | unread fault unhealthy => exact h.lt

/-- One more call is admitted and fails before the clock shows a later time. -/
theorem Weathers.fail {clock later : Clock} {permit : Permit}
    (h : b.Weathers created received clock) (read : clock.read = .ok now)
    (issued : (b.acquire clock.read).answer = .ok (some permit))
    (precedes : clock.Precedes later) :
    ((b.acquire clock.read).breaker.settle permit .failure later.read).breaker.Weathers created
      (received + 1) later := by
  have awaits : (b.acquire clock.read).breaker.Awaits received permit := by
    rw [read] at issued ⊢
    exact (h.failed now read).awaits issued
  have behind := (b.keeps_acquire clock.read).since_le h.behind
  have behind_later := Int.le_trans behind precedes.shown_le
  have keeps := (b.acquire clock.read).breaker.keeps_report .failure (some permit) later.read
  constructor
  · -- the bound holds whether or not the clock can be read when the call ends
    cases read_later : later.read with
    | error fault => exact awaits.settle_unread fault
    | ok shown => exact (awaits.settle shown).le
  · exact (h.spaced.of_look (b.passage_acquire _) h.behind).of_look
      (Breaker.passage_report _ .failure (some permit) _) behind_later
  · exact keeps.since_le behind_later
  · intro shown read_later
    rw [read_later]
    exact awaits.settle shown

end Circuit.Breaker

end GuardedCache
