import GuardedCache.Proofs.Circuit.Accounting

/-!
# Recovery

No run wedges a circuit.  When every permit of the current epoch has been
settled and the time of an opened circuit is up, the next calls are all
admitted, and as many successes as the configuration asks for close the
circuit.  `remaining` counts down to that: every successful call takes one off
it, and it is zero exactly when the circuit is closed.
-/

namespace GuardedCache.Circuit

namespace Breaker

/-- How many more successes close the circuit. -/
def remaining (b : Breaker) : Nat :=
  match b.state with
  | .closed => 0
  | .opened => b.cap
  | .halfOpen => b.cap - b.phase.successes

/-- The next call is admitted once the timeout has passed since `now`. -/
structure Ready (b : Breaker) (now : Instant) : Prop where
  cap_pos : 0 < b.cap
  opened : b.state = .opened → b.phase.since.nanos ≤ now.nanos
  halfOpen : b.state = .halfOpen →
    b.phase.halfOpenCalls = b.phase.successes ∧ b.phase.successes < b.cap

/-- A call with a permit is the only one that is open. -/
structure Engaged (b : Breaker) (permit : Permit) : Prop where
  cap_pos : 0 < b.cap
  fresh : b.isStale (some permit) = false
  flowing : b.state ≠ .opened
  halfOpen : b.state = .halfOpen →
    b.phase.halfOpenCalls = b.phase.successes + 1 ∧ b.phase.successes < b.cap

theorem remaining_le_cap (b : Breaker) : b.remaining ≤ b.cap := by
  rw [remaining]
  cases b.state with
  | closed => exact Nat.zero_le _
  | opened => exact Nat.le_refl _
  | halfOpen => exact Nat.sub_le _ _

theorem remaining_of_closed {b : Breaker} (closed : b.state = .closed) : b.remaining = 0 := by
  rw [remaining, closed]

theorem remaining_of_halfOpen {b : Breaker} (halfOpen : b.state = .halfOpen) :
    b.remaining = b.cap - b.phase.successes := by
  rw [remaining, halfOpen]

namespace Ready

variable {b : Breaker} {now : Instant}

theorem state_of_remaining (h : b.Ready now) (none : b.remaining = 0) : b.state = .closed := by
  rw [remaining] at none
  cases state : b.state with
  | closed => rfl
  | opened =>
    have := h.cap_pos
    simp only [state] at none
    omega
  | halfOpen =>
    have := h.halfOpen state
    simp only [state] at none
    omega

theorem isDue (h : b.Ready now) (opened : b.state = .opened) {entry : Reading}
    (late : b.config.resetTimeout < now.elapsed entry.instant) : b.IsDue entry := by
  have since := h.opened opened
  change b.config.resetTimeout.nanos < (entry.instant.nanos - now.nanos).toNat at late
  change b.config.resetTimeout.nanos < (entry.instant.nanos - b.phase.since.nanos).toNat
  omega

/-- A late call is admitted. -/
theorem acquire (h : b.Ready now) {entry : Reading}
    (late : b.config.resetTimeout < now.elapsed entry.instant) :
    ∃ permit, (b.acquire (.ok entry)).answer = .ok (some permit) ∧
      (b.acquire (.ok entry)).breaker.Engaged permit ∧
      (b.acquire (.ok entry)).breaker.remaining = b.remaining := by
  have row := b.acquisition (.ok entry)
  generalize b.acquire (.ok entry) = effect at row ⊢
  cases row with
  | refused _ full =>
    rcases full with ⟨opened, early⟩ | ⟨halfOpen, full⟩
    · exact absurd (h.isDue opened late) early
    · have := h.halfOpen halfOpen
      omega
  | passed _ closed =>
    have flowing : b.state ≠ .opened := by rw [closed]; decide
    have other : b.state ≠ .halfOpen := by rw [closed]; decide
    exact ⟨_, rfl, ⟨h.cap_pos, by simp [isStale, countAdmission], flowing,
      fun halfOpen => absurd halfOpen other⟩, rfl⟩
  | reserved _ halfOpen room =>
    obtain ⟨calls, below⟩ := h.halfOpen halfOpen
    have flowing : b.state ≠ .opened := by rw [halfOpen]; decide
    exact ⟨_, rfl, ⟨h.cap_pos, by simp [isStale, countAdmission, takeProbe], flowing,
      fun _ => ⟨congrArg (· + 1) calls, below⟩⟩, rfl⟩
  | woken _ opened due =>
    refine ⟨_, rfl, ⟨h.cap_pos, by simp [isStale, countAdmission, takeProbe, enter],
      fun opened => (by cases opened), fun _ => ⟨rfl, h.cap_pos⟩⟩, ?_⟩
    simp only [remaining, opened]
    rfl

end Ready

/-- After a success of the only open call the next call can be admitted at any
time, and there is one success less to wait for. -/
theorem Engaged.report {b : Breaker} {permit : Permit} (h : b.Engaged permit)
    (exit : Reading) (now : Instant) :
    (b.report .success (some permit) (.ok exit)).breaker.Ready now ∧
      (b.report .success (some permit) (.ok exit)).breaker.remaining = b.remaining - 1 := by
  have row := b.report_row .success (some permit) (.ok exit)
  generalize b.report .success (some permit) (.ok exit) = effect at row ⊢
  have closes : ∀ after : Breaker, after.config = b.config → after.state = .closed →
      b.remaining ≤ 1 → after.Ready now ∧ after.remaining = b.remaining - 1 := by
    intro after config closed last
    refine ⟨⟨by rw [cap, config]; exact h.cap_pos, ?_, ?_⟩, ?_⟩
    · exact fun opened => by cases closed.symm.trans opened
    · exact fun halfOpen => by cases closed.symm.trans halfOpen
    · rw [remaining_of_closed closed]
      omega
  cases row with
  | healthy _ success closed clean =>
    exact closes _ rfl closed (by rw [remaining_of_closed closed]; exact Nat.zero_le 1)
  | stale _ stale => cases h.fresh.symm.trans stale
  | ignored _ opened => exact absurd opened h.flowing
  | forgiven _ fresh success closed =>
    exact closes _ rfl closed (by rw [remaining_of_closed closed]; exact Nat.zero_le 1)
  | noted _ fresh failure closed below => cases failure
  | tripped _ fresh failure closed reached => cases failure
  | progressed _ fresh success halfOpen below =>
    obtain ⟨calls, _⟩ := h.halfOpen halfOpen
    refine ⟨⟨h.cap_pos, fun opened => absurd opened h.flowing, fun _ => ⟨calls, below⟩⟩, ?_⟩
    rw [remaining_of_halfOpen halfOpen, remaining_of_halfOpen (by exact halfOpen)]
    exact Nat.sub_add_eq b.cap b.phase.successes 1
  | recovered _ fresh success halfOpen reached =>
    refine closes _ rfl rfl ?_
    rw [remaining_of_halfOpen halfOpen]
    omega
  | relapsed _ fresh failure halfOpen => cases failure

end Breaker

variable {ε α : Type}

/-- A call that begins when a timeout has passed since `now`, and ends while the
clock can be read. -/
def GuardedCall.IsLate (c : GuardedCall ε α) (timeout : Duration) (now : Instant) : Prop :=
  ∃ entry exit, c.entry = .ok entry ∧ timeout < now.elapsed entry.instant ∧ c.exit = .ok exit

namespace Ledger

variable {l : Ledger}

/-! ## A clock that is never set back -/

/-- The clock can be read at every step of a run and is never set back: it shows
`start` before the run and `last` after it. -/
def Paced (start : Instant) : List (Step ε α) → Instant → Prop
  | [], last => start.nanos ≤ last.nanos
  | s :: steps, last =>
    ∃ now, s.glance = .ok now ∧ start.nanos ≤ now.instant.nanos ∧
      Paced now.instant steps last

theorem Paced.isReadable {start last : Instant} {steps : List (Step ε α)}
    (paced : Paced start steps last) : ∀ s ∈ steps, s.IsReadable := by
  induction steps generalizing start with
  | nil =>
    intro s member
    cases member
  | cons s steps ih =>
    obtain ⟨now, glance, _, paced⟩ := paced
    intro t member
    cases member with
    | head => exact ⟨now, glance⟩
    | tail _ member => exact ih paced t member

/-- The timer of a breaker is never ahead of a clock that is never set back. -/
theorem Paced.since_le {start last : Instant} {steps : List (Step ε α)}
    (paced : Paced start steps last) (l : Ledger)
    (behind : l.breaker.phase.since.nanos ≤ start.nanos) :
    (l.run steps).breaker.phase.since.nanos ≤ last.nanos := by
  induction steps generalizing start l with
  | nil => exact Int.le_trans behind paced
  | cons s steps ih =>
    obtain ⟨now, glance, later, paced⟩ := paced
    rw [run_cons]
    refine ih paced (l.step s) ?_
    rcases (l.keeps_step s).since_eq with same | ⟨shown, seen, set⟩
    · rw [same]
      exact Int.le_trans behind later
    · cases glance.symm.trans seen
      exact Int.le_of_eq (congrArg Instant.nanos set)

/-! ## Calls that recover a circuit -/

/-- A call that ends when the clock can be read gives the result of its work. -/
theorem finishCall_of_held {number : Nat} {slip : Slip} (held : l.held? number = some slip)
    (work : WorkEnd ε α) (exit : Reading) :
    (l.finishCall number work (.ok exit)).1 = work.result ∧
      (l.finishCall number work (.ok exit)).2.breaker =
        (l.breaker.report work.outcome (some slip.permit) (.ok exit)).breaker := by
  rw [finishCall, resolve]
  simp only [held, Breaker.settle, Breaker.report_ok_answer, true_and]
  rfl

/-- A successful call brings a circuit that is ready for it one success closer
to being closed. -/
theorem call_of_ready {now : Instant} (h : l.breaker.Ready now) {entry : Reading}
    (late : l.breaker.config.resetTimeout < now.elapsed entry.instant) {work : WorkEnd ε α}
    (succeeds : work.outcome = .success) (exit : Reading) :
    (l.call ⟨work, .ok entry, .ok exit⟩).1 = work.result ∧
      (l.call ⟨work, .ok entry, .ok exit⟩).2.breaker.Ready now ∧
      (l.call ⟨work, .ok entry, .ok exit⟩).2.breaker.remaining = l.breaker.remaining - 1 ∧
      (l.call ⟨work, .ok entry, .ok exit⟩).2.breaker.config = l.breaker.config := by
  obtain ⟨permit, answer, engaged, remaining⟩ := h.acquire late
  have issued : (l.acquire true (.ok entry)).1 = .ok (some permit) := answer
  obtain ⟨slip, held, rfl⟩ := held?_acquire issued
  obtain ⟨result, finished⟩ := finishCall_of_held held work exit
  have called : l.call ⟨work, .ok entry, .ok exit⟩ =
      (l.acquire true (.ok entry)).2.finishCall l.slips.length work (.ok exit) :=
    call_of_issued issued
  rw [called, finished, breaker_acquire, succeeds, (Breaker.keeps_report ..).config_eq,
    (Breaker.keeps_acquire ..).config_eq]
  obtain ⟨ready, fewer⟩ := engaged.report exit now
  rw [remaining] at fewer
  exact ⟨result, ready, fewer, rfl⟩

/-- Successful calls, one after the other, close a circuit that is ready for
them if there are enough of them. -/
theorem calls_of_ready {now : Instant} {calls : List (GuardedCall ε α)}
    (h : l.breaker.Ready now) (enough : l.breaker.remaining ≤ calls.length)
    (late : ∀ c ∈ calls, c.IsLate l.breaker.config.resetTimeout now)
    (succeed : ∀ c ∈ calls, c.work.outcome = .success) :
    (l.calls calls).1 = calls.map (fun c => c.work.result) ∧
      (l.calls calls).2.breaker.state = .closed := by
  induction calls generalizing l with
  | nil => exact ⟨rfl, h.state_of_remaining (Nat.le_zero.mp enough)⟩
  | cons c rest ih =>
    obtain ⟨entry, exit, begins, begun, ends⟩ := late c List.mem_cons_self
    obtain ⟨result, ready, fewer, config⟩ :=
      call_of_ready h begun (succeed c List.mem_cons_self) exit
    rw [← begins, ← ends] at result ready fewer config
    rw [List.length_cons] at enough
    obtain ⟨results, closed⟩ := ih ready (by omega)
      (by rw [config]; exact fun d member => late d (List.mem_cons_of_mem c member))
      fun d member => succeed d (List.mem_cons_of_mem c member)
    refine ⟨?_, closed⟩
    rw [List.map_cons, ← result, ← results]
    rfl

/-- A circuit without open calls is ready for the next one. -/
theorem IsBalanced.ready {permitsOnly : Prop} (h : l.IsBalanced permitsOnly)
    (clear : l.HasNoLoss) (idle : l.unresolved = []) {now : Instant}
    (behind : l.breaker.phase.since.nanos ≤ now.nanos) : l.breaker.Ready now where
  cap_pos := h.cap_pos
  opened _ := behind
  halfOpen halfOpen := by
    obtain ⟨_, below, calls, _⟩ := h.accounts.halfOpen halfOpen
    rw [idle, clear.forfeited_eq_nil] at calls
    exact ⟨calls, below⟩

/-- After any run on a clock that is never set back, if no permit of the current
epoch is still held, the next calls that begin when the reset timeout has
passed are all admitted, and the circuit is closed after as many successes as
there are probes in a half-open window. -/
theorem recovers (name : String) (config : Config) (observers : List Observer)
    (created : Reading) {steps : List (Step ε α)} {now : Instant}
    (paced : Paced created.instant steps now)
    (idle : ((fresh name config observers created).run steps).unresolved = [])
    {calls : List (GuardedCall ε α)}
    (enough : calls.length = config.sanitize.halfOpenMaxCalls.toNat)
    (late : ∀ c ∈ calls, c.IsLate config.sanitize.resetTimeout now)
    (succeed : ∀ c ∈ calls, c.work.outcome = .success) :
    (((fresh name config observers created).run steps).calls calls).1 =
        calls.map (fun c => c.work.result) ∧
      (((fresh name config observers created).run steps).calls calls).2.breaker.state =
        .closed := by
  have balanced := isBalanced_run name config observers created steps
  have clear := (hasNoLoss_fresh name config observers created).run paced.isReadable
  have behind := paced.since_le (fresh name config observers created) (Int.le_refl _)
  rw [← config_fresh_run name config observers created steps] at enough late
  have ready := balanced.ready clear idle behind
  refine calls_of_ready ready ?_ late succeed
  rw [enough]
  exact Breaker.remaining_le_cap _

/-- One failure. -/
def trippingSteps : List (Step Unit Unit) :=
  [⟨.record .failure, .ok ⟨⟨0⟩, Clock.origin⟩⟩]

/-- Two successful calls, 20 ms later. -/
def probingCalls : List (GuardedCall Unit Unit) :=
  [⟨.done (), .ok ⟨⟨20000000⟩, Clock.origin⟩, .ok ⟨⟨20000000⟩, Clock.origin⟩⟩,
    ⟨.done (), .ok ⟨⟨20000000⟩, Clock.origin⟩, .ok ⟨⟨30000000⟩, Clock.origin⟩⟩]

/-- Two probes close a circuit that a failure has opened. -/
theorem recovers_with_two_probes :
    (((fresh "probe" ⟨1, 10, 2⟩ [] ⟨⟨0⟩, Clock.origin⟩).run trippingSteps).calls
        probingCalls).1 = [.done (), .done ()] ∧
      (((fresh "probe" ⟨1, 10, 2⟩ [] ⟨⟨0⟩, Clock.origin⟩).run trippingSteps).calls
        probingCalls).2.breaker.state = .closed := by
  have paced : Paced ⟨0⟩ trippingSteps ⟨0⟩ := ⟨_, rfl, Int.le_refl 0, Int.le_refl 0⟩
  refine recovers "probe" ⟨1, 10, 2⟩ [] ⟨⟨0⟩, Clock.origin⟩ paced (by decide) rfl ?_ ?_
  · intro c member
    simp only [probingCalls, List.mem_cons, List.not_mem_nil, or_false] at member
    rcases member with rfl | rfl
    · exact ⟨_, _, rfl, by decide, rfl⟩
    · exact ⟨_, _, rfl, by decide, rfl⟩
  · decide

end Ledger

end GuardedCache.Circuit
