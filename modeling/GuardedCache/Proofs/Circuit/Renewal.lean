import GuardedCache.Proofs.Circuit.History

/-!
# A breaker after a reset

From a reset on a breaker does what a new one would do in its place, whatever it has been
through before.  The two tell each other apart only by the number of their transitions,
by the timer as long as they are closed, and by their totals, and none of these can be
seen from outside: `Resembles` says so of breakers, and `Renews` of the ledgers of both.

A permit that was issued before the reset is worth nothing afterwards if the reset was a
transition.  A reset of a closed circuit is none, and there such a permit would still
count.
-/

namespace GuardedCache.Circuit

variable {base : Nat}

/-! ## Breakers that differ in their past -/

/-- The permit that an older breaker issues in place of this one. -/
def Permit.later (base : Nat) (permit : Permit) : Permit :=
  { permit with epoch := base + permit.epoch }

def Slip.later (base : Nat) (slip : Slip) : Slip :=
  { slip with permit := slip.permit.later base, window := base + slip.window }

namespace Breaker

/-- The breaker with another past. -/
def aged (b : Breaker) (base : Nat) (since : Instant) (sinceWall : Timestamp)
    (totals : Totals) : Breaker :=
  { b with
    phase := { b.phase with since, sinceWall, epoch := base + b.phase.epoch }
    totals }

/-- The breaker with other values of its counters. -/
def recount (b : Breaker) (failures successes halfOpenCalls : Nat) : Breaker :=
  { b with phase := { b.phase with failures, successes, halfOpenCalls } }

/-- The breaker after one more failure. -/
def failOnce (b : Breaker) : Breaker :=
  b.recount (b.phase.failures + 1) b.phase.successes b.phase.halfOpenCalls

/-- The breaker after one more success. -/
def succeedOnce (b : Breaker) : Breaker :=
  b.recount b.phase.failures (b.phase.successes + 1) b.phase.halfOpenCalls

theorem settleClosed_failure (b : Breaker) (now : Reading) :
    b.settleClosed .failure now =
      if b.config.failureThreshold.toNat ≤ b.phase.failures + 1 then
        (b.failOnce.enter .opened now, b.failOnce.notices .opened)
      else (b.failOnce, []) :=
  rfl

theorem settleHalfOpen_success (b : Breaker) (now : Reading) :
    b.settleHalfOpen .success now =
      if b.config.halfOpenMaxCalls.toNat ≤ b.phase.successes + 1 then
        (b.succeedOnce.enter .closed now, b.succeedOnce.notices .closed)
      else (b.succeedOnce, []) :=
  rfl

/-- The first breaker has been through some transitions more than the second one.  Their
timers agree unless they are closed. -/
inductive Resembles (base : Nat) : Breaker → Breaker → Prop where
  | aged (young : Breaker) (since : Instant) (sinceWall : Timestamp) (totals : Totals)
      (timer : young.state ≠ .closed → since = young.phase.since) :
      Resembles base (young.aged base since sinceWall totals) young

end Breaker

/-- The same happens to both breakers, and the answers agree if they are translated. -/
structure Effect.Resembles {β : Type} (base : Nat) (lift : β → β) (effect young : Effect β) :
    Prop where
  answer_eq : effect.answer = lift young.answer
  breaker : effect.breaker.Resembles base young.breaker
  events_eq : effect.events = young.events

namespace Breaker.Resembles

variable {b young : Breaker}

section Alike

variable (h : b.Resembles base young)

include h

theorem config_eq : b.config = young.config := by
  cases h
  rfl

theorem epoch_eq : b.phase.epoch = base + young.phase.epoch := by
  cases h
  rfl

theorem state_eq : b.state = young.state := by
  cases h
  rfl

theorem failures_eq : b.phase.failures = young.phase.failures := by
  cases h
  rfl

theorem successes_eq : b.phase.successes = young.phase.successes := by
  cases h
  rfl

theorem halfOpenCalls_eq : b.phase.halfOpenCalls = young.phase.halfOpenCalls := by
  cases h
  rfl

end Alike

theorem verdict_eq (h : b.Resembles base young) (now : Instant) :
    b.verdict now = young.verdict now := by
  cases h with
  | aged _ since sinceWall totals timer =>
    simp only [verdict, Breaker.aged]
    cases state : young.phase.state with
    | closed => rfl
    | opened =>
      have open_ : young.state ≠ .closed := by
        rw [Breaker.state, state]
        decide
      rw [timer open_]
      rfl
    | halfOpen => rfl

theorem notices_eq (h : b.Resembles base young) (target : State) :
    b.notices target = young.notices target := by
  cases h
  rfl

theorem isHealthy_eq (h : b.Resembles base young) : b.isHealthy = young.isHealthy := by
  cases h
  rfl

theorem isStale_eq (h : b.Resembles base young) (permit : Option Permit) :
    b.isStale (permit.map (Permit.later base)) = young.isStale permit := by
  cases h
  cases permit with
  | none => rfl
  | some permit => simp [isStale, Breaker.aged, Permit.later]

/-! What is done to both breakers alike leaves them alike. -/

theorem countAdmission (h : b.Resembles base young) (admitted : Bool) :
    (b.countAdmission admitted).Resembles base (young.countAdmission admitted) := by
  cases h with
  | aged _ since sinceWall totals timer =>
    exact .aged (young.countAdmission admitted) since sinceWall (totals.countAdmission admitted)
      timer

theorem countOutcome (h : b.Resembles base young) (outcome : Outcome) :
    (b.countOutcome outcome).Resembles base (young.countOutcome outcome) := by
  cases h with
  | aged _ since sinceWall totals timer =>
    exact .aged (young.countOutcome outcome) since sinceWall (totals.countOutcome outcome) timer

/-- An outcome that only the older breaker counts cannot be seen. -/
theorem countOutcome_left (h : b.Resembles base young) (outcome : Outcome) :
    (b.countOutcome outcome).Resembles base young := by
  cases h with
  | aged _ since sinceWall totals timer =>
    exact .aged young since sinceWall (totals.countOutcome outcome) timer

/-- A transition sets both timers to the same time. -/
theorem enter (h : b.Resembles base young) (target : State) (now : Reading) :
    (b.enter target now).Resembles base (young.enter target now) := by
  cases h
  exact .aged (young.enter target now) now.instant now.wall _ fun _ => rfl

/-- The counters of both may be set to the same values. -/
theorem recount (h : b.Resembles base young) {failures successes calls : Nat}
    {failures' successes' calls' : Nat} (failures_eq : failures = failures')
    (successes_eq : successes = successes') (calls_eq : calls = calls') :
    (b.recount failures successes calls).Resembles base
      (young.recount failures' successes' calls') := by
  subst failures_eq successes_eq calls_eq
  cases h with
  | aged _ since sinceWall totals timer =>
    exact .aged (young.recount failures successes calls) since sinceWall totals timer

theorem failOnce (h : b.Resembles base young) :
    b.failOnce.Resembles base young.failOnce :=
  h.recount (congrArg (· + 1) h.failures_eq) h.successes_eq h.halfOpenCalls_eq

theorem succeedOnce (h : b.Resembles base young) :
    b.succeedOnce.Resembles base young.succeedOnce :=
  h.recount h.failures_eq (congrArg (· + 1) h.successes_eq) h.halfOpenCalls_eq

theorem takeProbe (h : b.Resembles base young) :
    b.takeProbe.Resembles base young.takeProbe :=
  h.recount h.failures_eq h.successes_eq (congrArg (· + 1) h.halfOpenCalls_eq)

theorem addObserver (h : b.Resembles base young) (observer : Observer) :
    (b.addObserver observer).Resembles base (young.addObserver observer) := by
  cases h with
  | aged _ since sinceWall totals timer =>
    exact .aged (young.addObserver observer) since sinceWall totals timer

/-! ## The operations -/

theorem allow (h : b.Resembles base young) (glance : Glance) :
    (b.allow glance).Resembles base id (young.allow glance) := by
  cases glance with
  | error fault => exact ⟨rfl, h, rfl⟩
  | ok now =>
    simp only [Breaker.allow, h.verdict_eq]
    cases young.verdict now.instant with
    | pass => exact ⟨rfl, h.countAdmission true, rfl⟩
    | refuse => exact ⟨rfl, h.countAdmission false, rfl⟩
    | probe => exact ⟨rfl, (h.enter .halfOpen now).countAdmission true, h.notices_eq .halfOpen⟩

theorem acquire (h : b.Resembles base young) (glance : Glance) :
    (b.acquire glance).Resembles base (Except.map (Option.map (Permit.later base)))
      (young.acquire glance) := by
  have state : b.phase.state = young.phase.state := h.state_eq
  cases glance with
  | error fault => exact ⟨rfl, h, rfl⟩
  | ok now =>
    simp only [Breaker.acquire, h.verdict_eq, state, h.epoch_eq]
    cases young.verdict now.instant with
    | refuse => exact ⟨rfl, h.countAdmission false, rfl⟩
    | pass =>
      by_cases closed : young.phase.state = .closed
      · rw [if_pos closed, if_pos closed]
        exact ⟨rfl, h.countAdmission true, rfl⟩
      · rw [if_neg closed, if_neg closed]
        exact ⟨rfl, h.takeProbe.countAdmission true, rfl⟩
    | probe =>
      exact ⟨rfl, (h.enter .halfOpen now).takeProbe.countAdmission true, h.notices_eq .halfOpen⟩

theorem settleClosed (h : b.Resembles base young) (outcome : Outcome) (now : Reading) :
    (b.settleClosed outcome now).1.Resembles base (young.settleClosed outcome now).1 ∧
      (b.settleClosed outcome now).2 = (young.settleClosed outcome now).2 := by
  cases outcome with
  | success => exact ⟨h.recount rfl h.successes_eq h.halfOpenCalls_eq, rfl⟩
  | failure =>
    rw [Breaker.settleClosed_failure, Breaker.settleClosed_failure, h.config_eq, h.failures_eq]
    split
    · exact ⟨h.failOnce.enter .opened now, h.failOnce.notices_eq .opened⟩
    · exact ⟨h.failOnce, rfl⟩

theorem settleHalfOpen (h : b.Resembles base young) (outcome : Outcome) (now : Reading) :
    (b.settleHalfOpen outcome now).1.Resembles base (young.settleHalfOpen outcome now).1 ∧
      (b.settleHalfOpen outcome now).2 = (young.settleHalfOpen outcome now).2 := by
  cases outcome with
  | failure => exact ⟨h.enter .opened now, h.notices_eq .opened⟩
  | success =>
    rw [Breaker.settleHalfOpen_success, Breaker.settleHalfOpen_success, h.config_eq,
      h.successes_eq]
    split
    · exact ⟨h.succeedOnce.enter .closed now, h.succeedOnce.notices_eq .closed⟩
    · exact ⟨h.succeedOnce, rfl⟩

theorem settlePhase (h : b.Resembles base young) (outcome : Outcome) (permitted : Bool)
    (now : Reading) :
    (b.settlePhase outcome permitted now).1.Resembles base
        (young.settlePhase outcome permitted now).1 ∧
      (b.settlePhase outcome permitted now).2 = (young.settlePhase outcome permitted now).2 := by
  have state : b.phase.state = young.phase.state := h.state_eq
  simp only [Breaker.settlePhase, state]
  cases young.phase.state with
  | closed => exact h.settleClosed outcome now
  | opened => exact ⟨h, rfl⟩
  | halfOpen =>
    cases permitted with
    | true => exact h.settleHalfOpen outcome now
    | false => exact h.takeProbe.settleHalfOpen outcome now

theorem report (h : b.Resembles base young) (outcome : Outcome) (permit : Option Permit)
    (glance : Glance) :
    (b.report outcome (permit.map (Permit.later base)) glance).Resembles base id
      (young.report outcome permit glance) := by
  have counted := h.countOutcome outcome
  simp only [Breaker.report, counted.isHealthy_eq, counted.isStale_eq, Option.isSome_map]
  split
  · exact ⟨rfl, counted, rfl⟩
  · cases glance with
    | error fault => exact ⟨rfl, counted, rfl⟩
    | ok now =>
      cases (young.countOutcome outcome).isStale permit with
      | true => exact ⟨rfl, counted, rfl⟩
      | false =>
        obtain ⟨settled, told⟩ := counted.settlePhase outcome permit.isSome now
        exact ⟨rfl, settled, told⟩

theorem reset (h : b.Resembles base young) (glance : Glance) :
    (b.reset glance).Resembles base id (young.reset glance) := by
  have state : b.phase.state = young.phase.state := h.state_eq
  cases glance with
  | error fault => exact ⟨rfl, h, rfl⟩
  | ok now =>
    by_cases closed : young.phase.state = .closed
    · rw [Breaker.reset, Breaker.reset, if_pos closed, if_pos (state.trans closed)]
      exact ⟨rfl, h.recount rfl rfl rfl, rfl⟩
    · rw [Breaker.reset, Breaker.reset, if_neg closed, if_neg (state ▸ closed)]
      exact ⟨rfl, h.enter .closed now, h.notices_eq .closed⟩

end Breaker.Resembles

variable {ε α : Type}

/-! ## What users can see -/

/-- The circuit as users see it. -/
structure Face where
  state : State
  failures : Nat
  successes : Nat
  halfOpenCalls : Nat
deriving DecidableEq, Repr

def Breaker.face (b : Breaker) : Face :=
  ⟨b.state, b.phase.failures, b.phase.successes, b.phase.halfOpenCalls⟩

theorem Breaker.Resembles.face_eq {b young : Breaker} (h : b.Resembles base young) :
    b.face = young.face := by
  cases h
  rfl

/-- A closed breaker whose counters are zero is a new one with another past. -/
theorem Breaker.Resembles.of_face {b : Breaker} {config : Config}
    (same : b.config = config.sanitize) (face : b.face = ⟨.closed, 0, 0, 0⟩) (built : Reading) :
    b.Resembles b.phase.epoch (.build b.name config b.observers built) := by
  obtain ⟨name, _, observers, ⟨_, _, _, _, since, sinceWall, epoch⟩, totals⟩ := b
  cases same
  cases face
  -- the timer of a closed circuit is never read
  exact .aged (.build name config observers built) since sinceWall totals fun open_ =>
    absurd rfl open_

/-- Every reset leaves a closed circuit whose counters are zero, and tells the observers if
that is a transition. -/
theorem Breaker.reset_ok (b : Breaker) (now : Reading) :
    (b.reset (.ok now)).answer = .ok () ∧
      (b.reset (.ok now)).breaker.face = ⟨.closed, 0, 0, 0⟩ ∧
      (b.reset (.ok now)).events = if b.state = .closed then [] else b.notices .closed := by
  have row := b.closure (.ok now)
  generalize b.reset (.ok now) = effect at row ⊢
  cases row with
  | cleared now closed =>
    rw [if_pos closed]
    exact ⟨rfl, congrArg (Face.mk · 0 0 0) closed, rfl⟩
  | closed now open_ =>
    rw [if_neg open_]
    exact ⟨rfl, rfl, rfl⟩

/-- What users see of a step: the reply, the circuit afterwards, and what the observers
did. -/
structure Sight where
  reply : Reply
  face : Face
  events : List Event

def Entry.sight (e : Entry ε α) : Sight where
  reply := (e.before.perform e.step).1
  face := (e.before.step e.step).breaker.face
  events := (e.before.step e.step).journal.drop e.before.journal.length

/-- Nothing is to be seen of a step but its reply. -/
structure Entry.IsSilent (e : Entry ε α) : Prop where
  face_eq : (e.before.step e.step).breaker.face = e.before.breaker.face
  journal_eq : (e.before.step e.step).journal = e.before.journal

/-- The reply that an older breaker gives in place of this one. -/
def Reply.later (base : Nat) : Reply → Reply
  | .acquired answer => .acquired (answer.map (Option.map (Permit.later base)))
  | reply => reply

def Sight.later (base : Nat) (sight : Sight) : Sight :=
  { sight with reply := sight.reply.later base }

/-! ## Users who count their permits anew -/

/-- The number of a permit among those that were issued from the first one on. -/
def numberSince? (first number : Nat) : Option Nat :=
  if number < first then none else some (number - first)

theorem numberSince?_eq_none_iff {first number : Nat} :
    numberSince? first number = none ↔ number < first := by
  simp [numberSince?]

theorem numberSince?_eq_some_iff {first number index : Nat} :
    numberSince? first number = some index ↔ number = first + index := by
  simp only [numberSince?, Option.ite_none_left_eq_some, Option.some.injEq]
  omega

/-- The action of a user who holds only the permits from the first one on.  There is
none if the action gives back an older one. -/
def Action.since? (first : Nat) : Action ε α → Option (Action ε α)
  | .settle number outcome => (numberSince? first number).map (.settle · outcome)
  | .discard number => (numberSince? first number).map .discard
  | .finish number work => (numberSince? first number).map (.finish · work)
  | action => some action

def Step.since? (first : Nat) (s : Step ε α) : Option (Step ε α) :=
  (s.action.since? first).map fun action => { s with action }

/-- Only a step that gives back an older permit has no counterpart. -/
theorem Step.resolution?_of_since?_eq_none {first : Nat} {s : Step ε α}
    (older : s.since? first = none) :
    ∃ number outcome, s.action.resolution? = some (number, outcome) ∧ number < first := by
  obtain ⟨action, glance⟩ := s
  rw [Step.since?, Option.map_eq_none_iff] at older
  cases action with
  | settle number outcome =>
    exact ⟨number, outcome, rfl, numberSince?_eq_none_iff.mp (Option.map_eq_none_iff.mp older)⟩
  | discard number =>
    exact ⟨number, .failure, rfl, numberSince?_eq_none_iff.mp (Option.map_eq_none_iff.mp older)⟩
  | finish number work =>
    exact ⟨number, work.outcome, rfl,
      numberSince?_eq_none_iff.mp (Option.map_eq_none_iff.mp older)⟩
  | _ => cases older

/-- What becomes of a permit does not change it. -/
theorem map_permit_markSlip (slips : List Slip) (number index : Nat) (fate : Fate) :
    (markSlip slips number fate)[index]?.map Slip.permit = slips[index]?.map Slip.permit := by
  rw [getElem?_markSlip, Option.map_map]
  congr 1
  funext slip
  simp only [Function.comp_apply]
  split <;> rfl

namespace Ledger

/-- The ledger of a breaker after it was reset looks from there on like the ledger of
a new one. -/
structure Renews (origin l young : Ledger) : Prop where
  breaker : l.breaker.Resembles origin.window young.breaker
  window_eq : l.window = origin.window + young.window
  journal_eq : l.journal = origin.journal ++ young.journal
  length_eq : l.slips.length = origin.slips.length + young.slips.length
  slip_eq : ∀ number, l.slips[origin.slips.length + number]? =
    young.slips[number]?.map (Slip.later origin.window)
  /-- The older permits stay what they were. -/
  permit_eq : ∀ number < origin.slips.length,
    l.slips[number]?.map Slip.permit = origin.slips[number]?.map Slip.permit

/-- No permit that was issued so far counts any more. -/
def IsCleared (origin : Ledger) : Prop :=
  ∀ slip ∈ origin.slips, slip.permit.epoch < origin.window

/-- Both users get the same answer, and their ledgers go on alike. -/
structure Parallel {β : Type} (origin : Ledger) (lift : β → β) (l young : β × Ledger) : Prop where
  answer_eq : l.1 = lift young.1
  renews : origin.Renews l.2 young.2

namespace Parallel

variable {origin : Ledger} {β : Type} {lift : β → β} {l young : β × Ledger}

/-- What is said of the answers is said of the replies. -/
theorem map (h : origin.Parallel lift l young) {reply : β → Reply}
    (lifted : ∀ answer, reply (lift answer) = (reply answer).later origin.window) :
    origin.Parallel (Reply.later origin.window) (l.map reply id) (young.map reply id) where
  answer_eq := (congrArg reply h.answer_eq).trans (lifted young.1)
  renews := h.renews

end Parallel

namespace Renews

variable {origin l young : Ledger}

theorem follow {β : Type} {lift : β → β} {effect effect' : Effect β}
    (h : origin.Renews l young) (like : effect.Resembles origin.window lift effect') :
    origin.Renews (l.follow effect) (young.follow effect') := by
  have journal : l.journal ++ effect.events =
      origin.journal ++ (young.journal ++ effect'.events) := by
    rw [h.journal_eq, like.events_eq, List.append_assoc]
  by_cases same : effect'.breaker.state = young.breaker.state
  · have same' : effect.breaker.state = l.breaker.state := by
      rw [like.breaker.state_eq, same, h.breaker.state_eq]
    rw [follow_of_eq same, follow_of_eq same']
    exact { h with breaker := like.breaker, journal_eq := journal }
  · have other : effect.breaker.state ≠ l.breaker.state := by
      rw [like.breaker.state_eq, h.breaker.state_eq]
      exact same
    rw [follow_of_ne same, follow_of_ne other]
    have window : (l.past ++ [l.breaker.state]).length =
        origin.window + (young.past ++ [young.breaker.state]).length := by
      rw [List.length_append, List.length_append]
      exact congrArg (· + 1) h.window_eq
    exact { h with breaker := like.breaker, window_eq := window, journal_eq := journal }

theorem hand (h : origin.Renews l young) (permit : Permit) (working : Bool) :
    origin.Renews (l.hand (permit.later origin.window) working) (young.hand permit working) where
  breaker := h.breaker
  window_eq := h.window_eq
  journal_eq := h.journal_eq
  length_eq := by
    simp only [Ledger.hand, List.length_append, h.length_eq, Nat.add_assoc]
    rfl
  slip_eq number := by
    simp only [Ledger.hand, List.getElem?_append, h.length_eq, h.slip_eq, Nat.add_lt_add_iff_left,
      Nat.add_sub_add_left]
    split
    · rfl
    · cases number - young.slips.length with
      | zero => simp [Slip.later, h.window_eq]
      | succ _ => rfl
  permit_eq number older := by
    have inside : number < l.slips.length := by
      rw [h.length_eq]
      omega
    rw [← h.permit_eq number older, Ledger.hand, List.getElem?_append_left inside]

/-- The fate of a newer permit becomes known to both. -/
theorem mark (h : origin.Renews l young) (number : Nat) (fate : Fate) :
    origin.Renews (l.mark (origin.slips.length + number) fate) (young.mark number fate) where
  breaker := h.breaker
  window_eq := h.window_eq
  journal_eq := h.journal_eq
  length_eq := by simpa [Ledger.mark, markSlip] using h.length_eq
  slip_eq index := by
    simp only [Ledger.mark, getElem?_markSlip, h.slip_eq, Option.map_map, Nat.add_left_cancel_iff]
    congr 1
    funext slip
    simp only [Function.comp_apply]
    split <;> rfl
  permit_eq index older := (map_permit_markSlip ..).trans (h.permit_eq index older)

/-- The fate of an older permit becomes known. -/
theorem markOlder (h : origin.Renews l young) {number : Nat} (older : number < origin.slips.length)
    (fate : Fate) : origin.Renews (l.mark number fate) young where
  breaker := h.breaker
  window_eq := h.window_eq
  journal_eq := h.journal_eq
  length_eq := by simpa [Ledger.mark, markSlip] using h.length_eq
  slip_eq index := by
    have other : number ≠ origin.slips.length + index := by omega
    simp only [Ledger.mark, getElem?_markSlip, if_neg other, Option.map_id', h.slip_eq]
  permit_eq index older := (map_permit_markSlip ..).trans (h.permit_eq index older)

theorem held?_eq (h : origin.Renews l young) (number : Nat) :
    l.held? (origin.slips.length + number) =
      (young.held? number).map (Slip.later origin.window) := by
  rw [held?, held?, h.slip_eq, Option.filter_map]
  rfl

/-! Each operation does the same to both. -/

section Operations

variable (h : origin.Renews l young)

include h

theorem allow (glance : Glance) :
    origin.Parallel id (l.allow glance) (young.allow glance) :=
  ⟨(h.breaker.allow glance).answer_eq, h.follow (h.breaker.allow glance)⟩

theorem acquire (working : Bool) (glance : Glance) :
    origin.Parallel (Except.map (Option.map (Permit.later origin.window)))
      (l.acquire working glance) (young.acquire working glance) := by
  have like := h.breaker.acquire glance
  have followed := h.follow like
  have answer := like.answer_eq
  rw [Ledger.acquire, Ledger.acquire]
  generalize l.breaker.acquire glance = effect at like followed answer ⊢
  generalize young.breaker.acquire glance = effect' at like followed answer ⊢
  obtain ⟨_, after, events⟩ := effect
  subst answer
  rcases effect' with ⟨fault | _ | permit, after', events'⟩
  · exact ⟨rfl, followed⟩
  · exact ⟨rfl, followed⟩
  · exact ⟨rfl, followed.hand permit working⟩

theorem resolve (number : Nat) (outcome : Outcome) (glance : Glance) :
    origin.Parallel id (l.resolve (origin.slips.length + number) outcome glance)
      (young.resolve number outcome glance) := by
  rw [Ledger.resolve, Ledger.resolve, h.held?_eq]
  cases young.held? number with
  | none => exact ⟨rfl, h⟩
  | some slip =>
    have like := h.breaker.report outcome (some slip.permit) glance
    have answer := like.answer_eq
    simp only [Option.map_some, Slip.later, Breaker.settle]
    simp only [Option.map_some] at answer
    rw [answer]
    exact ⟨rfl, (h.follow like).mark number _⟩

theorem record (outcome : Outcome) (glance : Glance) :
    origin.Parallel id (l.record outcome glance) (young.record outcome glance) :=
  ⟨(h.breaker.report outcome none glance).answer_eq,
    h.follow (h.breaker.report outcome none glance)⟩

theorem reset (glance : Glance) :
    origin.Parallel id (l.reset glance) (young.reset glance) :=
  ⟨(h.breaker.reset glance).answer_eq, h.follow (h.breaker.reset glance)⟩

theorem addObserver (observer : Observer) :
    origin.Renews (l.addObserver observer) (young.addObserver observer) :=
  { h with breaker := h.breaker.addObserver observer }

end Operations

/-- A step that both users take does the same to both. -/
theorem perform (h : origin.Renews l young) {s t : Step ε α}
    (both : s.since? origin.slips.length = some t) :
    origin.Parallel (Reply.later origin.window) (l.perform s) (young.perform t) := by
  obtain ⟨action, glance⟩ := s
  obtain ⟨action', since, rfl⟩ := Option.map_eq_some_iff.mp both
  cases action with
  | settle number outcome =>
    obtain ⟨index, newer, rfl⟩ := Option.map_eq_some_iff.mp since
    rw [numberSince?_eq_some_iff.mp newer]
    exact (h.resolve index outcome glance).map fun _ => rfl
  | discard number =>
    obtain ⟨index, newer, rfl⟩ := Option.map_eq_some_iff.mp since
    rw [numberSince?_eq_some_iff.mp newer]
    exact (h.resolve index .failure glance).map fun _ => rfl
  | finish number work =>
    obtain ⟨index, newer, rfl⟩ := Option.map_eq_some_iff.mp since
    rw [numberSince?_eq_some_iff.mp newer]
    exact (h.resolve index work.outcome glance).map fun _ => rfl
  | allow =>
    cases since
    exact (h.allow glance).map fun _ => rfl
  | acquire =>
    cases since
    exact (h.acquire false glance).map fun _ => rfl
  | start =>
    cases since
    exact (h.acquire true glance).map fun _ => rfl
  | record outcome =>
    cases since
    exact (h.record outcome glance).map fun _ => rfl
  | reset =>
    cases since
    exact (h.reset glance).map fun _ => rfl
  | addObserver observer =>
    cases since
    exact ⟨rfl, h.addObserver observer⟩

/-- Both users see the same of such a step. -/
theorem sight_eq (h : origin.Renews l young) {s t : Step ε α}
    (both : s.since? origin.slips.length = some t) :
    (⟨l, s⟩ : Entry ε α).sight = (⟨young, t⟩ : Entry ε α).sight.later origin.window := by
  obtain ⟨reply, after⟩ := h.perform both
  have events : (l.step s).journal.drop l.journal.length =
      (young.step t).journal.drop young.journal.length := by
    rw [step, after.journal_eq, h.journal_eq, List.length_append, List.drop_length_add_append]
    rfl
  have face : (l.step s).breaker.face = (young.step t).breaker.face := after.breaker.face_eq
  simp only [Entry.sight, Sight.later, reply, events, face]

/-- An older permit that is given back changes nothing that can be seen. -/
theorem older (h : origin.Renews l young) (cleared : origin.IsCleared) {s : Step ε α}
    (older : s.since? origin.slips.length = none) :
    origin.Renews (l.step s) young ∧ (⟨l, s⟩ : Entry ε α).IsSilent := by
  obtain ⟨number, outcome, resolution, early⟩ := Step.resolution?_of_since?_eq_none older
  have after := step_of_resolution resolution l
  cases held : l.held? number with
  | none =>
    rw [Ledger.resolve, held] at after
    exact ⟨by rw [after]; exact h, by rw [after], by rw [after]⟩
  | some slip =>
    obtain ⟨found, _⟩ := held?_eq_some_iff.mp held
    have stale : l.breaker.isStale (some slip.permit) = true := by
      have permit := h.permit_eq number early
      rw [found, Option.map_some, eq_comm, Option.map_eq_some_iff] at permit
      obtain ⟨original, known, same⟩ := permit
      have past := cleared original (List.mem_of_getElem? known)
      simp only [Breaker.isStale, ← same, h.breaker.epoch_eq, ne_eq, decide_eq_true_eq]
      omega
    obtain ⟨breaker, events⟩ := Breaker.report_of_stale stale outcome s.glance
    rw [Ledger.resolve, held] at after
    simp only [Breaker.settle] at after
    generalize l.breaker.report outcome (some slip.permit) s.glance = effect at *
    have still : effect.breaker.state = l.breaker.state := by
      rw [breaker]
      rfl
    rw [follow_of_eq still, breaker, events, List.append_nil] at after
    have counted : origin.Renews { l with breaker := l.breaker.countOutcome outcome } young :=
      { h with breaker := h.breaker.countOutcome_left outcome }
    refine ⟨?_, ?_, ?_⟩
    · rw [after]
      exact counted.markOlder early _
    · rw [after]
      rfl
    · rw [after]
      rfl

/-- Whatever both users do, they see the same, and of an older permit that is given back
nothing is seen. -/
theorem run (h : origin.Renews l young) (later : List (Step ε α))
    (cleared : ∀ s ∈ later, s.since? origin.slips.length = none → origin.IsCleared) :
    ((l.history later).filter fun e => (e.step.since? origin.slips.length).isSome).map
        Entry.sight =
      (young.history (later.filterMap (Step.since? origin.slips.length))).map
        (fun e => e.sight.later origin.window) ∧
    ∀ e ∈ l.history later, e.step.since? origin.slips.length = none → e.IsSilent := by
  induction later generalizing l young with
  | nil => exact ⟨rfl, fun e member => by cases member⟩
  | cons s later ih =>
    have later_cleared : ∀ t ∈ later, t.since? origin.slips.length = none → origin.IsCleared :=
      fun t member => cleared t (List.mem_cons_of_mem s member)
    rw [history, List.filter_cons, List.filterMap_cons]
    cases both : s.since? origin.slips.length with
    | none =>
      obtain ⟨after, silent⟩ := h.older (cleared s List.mem_cons_self both) both
      obtain ⟨seen, rest⟩ := ih after later_cleared
      refine ⟨seen, fun e member older => ?_⟩
      rcases List.mem_cons.mp member with rfl | member
      · exact silent
      · exact rest e member older
    | some t =>
      obtain ⟨seen, rest⟩ := ih (h.perform both).renews later_cleared
      refine ⟨?_, fun e member older => ?_⟩
      · rw [if_pos Option.isSome_some, List.map_cons, h.sight_eq both]
        exact congrArg _ seen
      · rcases List.mem_cons.mp member with rfl | member
        · cases both.symm.trans older
        · exact rest e member older

end Renews

/-! ## The reset -/

section Reset

variable {l : Ledger} {permitsOnly : Prop}

/-- The ledger after a reset looks like the one of a new breaker. -/
theorem renews_reset (h : l.IsBalanced permitsOnly) {config : Config}
    (same : l.breaker.config = config.sanitize) (now built : Reading) :
    (l.reset (.ok now)).2.Renews (l.reset (.ok now)).2
      (fresh l.breaker.name config l.breaker.observers built) where
  breaker := by
    have passage := l.breaker.passage_reset (.ok now)
    have epoch : (l.breaker.reset (.ok now)).breaker.phase.epoch = (l.reset (.ok now)).2.window :=
      (h.reset (.ok now)).epoch_eq
    have like := Breaker.Resembles.of_face (passage.config_eq.trans same)
      (l.breaker.reset_ok now).2.1 built
    rw [epoch, passage.name_eq, passage.observers_eq] at like
    exact like
  window_eq := rfl
  journal_eq := (List.append_nil _).symm
  length_eq := rfl
  slip_eq number := List.getElem?_eq_none (Nat.le_add_right _ _)
  permit_eq _ _ := rfl

/-- If the reset was a transition, then no permit of the time before counts any more. -/
theorem isCleared_reset (h : l.IsBalanced permitsOnly) (open_ : l.breaker.state ≠ .closed)
    (now : Reading) : (l.reset (.ok now)).2.IsCleared := by
  intro slip member
  have member : slip ∈ l.slips := member
  have closed : (l.breaker.reset (.ok now)).breaker.state = .closed :=
    congrArg Face.state (l.breaker.reset_ok now).2.1
  have window : (l.reset (.ok now)).2.window = l.window + 1 := by
    rw [Ledger.reset, follow_of_ne (by rw [closed]; exact open_.symm)]
    exact List.length_append
  rw [h.slip_epoch slip member, window]
  exact Nat.lt_succ_of_le (h.slip_window slip member)

end Reset

/-- From a reset on, the ledger goes on as the one of a new breaker, whose users hold only
what was issued since the reset. -/
structure IsRenewal (l : Ledger) (now : Reading) (young : Ledger) (later : List (Step ε α)) :
    Prop where
  answer_eq : (l.reset (.ok now)).1 = .ok ()
  face_eq : (l.reset (.ok now)).2.breaker.face = young.breaker.face
  /-- Every observer is told once if the circuit was not closed, and else nobody is told. -/
  journal_eq : (l.reset (.ok now)).2.journal = l.journal ++
    if l.breaker.state = .closed then []
    else l.breaker.observers.flatMap (·.notify ⟨l.breaker.name, l.breaker.state, .closed⟩)
  /-- Users see the same of every step but those that give back an older permit. -/
  seen :
    (((l.reset (.ok now)).2.history later).filter fun e =>
        (e.step.since? l.slips.length).isSome).map Entry.sight =
      (young.history (later.filterMap (Step.since? l.slips.length))).map fun e =>
        e.sight.later (l.reset (.ok now)).2.window
  /-- Of the others nothing is seen. -/
  silent : ∀ e ∈ (l.reset (.ok now)).2.history later,
    e.step.since? l.slips.length = none → e.IsSilent

/-- A reset is as good as a new breaker: whatever has happened before and whatever happens
later, users see the same.  If the circuit was closed at the reset, then permits that were
issued before may not be given back later. -/
theorem reset_is_renewal (name : String) (config : Config) (observers : List Observer)
    (created : Reading) (before later : List (Step ε α)) (now built : Reading) {l : Ledger}
    (reached : (fresh name config observers created).run before = l)
    (recent : l.breaker.state = .closed → ∀ s ∈ later, (s.since? l.slips.length).isSome) :
    l.IsRenewal now (fresh l.breaker.name config l.breaker.observers built) later := by
  have balanced : l.IsBalanced False := by
    rw [← reached]
    exact isBalanced_run name config observers created before
  have same : l.breaker.config = config.sanitize := by
    rw [← reached]
    exact config_fresh_run name config observers created before
  obtain ⟨answer, face, events⟩ := l.breaker.reset_ok now
  obtain ⟨seen, silent⟩ := (renews_reset balanced same now built).run later fun s member older => by
    refine isCleared_reset balanced (fun closed => ?_) now
    exact Option.isSome_iff_ne_none.mp (recent closed s member) older
  exact {
    answer_eq := answer
    face_eq := face
    journal_eq := congrArg (l.journal ++ ·) events
    seen := seen
    silent := silent }

/-- A permit is issued and the circuit opens. -/
def stepsUntilOpened : List (Step Unit Unit) :=
  [⟨.acquire, .ok ⟨⟨0⟩, Clock.origin⟩⟩, ⟨.record .failure, .ok ⟨⟨0⟩, Clock.origin⟩⟩]

/-- The old permit is given up while a new one is held. -/
def stepsSinceReset : List (Step Unit Unit) :=
  [⟨.acquire, .ok ⟨⟨2⟩, Clock.origin⟩⟩, ⟨.discard 0, .ok ⟨⟨3⟩, Clock.origin⟩⟩,
    ⟨.settle 1 .failure, .ok ⟨⟨4⟩, Clock.origin⟩⟩]

theorem reset_is_renewal_tripped :
    let l := (fresh "tripped" ⟨1, 10, 1⟩ [.logging] ⟨⟨0⟩, Clock.origin⟩).run stepsUntilOpened
    l.breaker.state = .opened ∧
      l.IsRenewal ⟨⟨1⟩, Clock.origin⟩
        (fresh "tripped" ⟨1, 10, 1⟩ [.logging] ⟨⟨1⟩, Clock.origin⟩) stepsSinceReset := by
  intro l
  have opened : l.breaker.state = .opened := by decide
  refine ⟨opened, ?_⟩
  exact reset_is_renewal "tripped" ⟨1, 10, 1⟩ [.logging] ⟨⟨0⟩, Clock.origin⟩ stepsUntilOpened
    stepsSinceReset ⟨⟨1⟩, Clock.origin⟩ ⟨⟨1⟩, Clock.origin⟩ rfl
    fun closed => by cases opened.symm.trans closed

/-- A reset of a closed circuit is no transition, and an older permit still counts. -/
example :
    ((fresh "tripped" ⟨1, 10, 1⟩ [.logging] ⟨⟨0⟩, Clock.origin⟩).run
      [⟨.acquire, .ok ⟨⟨0⟩, Clock.origin⟩⟩, ⟨.reset, .ok ⟨⟨1⟩, Clock.origin⟩⟩,
        (⟨.settle 0 .failure, .ok ⟨⟨2⟩, Clock.origin⟩⟩ : Step Unit Unit)]).breaker.state =
      .opened := by
  decide

end Ledger

end GuardedCache.Circuit
