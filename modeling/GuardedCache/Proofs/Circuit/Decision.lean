import GuardedCache.Proofs.Circuit.Conservation
import GuardedCache.Proofs.Circuit.Probes
import GuardedCache.Proofs.Circuit.Renewal
import GuardedCache.Proofs.Circuit.Staleness

/-!
# What a half-open window decides

The probes of a half-open window finish in any order.  If outcomes are reported with permits
only, the order makes no difference to what becomes of the circuit: a failure among them opens
it, and otherwise it closes if there are as many successes as it needs.

Single reports do not commute.  The first failure makes all later outcomes stale, and so does
the last success.  What saves the order is the balance of the accounts: a success can only be
the last one that is needed if no other probe is still held, so a failure is never overtaken.
`decision` says what a list of outcomes decides, without looking at their order, and
`standing_run` that the reports come to just that.
-/

namespace GuardedCache.Circuit

namespace Breaker

variable {b : Breaker}

/-- The state that outcomes of probes lead to. -/
def decision (b : Breaker) (heard : List Outcome) : State :=
  if .failure ∈ heard then .opened
  else if b.cap ≤ b.phase.successes + heard.length then .closed
  else .halfOpen

/-- The order of the outcomes makes no difference. -/
theorem decision_eq_of_perm {heard other : List Outcome} (same : heard.Perm other) :
    b.decision heard = b.decision other := by
  simp only [decision, same.mem_iff, same.length_eq]

theorem decision_failure (heard : List Outcome) : b.decision (.failure :: heard) = .opened :=
  if_pos List.mem_cons_self

theorem afterProbe_eq_halfOpen_iff (b : Breaker) {outcome : Outcome} :
    b.afterProbe outcome = .halfOpen ↔ outcome = .success ∧ b.phase.successes + 1 < b.cap := by
  cases outcome with
  | failure => simp [afterProbe]
  | success => simp [afterProbe]

/-- The report of a probe while the clock can be read: the circuit goes on with one success
more, or it makes a transition. -/
theorem report_of_probe (halfOpen : b.state = .halfOpen) {permit : Permit}
    (fresh : b.isStale (some permit) = false) (outcome : Outcome) (now : Reading) :
    b.report outcome (some permit) (.ok now) =
      if b.afterProbe outcome = .halfOpen then
        ⟨.ok (), { b.countOutcome outcome with
            phase := { b.phase with successes := b.phase.successes + 1 } }, []⟩
      else
        ⟨.ok (), (b.countOutcome outcome).enter (b.afterProbe outcome) now,
          b.notices (b.afterProbe outcome)⟩ := by
  have row := b.report_row outcome (some permit) (.ok now)
  generalize b.report outcome (some permit) (.ok now) = effect at row ⊢
  cases row with
  | healthy _ success closed clean => cases halfOpen.symm.trans closed
  | stale _ stale => cases stale.symm.trans fresh
  | ignored _ opened => cases halfOpen.symm.trans opened
  | forgiven _ _ success closed => cases halfOpen.symm.trans closed
  | noted _ _ failure closed below => cases halfOpen.symm.trans closed
  | tripped _ _ failure closed reached => cases halfOpen.symm.trans closed
  | progressed _ _ success _ below =>
    subst success
    have stays : b.afterProbe .success = .halfOpen := if_neg (Nat.not_le_of_lt below)
    rw [if_pos stays]
    rfl
  | recovered _ _ success _ reached =>
    subst success
    have closes : b.afterProbe .success = .closed := if_pos reached
    rw [closes, if_neg (by decide)]
  | relapsed _ _ failure _ =>
    subst failure
    rfl

end Breaker

/-- A probe whose report the clock breaks off. -/
theorem Breaker.report_of_unread {b : Breaker} (halfOpen : b.state = .halfOpen)
    (outcome : Outcome) (permit : Option Permit) (fault : ClockFault) :
    (b.report outcome permit (.error fault)).breaker = b.countOutcome outcome ∧
      (b.report outcome permit (.error fault)).events = [] := by
  have row := b.report_row outcome permit (.error fault)
  generalize b.report outcome permit (.error fault) = effect at row ⊢
  cases row with
  | healthy _ success closed clean => cases halfOpen.symm.trans closed
  | unread _ unhealthy => exact ⟨rfl, rfl⟩

theorem Totals.credit_singleton (t : Totals) (outcome : Outcome) :
    t.credit [outcome] = t.countOutcome outcome := by
  cases outcome <;> rfl

theorem Totals.credit_cons (t : Totals) (outcome : Outcome) (outcomes : List Outcome) :
    t.credit (outcome :: outcomes) = (t.countOutcome outcome).credit outcomes := by
  cases outcome <;> simp [credit, countOutcome, Nat.add_assoc, Nat.add_comm 1]

variable {ε α : Type}

/-! ## Steps that give permits back -/

theorem not_isBare_of_resolution {action : Action ε α} {number : Nat} {outcome : Outcome}
    (gives : action.resolution? = some (number, outcome)) : ¬ action.IsBare := by
  cases action with
  | record o => cases gives
  | _ => exact id

/-- The outcome that a step reports with a permit. -/
def Step.outcome? (s : Step ε α) : Option Outcome := s.action.resolution?.map Prod.snd

def Step.isRead (s : Step ε α) : Bool := s.glance.isOk

/-- The outcome that a step reports with a permit while the clock can be read. -/
def Step.heard? (s : Step ε α) : Option Outcome := if s.isRead then s.outcome? else none

/-- The outcomes that are reported with permits. -/
def reported (steps : List (Step ε α)) : List Outcome := steps.filterMap Step.outcome?

/-- The outcomes that are reported with permits while the clock can be read. -/
def heard (steps : List (Step ε α)) : List Outcome := steps.filterMap Step.heard?

theorem reported_cons {s : Step ε α} {number : Nat} {outcome : Outcome}
    (gives : s.action.resolution? = some (number, outcome)) (steps : List (Step ε α)) :
    reported (s :: steps) = outcome :: reported steps :=
  List.filterMap_cons_some (by rw [Step.outcome?, gives]; rfl)

theorem heard_cons {s : Step ε α} {number : Nat} {outcome : Outcome}
    (gives : s.action.resolution? = some (number, outcome)) (steps : List (Step ε α)) :
    heard (s :: steps) = if s.isRead then outcome :: heard steps else heard steps := by
  rw [heard, List.filterMap_cons, Step.heard?, Step.outcome?, gives]
  cases s.isRead <;> rfl

theorem heard_of_readable {steps : List (Step ε α)} (readable : ∀ s ∈ steps, s.IsReadable) :
    heard steps = reported steps := by
  induction steps with
  | nil => rfl
  | cons s steps ih =>
    obtain ⟨⟨now, glance⟩, readable⟩ := List.forall_mem_cons.mp readable
    have same : s.heard? = s.outcome? := by
      rw [Step.heard?, Step.isRead, glance]
      rfl
    rw [heard, reported, List.filterMap_cons, List.filterMap_cons, same, ← heard, ← reported,
      ih readable]

/-- A step without its time: what is done, and whether the clock can be read. -/
def Step.untimed (s : Step ε α) : Action ε α × Bool := (s.action, s.isRead)

theorem reported_perm {first second : List (Step ε α)}
    (reordered : (first.map Step.untimed).Perm (second.map Step.untimed)) :
    (reported first).Perm (reported second) := by
  have outcomes := reordered.filterMap fun u => u.1.resolution?.map Prod.snd
  rwa [List.filterMap_map, List.filterMap_map] at outcomes

theorem heard_perm {first second : List (Step ε α)}
    (reordered : (first.map Step.untimed).Perm (second.map Step.untimed)) :
    (heard first).Perm (heard second) := by
  have outcomes := reordered.filterMap fun u =>
    if u.2 then u.1.resolution?.map Prod.snd else none
  rwa [List.filterMap_map, List.filterMap_map] at outcomes

namespace Ledger

variable {permitsOnly : Prop} {l : Ledger}

/-- Every step gives back a permit of a window that is still held, and no permit is given back
twice. -/
structure GivesBack (l : Ledger) (window : Nat) (steps : List (Step ε α)) : Prop where
  once : (steps.map fun s => s.action.returned?).Nodup
  held : ∀ s ∈ steps, ∃ number outcome slip,
    s.action.resolution? = some (number, outcome) ∧ l.held? number = some slip ∧
      slip.window = window

/-- Every permit of a window that is still held is given back. -/
def GivesAllBack (l : Ledger) (window : Nat) (steps : List (Step ε α)) : Prop :=
  ∀ number slip, l.held? number = some slip → slip.window = window →
    ∃ s ∈ steps, ∃ outcome, s.action.resolution? = some (number, outcome)

theorem resolve_of_held {number : Nat} {slip : Slip} (held : l.held? number = some slip)
    (outcome : Outcome) (glance : Glance) :
    ∃ fate, (l.resolve number outcome glance).2 =
      (l.follow (l.breaker.report outcome (some slip.permit) glance)).mark number fate := by
  rw [resolve, held]
  exact ⟨_, rfl⟩

/-- The other permits are still held when one is given back. -/
theorem held?_resolve_of_ne {number other : Nat} (different : number ≠ other)
    (outcome : Outcome) (glance : Glance) :
    (l.resolve number outcome glance).2.held? other = l.held? other := by
  cases held : l.held? number with
  | none => rw [resolve, held]
  | some slip =>
    obtain ⟨fate, after⟩ := resolve_of_held held outcome glance
    rw [after, held?, mark, getElem?_markSlip, held?]
    simp only [if_neg different, Option.map_id', follow]

/-- A permit that is given back first is not given back again. -/
theorem GivesBack.number_ne {window : Nat} {s t : Step ε α} {steps : List (Step ε α)}
    (given : l.GivesBack window (s :: steps)) {number other : Nat} {outcome later : Outcome}
    (gives : s.action.resolution? = some (number, outcome)) (member : t ∈ steps)
    (returns : t.action.resolution? = some (other, later)) : number ≠ other := by
  rintro rfl
  refine (List.nodup_cons.mp given.once).1 (List.mem_map.mpr ⟨t, member, ?_⟩)
  show t.action.returned? = s.action.returned?
  rw [Action.returned?, Action.returned?, gives, returns]
  rfl

theorem GivesBack.tail {window : Nat} {s : Step ε α} {steps : List (Step ε α)}
    (given : l.GivesBack window (s :: steps)) : (l.step s).GivesBack window steps where
  once := (List.nodup_cons.mp given.once).2
  held t member := by
    obtain ⟨number, outcome, _, gives, _, _⟩ := given.held s List.mem_cons_self
    obtain ⟨other, later, slip, returns, held, same⟩ :=
      given.held t (List.mem_cons_of_mem s member)
    refine ⟨other, later, slip, returns, ?_, same⟩
    rw [step_of_resolution gives, held?_resolve_of_ne (given.number_ne gives member returns)]
    exact held

/-- Whether steps give permits back does not depend on their order and their times. -/
theorem GivesBack.of_perm {window : Nat} {first second : List (Step ε α)}
    (given : l.GivesBack window first)
    (reordered : (first.map Step.untimed).Perm (second.map Step.untimed)) :
    l.GivesBack window second where
  once := by
    have returned := reordered.map fun u => u.1.returned?
    rw [List.map_map, List.map_map] at returned
    exact returned.nodup_iff.mp given.once
  held s member := by
    obtain ⟨t, known, same⟩ :=
      List.mem_map.mp (reordered.mem_iff.mpr (List.mem_map_of_mem member))
    rw [← show t.action = s.action from congrArg Prod.fst same]
    exact given.held t known

/-! ## What the reports come to -/

/-- What can be told of a ledger without its permits and times. -/
structure Standing where
  face : Face
  epoch : Nat
  totals : Totals
  journal : List Event

def Standing.credit (s : Standing) (outcomes : List Outcome) : Standing :=
  { s with totals := s.totals.credit outcomes }

theorem Standing.credit_cons (s : Standing) (outcome : Outcome) (outcomes : List Outcome) :
    s.credit (outcome :: outcomes) = (s.credit [outcome]).credit outcomes := by
  rw [credit, Totals.credit_cons, credit, credit, Totals.credit_singleton]

theorem Standing.credit_eq_of_perm (s : Standing) {outcomes other : List Outcome}
    (same : outcomes.Perm other) : s.credit outcomes = s.credit other := by
  rw [credit, credit, Totals.credit, Totals.credit, same.count_eq, same.count_eq]

def standing (l : Ledger) : Standing where
  face := l.breaker.face
  epoch := l.breaker.phase.epoch
  totals := l.breaker.totals
  journal := l.journal

/-- What becomes of a half-open circuit when outcomes of probes are heard, apart from their
count. -/
def decided (l : Ledger) (heard : List Outcome) : Standing :=
  match l.breaker.decision heard with
  | .halfOpen => { l.standing with
      face.successes := l.breaker.phase.successes + heard.length }
  | target => {
      face := ⟨target, 0, 0, 0⟩
      epoch := l.breaker.phase.epoch + 1
      totals := l.breaker.totals.countEntry target
      journal := l.journal ++ l.breaker.notices target }

/-- The transition that outcomes of probes lead to. -/
def turns (l : Ledger) (heard : List Outcome) : List Transition :=
  match l.breaker.decision heard with
  | .halfOpen => []
  | target => [⟨l.breaker.name, .halfOpen, target⟩]

/-- A report is counted, and the circuit stays in its window with a number of successes. -/
structure Counts (l : Ledger) (outcome : Outcome) (successes : Nat) (s : Step ε α) : Prop where
  breaker_eq : (l.step s).breaker = { l.breaker.countOutcome outcome with
    phase := { l.breaker.phase with successes } }
  past_eq : (l.step s).past = l.past
  journal_eq : (l.step s).journal = l.journal

theorem step_of_report {s : Step ε α} {number : Nat} {outcome : Outcome} {slip : Slip}
    (gives : s.action.resolution? = some (number, outcome))
    (held : l.held? number = some slip) :
    ∃ fate, l.step s =
      (l.follow (l.breaker.report outcome (some slip.permit) s.glance)).mark number fate := by
  rw [step_of_resolution gives]
  exact resolve_of_held held outcome s.glance

theorem counts_of_report {s : Step ε α} {number : Nat} {outcome : Outcome} {slip : Slip}
    (gives : s.action.resolution? = some (number, outcome)) (held : l.held? number = some slip)
    {successes : Nat}
    (breaker : (l.breaker.report outcome (some slip.permit) s.glance).breaker =
      { l.breaker.countOutcome outcome with phase := { l.breaker.phase with successes } })
    (events : (l.breaker.report outcome (some slip.permit) s.glance).events = []) :
    l.Counts outcome successes s := by
  obtain ⟨fate, after⟩ := step_of_report gives held
  have same : (l.breaker.report outcome (some slip.permit) s.glance).breaker.state =
      l.breaker.state := by
    rw [breaker]
    rfl
  rw [follow_of_eq same, breaker, events, List.append_nil] at after
  exact ⟨by rw [after]; rfl, by rw [after]; rfl, by rw [after]; rfl⟩

namespace Counts

variable {outcome : Outcome} {successes : Nat} {s : Step ε α}

theorem state_eq (h : l.Counts outcome successes s) :
    (l.step s).breaker.state = l.breaker.state := by
  rw [h.breaker_eq]
  rfl

theorem window_eq (h : l.Counts outcome successes s) : (l.step s).window = l.window :=
  congrArg List.length h.past_eq

theorem standing_eq (h : l.Counts outcome l.breaker.phase.successes s) :
    (l.step s).standing = l.standing.credit [outcome] := by
  rw [standing, h.breaker_eq, h.journal_eq, Standing.credit, Totals.credit_singleton]
  rfl

theorem transitions_cons (h : l.Counts outcome successes s) (steps : List (Step ε α)) :
    l.transitions (s :: steps) = (l.step s).transitions steps := by
  rw [Ledger.transitions_cons, transition?, if_pos h.state_eq]
  rfl

/-- What is decided by the outcomes that are left is what was to be decided before. -/
theorem decided_eq (h : l.Counts outcome successes s) {all left : List Outcome}
    (failed : .failure ∈ left ↔ .failure ∈ all)
    (length : successes + left.length = l.breaker.phase.successes + all.length) :
    (l.step s).decided left = (l.decided all).credit [outcome] ∧
      (l.step s).turns left = l.turns all := by
  have decision : (l.step s).breaker.decision left = l.breaker.decision all := by
    rw [h.breaker_eq]
    simp only [Breaker.decision, failed, length]
    rfl
  rw [decided, turns, standing, decision, h.breaker_eq, h.journal_eq, decided, turns]
  cases l.breaker.decision all with
  | halfOpen => exact ⟨by rw [Standing.credit, Totals.credit_singleton, length]; rfl, rfl⟩
  | closed => exact ⟨by cases outcome <;> rfl, rfl⟩
  | opened => exact ⟨by cases outcome <;> rfl, rfl⟩

end Counts

/-- The reports come to what the outcomes decide that are heard, and the rest is counted. -/
structure ComesTo (l : Ledger) (steps : List (Step ε α)) : Prop where
  standing_eq : (l.run steps).standing = (l.decided (heard steps)).credit (reported steps)
  transitions_eq : l.transitions steps = l.turns (heard steps)

/-- Reports of permits from an earlier window are counted, and that is all. -/
theorem run_of_stale {window : Nat} {steps : List (Step ε α)}
    (h : l.IsBalanced True) (given : l.GivesBack window steps) (older : window ≠ l.window) :
    (l.run steps).standing = l.standing.credit (reported steps) ∧ l.transitions steps = [] := by
  induction steps generalizing l with
  | nil => exact ⟨rfl, rfl⟩
  | cons s steps ih =>
    obtain ⟨number, outcome, slip, gives, held, rfl⟩ := given.held s List.mem_cons_self
    have stale := h.isStale_of_window_ne (mem_of_held? held) older
    obtain ⟨breaker, events⟩ := Breaker.report_of_stale stale outcome s.glance
    have counts : l.Counts outcome l.breaker.phase.successes s :=
      counts_of_report gives held breaker events
    have balanced := h.step s fun _ => not_isBare_of_resolution gives
    obtain ⟨standing, transitions⟩ :=
      ih balanced given.tail (by rw [counts.window_eq]; exact older)
    rw [run_cons, reported_cons gives, Standing.credit_cons, ← counts.standing_eq,
      counts.transitions_cons]
    exact ⟨standing, transitions⟩

/-! ## Reports of probes -/

theorem decided_of_decision {heard : List Outcome} {target : State}
    (decision : l.breaker.decision heard = target) (leaves : target ≠ .halfOpen) :
    l.decided heard = {
      face := ⟨target, 0, 0, 0⟩
      epoch := l.breaker.phase.epoch + 1
      totals := l.breaker.totals.countEntry target
      journal := l.journal ++ l.breaker.notices target } ∧
    l.turns heard = [⟨l.breaker.name, .halfOpen, target⟩] := by
  rw [decided, turns, decision]
  cases target with
  | halfOpen => exact absurd rfl leaves
  | closed => exact ⟨rfl, rfl⟩
  | opened => exact ⟨rfl, rfl⟩

/-- Nothing is decided before an outcome is heard. -/
theorem IsBalanced.decision_nil (h : l.IsBalanced permitsOnly)
    (halfOpen : l.breaker.state = .halfOpen) : l.breaker.decision [] = .halfOpen := by
  have below : l.breaker.phase.successes < l.breaker.cap := (Balanced.halfOpen h halfOpen).successes
  exact if_neg (Nat.not_le_of_lt below)

/-- A probe that makes a transition: the ledger is in a new window, and what the probe decides
has happened. -/
theorem step_of_turn {s : Step ε α} {number : Nat} {outcome : Outcome} {slip : Slip}
    {target : State} {now : Reading} (halfOpen : l.breaker.state = .halfOpen)
    (gives : s.action.resolution? = some (number, outcome)) (held : l.held? number = some slip)
    (leaves : target ≠ .halfOpen)
    (report : l.breaker.report outcome (some slip.permit) s.glance =
      ⟨.ok (), (l.breaker.countOutcome outcome).enter target now, l.breaker.notices target⟩)
    {heard : List Outcome} (decision : l.breaker.decision heard = target) :
    (l.step s).past = l.past ++ [.halfOpen] ∧
      (l.step s).standing = (l.decided heard).credit [outcome] ∧
      ∀ steps, l.transitions (s :: steps) = l.turns heard ++ (l.step s).transitions steps := by
  obtain ⟨fate, after⟩ := step_of_report gives held
  obtain ⟨decided, turns⟩ := decided_of_decision decision leaves
  have entered : ((l.breaker.countOutcome outcome).enter target now).state = target := rfl
  rw [report, follow_of_ne (by rw [entered, halfOpen]; exact leaves), halfOpen] at after
  refine ⟨by rw [after]; rfl, ?_, fun steps => ?_⟩
  · rw [after, decided]
    cases outcome <;> cases target <;> rfl
  · have state : (l.step s).breaker.state = target := by
      rw [after]
      rfl
    rw [Ledger.transitions_cons, transition?, state, halfOpen, if_neg leaves, turns]
    rfl

/-- If a success is the last one that is needed, no other probe of the window is held. -/
theorem IsBalanced.eq_nil_of_reached (h : l.IsBalanced True)
    (halfOpen : l.breaker.state = .halfOpen) {s : Step ε α} {steps : List (Step ε α)}
    (given : l.GivesBack l.window (s :: steps)) {number : Nat} {outcome : Outcome} {slip : Slip}
    (gives : s.action.resolution? = some (number, outcome)) (held : l.held? number = some slip)
    (current : slip.window = l.window) (reached : l.breaker.cap ≤ l.breaker.phase.successes + 1) :
    steps = [] := by
  obtain ⟨found, pending⟩ := held?_eq_some_iff.mp held
  obtain ⟨_, others⟩ := (h.reached_iff halfOpen found pending current).mp reached
  cases steps with
  | nil => rfl
  | cons t steps =>
    obtain ⟨other, _, second, returns, alsoHeld, same⟩ := given.held t (by simp)
    obtain ⟨there, alsoPending⟩ := held?_eq_some_iff.mp alsoHeld
    have different := given.number_ne gives List.mem_cons_self returns
    cases alsoPending.symm.trans (others other second there same different.symm)

/-- If a report leaves the circuit half-open, the rest decides. -/
theorem Counts.comesTo {outcome : Outcome} {successes number : Nat} {s : Step ε α}
    {steps : List (Step ε α)} (h : l.Counts outcome successes s)
    (gives : s.action.resolution? = some (number, outcome))
    (failed : .failure ∈ heard steps ↔ .failure ∈ heard (s :: steps))
    (length : successes + (heard steps).length =
      l.breaker.phase.successes + (heard (s :: steps)).length)
    (rest : (l.step s).ComesTo steps) : l.ComesTo (s :: steps) := by
  obtain ⟨decided, turns⟩ := h.decided_eq failed length
  constructor
  · rw [run_cons, rest.standing_eq, decided, reported_cons gives]
    exact (Standing.credit_cons ..).symm
  · rw [h.transitions_cons, rest.transitions_eq, turns]

/-- If a report ends the window, the rest is stale. -/
theorem IsBalanced.comesTo_of_turn {s : Step ε α} {steps : List (Step ε α)}
    (h : l.IsBalanced True) (halfOpen : l.breaker.state = .halfOpen)
    (given : l.GivesBack l.window (s :: steps)) {number : Nat} {outcome : Outcome} {slip : Slip}
    {target : State} {now : Reading}
    (gives : s.action.resolution? = some (number, outcome)) (held : l.held? number = some slip)
    (leaves : target ≠ .halfOpen)
    (report : l.breaker.report outcome (some slip.permit) s.glance =
      ⟨.ok (), (l.breaker.countOutcome outcome).enter target now, l.breaker.notices target⟩)
    (decision : l.breaker.decision (heard (s :: steps)) = target) : l.ComesTo (s :: steps) := by
  obtain ⟨past, decided, turns⟩ := step_of_turn halfOpen gives held leaves report decision
  have older : l.window ≠ (l.step s).window := by
    rw [window, window, past, List.length_append]
    simp
  obtain ⟨standing, transitions⟩ :=
    run_of_stale (h.step s fun _ => not_isBare_of_resolution gives) given.tail older
  constructor
  · rw [run_cons, standing, decided, reported_cons gives]
    exact (Standing.credit_cons ..).symm
  · rw [turns, transitions, List.append_nil]

/-- A probe that makes a transition decides for all that come after it. -/
theorem IsBalanced.decision_of_turn (h : l.IsBalanced True)
    (halfOpen : l.breaker.state = .halfOpen) {s : Step ε α} {steps : List (Step ε α)}
    (given : l.GivesBack l.window (s :: steps)) {number : Nat} {outcome : Outcome} {slip : Slip}
    (gives : s.action.resolution? = some (number, outcome)) (held : l.held? number = some slip)
    (current : slip.window = l.window) (leaves : l.breaker.afterProbe outcome ≠ .halfOpen) :
    l.breaker.decision (outcome :: heard steps) = l.breaker.afterProbe outcome := by
  cases outcome with
  | failure => exact Breaker.decision_failure _
  | success =>
    have reached : l.breaker.cap ≤ l.breaker.phase.successes + 1 :=
      Decidable.not_not.mp fun below => leaves (if_neg below)
    have closes : l.breaker.decision [.success] = .closed :=
      (if_neg (by simp)).trans (if_pos reached)
    rw [h.eq_nil_of_reached halfOpen given gives held current reached]
    exact closes.trans (if_pos reached).symm

/-- Reports of probes come to what their outcomes decide, whatever the order. -/
theorem IsBalanced.comesTo {steps : List (Step ε α)} (h : l.IsBalanced True)
    (halfOpen : l.breaker.state = .halfOpen) (given : l.GivesBack l.window steps) :
    l.ComesTo steps := by
  induction steps generalizing l with
  | nil =>
    have nothing : l.breaker.decision (heard ([] : List (Step ε α))) = .halfOpen :=
      h.decision_nil halfOpen
    constructor
    · rw [decided, nothing]
      rfl
    · rw [turns, nothing]
      rfl
  | cons s steps ih =>
    obtain ⟨number, outcome, slip, gives, held, current⟩ := given.held s List.mem_cons_self
    have rest {successes : Nat} (counts : l.Counts outcome successes s) :
        (l.step s).ComesTo steps := by
      refine ih (h.step s fun _ => not_isBare_of_resolution gives)
        (counts.state_eq.trans halfOpen) ?_
      rw [counts.window_eq]
      exact given.tail
    cases glance : s.glance with
    | error fault =>
      have unheard : heard (s :: steps) = heard steps := by
        rw [heard_cons gives, Step.isRead, glance]
        rfl
      obtain ⟨breaker, events⟩ :=
        Breaker.report_of_unread halfOpen outcome (some slip.permit) fault
      rw [← glance] at breaker events
      have counts : l.Counts outcome l.breaker.phase.successes s :=
        counts_of_report gives held breaker events
      exact counts.comesTo gives (by rw [unheard]) (by rw [unheard]) (rest counts)
    | ok now =>
      have more : heard (s :: steps) = outcome :: heard steps := by
        rw [heard_cons gives, Step.isRead, glance]
        rfl
      have fresh := (h.isStale_eq_false_iff (mem_of_held? held)).mpr current
      have report := Breaker.report_of_probe halfOpen fresh outcome now
      rw [← glance] at report
      by_cases stays : l.breaker.afterProbe outcome = .halfOpen
      · rw [if_pos stays] at report
        obtain ⟨rfl, _⟩ := (Breaker.afterProbe_eq_halfOpen_iff _).mp stays
        have counts : l.Counts .success (l.breaker.phase.successes + 1) s :=
          counts_of_report gives held (congrArg Effect.breaker report)
            (congrArg Effect.events report)
        refine counts.comesTo gives (by simp [more]) ?_ (rest counts)
        rw [more, List.length_cons]
        omega
      · rw [if_neg stays] at report
        refine h.comesTo_of_turn halfOpen given gives held stays report ?_
        rw [more]
        exact h.decision_of_turn halfOpen given gives held current stays

/-- Two ways to give the same permits back come to the same.  `first` also says what that is:
an outcome counts in the verdict if it is reported while the clock can be read. -/
structure SameVerdict (l : Ledger) (first second : List (Step ε α)) : Prop where
  standing_eq : (l.run first).standing = (l.run second).standing
  transitions_eq : l.transitions first = l.transitions second
  state_eq : (l.run first).breaker.state =
    if .failure ∈ heard first then .opened
    else if l.breaker.cap ≤ l.breaker.phase.successes + (heard first).length then .closed
    else .halfOpen
  heard_eq : (∀ s ∈ first, s.IsReadable) → heard first = reported first

theorem state_decided (halfOpen : l.breaker.state = .halfOpen) (heard : List Outcome) :
    (l.decided heard).face.state = l.breaker.decision heard := by
  rw [decided]
  cases l.breaker.decision heard with
  | halfOpen => exact halfOpen
  | closed => rfl
  | opened => rfl

theorem IsBalanced.sameVerdict {first second : List (Step ε α)} (h : l.IsBalanced True)
    (halfOpen : l.breaker.state = .halfOpen) (given : l.GivesBack l.window first)
    (reordered : (first.map Step.untimed).Perm (second.map Step.untimed)) :
    l.SameVerdict first second := by
  obtain ⟨standing, transitions⟩ := h.comesTo halfOpen given
  obtain ⟨other, others⟩ := h.comesTo halfOpen (given.of_perm reordered)
  have decision := Breaker.decision_eq_of_perm (b := l.breaker) (heard_perm reordered)
  constructor
  · rw [standing, other, decided, decided, decision, (heard_perm reordered).length_eq,
      Standing.credit_eq_of_perm _ (reported_perm reordered)]
  · rw [transitions, others, turns, turns, decision]
  · have state := congrArg (fun s => s.face.state) standing
    exact state.trans (state_decided halfOpen (heard first))
  · exact heard_of_readable

/-- The verdict of a half-open window does not depend on the order in which its permits are
given back, if outcomes are reported with permits only.  The times may be any, but it matters
which of the permits are given back while the clock can be read. -/
theorem verdict_order_free (name : String) (config : Config) (observers : List Observer)
    (created : Reading) {before first second : List (Step ε α)}
    (permitted : ∀ s ∈ before, ¬ s.action.IsBare)
    (halfOpen :
      ((fresh name config observers created).run before).breaker.state = .halfOpen)
    (given : ((fresh name config observers created).run before).GivesBack
      ((fresh name config observers created).run before).window first)
    (reordered : (first.map Step.untimed).Perm (second.map Step.untimed)) :
    ((fresh name config observers created).run before).SameVerdict first second :=
  ((isBalanced_fresh name config observers created True).run
    fun s member _ => permitted s member).sameVerdict halfOpen given reordered

/-- A call that fails, and two probes that are asked for 20 ms later. -/
def pairSteps : List (Step Unit Unit) :=
  wakingSteps ++ [⟨.acquire, .ok ⟨⟨20000000⟩, Clock.origin⟩⟩]

/-- The ledger that holds these probes, which are numbers 1 and 2. -/
def pairLedger : Ledger := (fresh "pair" ⟨1, 10, 2⟩ [] ⟨⟨0⟩, Clock.origin⟩).run pairSteps

/-- One of the probes is dropped and the other one succeeds. -/
theorem givesBack_pair (dropped succeeded : Glance) :
    pairLedger.GivesBack (ε := Unit) (α := Unit) pairLedger.window
      [⟨.discard 1, dropped⟩, ⟨.settle 2 .success, succeeded⟩] where
  once := by simp [Action.returned?, Action.resolution?]
  held s member := by
    simp only [List.mem_cons, List.not_mem_nil, or_false] at member
    rcases member with rfl | rfl
    · exact ⟨1, .failure, ⟨⟨2, true⟩, 2, true, .pending⟩, rfl, by decide, by decide⟩
    · exact ⟨2, .success, ⟨⟨2, true⟩, 2, false, .pending⟩, rfl, by decide, by decide⟩

/-- No other probe is held. -/
theorem givesAllBack_pair (dropped succeeded : Glance) :
    pairLedger.GivesAllBack (ε := Unit) (α := Unit) pairLedger.window
      [⟨.discard 1, dropped⟩, ⟨.settle 2 .success, succeeded⟩] := by
  intro number slip held _
  match number with
  | 0 =>
    have settled : pairLedger.held? 0 = none := by decide
    cases settled.symm.trans held
  | 1 => exact ⟨_, List.mem_cons_self, .failure, rfl⟩
  | 2 => exact ⟨_, List.mem_cons_of_mem _ List.mem_cons_self, .success, rfl⟩
  | number + 3 =>
    obtain ⟨inside, _⟩ := List.getElem?_eq_some_iff.mp (held?_eq_some_iff.mp held).1
    have issued : pairLedger.slips.length = 3 := by decide
    omega

/-- A failure opens the circuit, whether it comes before the success or after it. -/
theorem verdict_order_free_of_pair :
    pairLedger.SameVerdict (ε := Unit) (α := Unit)
      [⟨.discard 1, .ok ⟨⟨20000000⟩, Clock.origin⟩⟩,
        ⟨.settle 2 .success, .ok ⟨⟨30000000⟩, Clock.origin⟩⟩]
      [⟨.settle 2 .success, .ok ⟨⟨20000000⟩, Clock.origin⟩⟩,
        ⟨.discard 1, .ok ⟨⟨30000000⟩, Clock.origin⟩⟩] :=
  verdict_order_free "pair" ⟨1, 10, 2⟩ [] ⟨⟨0⟩, Clock.origin⟩
    (by simp [pairSteps, wakingSteps, Action.IsBare]) (by decide) (givesBack_pair _ _)
    (List.Perm.swap ..)

/-- Steps at times that a clock has been moved on. -/
def timed (steps : List (Action ε α × Duration)) : List (Step ε α) :=
  steps.map fun s => ⟨s.1, Clock.read { offset := s.2 }⟩

/-- A probe that is dropped when the clock can no longer be read does not open the circuit, so
it makes a difference whether it is dropped before another probe succeeds or after it. -/
theorem unread_verdict_depends_on_order :
    ¬ ∀ (name : String) (config : Config) (observers : List Observer) (created : Reading)
        (before : List (Step Unit Unit)) (first second : List (Action Unit Unit × Duration)),
      (∀ s ∈ before, ¬ s.action.IsBare) →
      ((fresh name config observers created).run before).breaker.state = .halfOpen →
      ((fresh name config observers created).run before).GivesBack
        ((fresh name config observers created).run before).window (timed first) →
      ((fresh name config observers created).run before).GivesAllBack
        ((fresh name config observers created).run before).window (timed first) →
      (first.map Prod.fst).Perm (second.map Prod.fst) →
      first.map Prod.snd = second.map Prod.snd →
      (first.map fun s => s.2.nanos).Pairwise (· ≤ ·) →
      (((fresh name config observers created).run before).run (timed first)).breaker.state =
        (((fresh name config observers created).run before).run (timed second)).breaker.state := by
  intro all
  have same := all "pair" ⟨1, 10, 2⟩ [] ⟨⟨0⟩, Clock.origin⟩ pairSteps
    [(.discard 1, .ofMillis 20), (.settle 2 .success, .ofSeconds 9300000000000000000)]
    [(.settle 2 .success, .ofMillis 20), (.discard 1, .ofSeconds 9300000000000000000)]
    (by simp [pairSteps, wakingSteps, Action.IsBare]) (by decide) (givesBack_pair _ _)
    (givesAllBack_pair _ _) (List.Perm.swap ..) rfl (by decide)
  revert same
  decide

end Ledger

end GuardedCache.Circuit
