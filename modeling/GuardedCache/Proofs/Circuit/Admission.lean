import GuardedCache.Circuit.Call
import GuardedCache.Proofs.Circuit.Effects

/-!
# Two ways into a circuit

A caller asks a breaker softly, by `allow`, or strictly, by `acquire`.  Both ways decide
alike from the same state: they admit and refuse the same calls, make the same transition
and tell the same observers.  They differ in one counter, since a permit of a half-open
circuit reserves a probe.

Each way looks at the phase twice.  The first look is shared with other callers and cannot
change anything; the second one excludes them, and is taken only if there may be something
to change.  Others may act in between.  `allowInTwoLooks` and `acquireInTwoLooks` say what
comes of that: one of the two looks decides, as if it had been the only one.  What it means for
a whole run is told with halls (`Hall.run_eq_run_deeds`).
-/

namespace GuardedCache.Circuit

namespace Breaker

/-! ## Two looks -/

/-- Asking softly, with a breaker at the first look and at the second one. -/
def allowInTwoLooks (seen b : Breaker) (now : Reading) : Effect (Except ClockFault Bool) :=
  match seen.verdict now.instant with
  | .pass => ⟨.ok true, b.countAdmission true, []⟩
  | .refuse => ⟨.ok false, b.countAdmission false, []⟩
  | .probe => b.allow (.ok now)

/-- Asking strictly, with a breaker at the first look and at the second one.  A permit for a
closed circuit is issued at the first look already. -/
def acquireInTwoLooks (seen b : Breaker) (now : Reading) :
    Effect (Except ClockFault (Option Permit)) :=
  match seen.verdict now.instant, seen.phase.state with
  | .pass, .closed => ⟨.ok (some ⟨seen.phase.epoch, false⟩), b.countAdmission true, []⟩
  | .refuse, _ => ⟨.ok none, b.countAdmission false, []⟩
  | _, _ => b.acquire (.ok now)

/-- One more call was refused, and nothing else has changed. -/
structure Refuses {α : Type} (b : Breaker) (effect : Effect α) : Prop where
  breaker_eq : effect.breaker = { b with
    totals := { b.totals with rejected := b.totals.rejected + 1 } }
  events_eq : effect.events = []

/-- What a strict admission leaves behind is what the soft one leaves, and a probe more that
is taken if the circuit is half-open. -/
structure Admits (soft : Effect (Except ClockFault Bool))
    (strict : Effect (Except ClockFault (Option Permit))) (permit : Permit) : Prop where
  breaker_eq : strict.breaker =
    if soft.breaker.state = .halfOpen then soft.breaker.takeProbe else soft.breaker
  epoch_eq : permit.epoch = strict.breaker.phase.epoch
  probe_iff : permit.probe = true ↔ strict.breaker.state = .halfOpen

/-- A soft and a strict way in agree on what the strict one admits. -/
structure Agree (b : Breaker) (soft : Effect (Except ClockFault Bool))
    (strict : Effect (Except ClockFault (Option Permit))) (admitted : Option Permit) :
    Prop where
  strict_answer : strict.answer = .ok admitted
  soft_answer : soft.answer = .ok admitted.isSome
  events_eq : strict.events = soft.events
  admits : ∀ permit, admitted = some permit → Admits soft strict permit
  refuses : admitted = none → b.Refuses soft ∧ b.Refuses strict

end Breaker

end GuardedCache.Circuit
