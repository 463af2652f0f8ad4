import GuardedCache.Circuit.State

/-!
# Observers

An observer hears of every transition of the breakers that it is attached to.
What it does with a transition is a list of events: a record, a line of the
log, or updates of metrics.
-/

namespace GuardedCache.Circuit

/-- A breaker's change from one state to another. -/
structure Transition where
  /-- The name of the breaker. -/
  breaker : String
  source : State
  target : State
deriving DecidableEq, Repr

/-- Someone who is told of transitions. -/
inductive Observer where
  /-- Writes a line to the log. -/
  | logging
  | metrics
  /-- Records the transition under its own name. -/
  | recorder (id : String)
deriving DecidableEq, Repr, Inhabited

/-- How urgent a line of the log is. -/
inductive LogLevel where
  | warn
  | info
deriving DecidableEq, Repr

/-- The name of a level. -/
def LogLevel.name : LogLevel → String
  | .warn => "WARN"
  | .info => "INFO"

/-- Something that an observer did. -/
inductive Event where
  /-- A recorder heard of a transition. -/
  | recorded (observer : String) (transition : Transition)
  /-- A line was written to the log. -/
  | logged (level : LogLevel) (text : String) (fields : List (String × String))
  /-- A counter was raised by one. -/
  | counted (metric : String) (labels : List (String × String))
  | gauged (metric : String) (labels : List (String × String)) (value : Nat)
deriving DecidableEq, Repr

/-- The counter of transitions. -/
def transitionsMetric : String := "circuit_breaker_transitions_total"

/-- The gauge of states. -/
def stateMetric : String := "circuit_breaker_state"

namespace Transition

/-- The breaker and the two states as named fields. -/
def fields (t : Transition) : List (String × String) :=
  [("breaker", t.breaker), ("from", t.source.name), ("to", t.target.name)]

/-- The line of the log: a warning if the circuit opened. -/
def logLine (t : Transition) : Event :=
  match t.target with
  | .opened => .logged .warn "Circuit breaker opened" t.fields
  | _ => .logged .info "Circuit breaker state changed" t.fields

end Transition

/-- What an observer does when it is told of a transition. -/
def Observer.notify : Observer → Transition → List Event
  | .logging, t => [t.logLine]
  | .metrics, t =>
    [.counted transitionsMetric t.fields,
      .gauged stateMetric [("breaker", t.breaker)] t.target.gauge]
  | .recorder id, t => [.recorded id t]

/-- A metric that can be described. -/
structure MetricDescription where
  /-- Whether it is a gauge; otherwise it is a counter. -/
  isGauge : Bool
  metric : String
  text : String
deriving DecidableEq, Repr

/-- The metrics that observers publish, with their descriptions. -/
def metricDescriptions : List MetricDescription :=
  [⟨false, transitionsMetric, "Total number of circuit breaker state transitions"⟩,
    ⟨true, stateMetric, "Circuit breaker state (0 = closed, 1 = open, 2 = half-open)"⟩]

end GuardedCache.Circuit
