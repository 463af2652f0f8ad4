import GuardedCache.Circuit.Call
import GuardedCache.Protected.Binding
import GuardedCache.Store.Request
import GuardedCache.Time.Schedule

/-!
# Protected caches

A protected cache is a message store behind five breakers.  Every call of the
store has the deadline of its operation.  A read that is refused says that the
cache is unavailable and is no error; a write that is refused is one.
-/

namespace GuardedCache.Protected

open Circuit Store

/-- What a read finds. -/
inductive Lookup (α : Type) where
  | hit (value : α)
  /-- The store has nothing under the key. -/
  | miss
  /-- The store was not asked. -/
  | unavailable
deriving DecidableEq, Repr

namespace Lookup

variable {α : Type}

/-- What the answer of a store means. -/
def ofOption : Option α → Lookup α
  | some value => .hit value
  | none => .miss

/-- The value, for callers to whom it does not matter why there is none. -/
def toOption : Lookup α → Option α
  | .hit value => some value
  | _ => none

/-- Whether there is a value. -/
def isHit : Lookup α → Bool
  | .hit _ => true
  | _ => false

/-- Whether the store was not asked. -/
def isUnavailable : Lookup α → Bool
  | .unavailable => true
  | _ => false

theorem toOption_ofOption (value : Option α) : (ofOption value).toOption = value := by
  cases value <;> rfl

end Lookup

/-- Why a protected write was not done. -/
inductive WriteError where
  /-- The breaker with this name refused it. -/
  | unavailable (breaker : String)
  | cache (error : CacheError)
deriving DecidableEq, Repr

namespace WriteError

/-- Whether the store was not asked. -/
def isUnavailable : WriteError → Bool
  | .unavailable _ => true
  | .cache _ => false

/-- The text of an error. -/
def message : WriteError → String
  | .unavailable breaker => "service temporarily unavailable: " ++ Breaker.refusalText breaker
  | .cache error => error.message

end WriteError

/-- What the caller of a protected operation gets. -/
inductive Answer where
  | written
  /-- A write was not done. -/
  | notWritten (error : WriteError)
  /-- What was found for a message. -/
  | message (found : Lookup Message)
  /-- What was found for a history. -/
  | history (found : Lookup (List Message))
  | notRead (error : CacheError)
  /-- The call was broken off with a last word. -/
  | aborted (text : String)
  | cancelled
deriving DecidableEq, Repr

/-- The answer to a response of the store. -/
def Answer.ofResponse : Response → Answer
  | .done => .written
  | .message found => .message (.ofOption found)
  | .history found => .history (.ofOption found)

/-- The answer of an operation that its breaker refuses. -/
def Answer.refused (operation : Operation) (breaker : String) : Answer :=
  match operation with
  | .getMessage => .message .unavailable
  | .getChatMessages => .history .unavailable
  | _ => .notWritten (.unavailable breaker)

/-- The answer of an operation whose store fails. -/
def Answer.failed (operation : Operation) (error : CacheError) : Answer :=
  match operation with
  | .getMessage => .notRead error
  | .getChatMessages => .notRead error
  | _ => .notWritten (.cache error)

/-- The answer that a guarded call of the store gives. -/
def Answer.ofResult (operation : Operation) : CallResult CacheError Response → Answer
  | .done response => .ofResponse response
  | .failed error => .failed operation error
  | .refused breaker => .refused operation breaker
  | .aborted text => .aborted text
  | .cancelled => .cancelled

/-- The breaker of an operation, built from its binding on first use. -/
def breaker (table : BindingTable) (operation : Operation) (f : Fleet) :
    Except ClockFault Handle × Fleet :=
  f.lookup operation.breakerName { config := (table operation).breaker }

/-- Build the breakers of some operations. -/
def registerBreakers (table : BindingTable) :
    List Operation → Fleet → Except ClockFault Unit × Fleet
  | [], f => (.ok (), f)
  | operation :: rest, f =>
    match breaker table operation f with
    | (.ok _, f) => registerBreakers table rest f
    | (.error fault, f) => (.error fault, f)

/-- Start a call of an operation. -/
def start (table : BindingTable) (operation : Operation) (f : Fleet) : Started × Fleet :=
  match breaker table operation f with
  | (.ok handle, f) => f.startCall handle
  | (.error fault, f) => (.faulted fault, f)

/-- The end of a call of the store that has a deadline. -/
def workEnd (deadline : Duration) (ending : Schedule.Ending) (work : WorkEnd CacheError Response) :
    WorkEnd CacheError Response :=
  match ending with
  | .finished => work
  | .expired => .failed (.timeout deadline)
  | .cancelled => .cancelled

/-- Finish a call of an operation. -/
def finish (operation : Operation) (grant : Grant) (work : WorkEnd CacheError Response)
    (f : Fleet) : Answer × Fleet :=
  let (result, f) := f.finishCall grant work
  (.ofResult operation result, f)

end GuardedCache.Protected
