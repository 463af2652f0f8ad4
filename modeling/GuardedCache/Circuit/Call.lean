import GuardedCache.Circuit.Fleet

/-!
# Guarded calls

A guarded call asks a breaker for a permit, does its work if it gets one, and
reports how the work ended.  Starting and finishing are separate steps, so
calls may overlap.  Work that fails, is broken off or is cancelled counts as a
failure.
-/

namespace GuardedCache.Circuit

/-- A permit with the breaker that issued it. -/
structure Grant where
  handle : Handle
  permit : Permit
deriving DecidableEq, Repr

/-- What a guarded call learns when it starts. -/
inductive Started where
  /-- It may do its work. -/
  | granted (grant : Grant)
  | refused (breaker : String)
  /-- The clock could not be read. -/
  | faulted (fault : ClockFault)
deriving DecidableEq, Repr

/-- How the work of a call ended. -/
inductive WorkEnd (ε α : Type) where
  | done (value : α)
  | failed (error : ε)
  /-- In the middle, with a last word. -/
  | aborted (text : String)
  /-- In the middle, since nobody waits for it any more. -/
  | cancelled
deriving DecidableEq, Repr

/-- What the caller of a guarded call gets. -/
inductive CallResult (ε α : Type) where
  /-- The value of the work. -/
  | done (value : α)
  /-- The error of the work. -/
  | failed (error : ε)
  /-- The work was not done, since the breaker with this name refused it. -/
  | refused (breaker : String)
  /-- The call was broken off with a last word. -/
  | aborted (text : String)
  | cancelled
deriving DecidableEq, Repr

namespace WorkEnd

variable {ε α : Type}

def outcome : WorkEnd ε α → Outcome
  | .done _ => .success
  | _ => .failure

/-- What the caller gets from work that was reported. -/
def result : WorkEnd ε α → CallResult ε α
  | .done value => .done value
  | .failed error => .failed error
  | .aborted text => .aborted text
  | .cancelled => .cancelled

def ofExcept : Except ε α → WorkEnd ε α
  | .ok value => .done value
  | .error error => .failed error

end WorkEnd

namespace Fleet

def startCall (f : Fleet) (handle : Handle) : Started × Fleet :=
  match f.acquire handle with
  | (.ok (some permit), after) => (.granted ⟨handle, permit⟩, after)
  | (.ok none, after) => (.refused (f.breaker handle).name, after)
  | (.error fault, after) => (.faulted fault, after)

/-- Finish a call whose work has ended. -/
def finishCall {ε α : Type} (f : Fleet) (grant : Grant) (work : WorkEnd ε α) :
    CallResult ε α × Fleet :=
  match f.settle grant.handle grant.permit work.outcome with
  | (.ok _, f) => (work.result, f)
  | (.error fault, f) => (.aborted fault.message, f)

end Fleet

end GuardedCache.Circuit
