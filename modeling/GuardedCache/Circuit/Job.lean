import GuardedCache.Circuit.Call
import GuardedCache.Time.Schedule

/-!
# Jobs

A job is work behind a breaker that takes some time and may be cancelled.
Jobs that are started together overlap.
-/

namespace GuardedCache.Circuit

/-- Work behind a breaker. -/
structure Job (ε α : Type) where
  handle : Handle
  /-- How the work ends if nothing comes first. -/
  work : WorkEnd ε α
  delay : Duration := .zero
  /-- When the job is cancelled, from its start. -/
  cancelAfter : Option Duration := none
deriving DecidableEq, Repr

namespace Job

variable {ε α : Type}

/-- A job whose work has been started. -/
structure Open (ε α : Type) where
  /-- The permit of the job. -/
  grant : Grant
  /-- How its work will end. -/
  work : WorkEnd ε α
deriving DecidableEq, Repr

def workEnd (job : Job ε α) : Schedule.Ending → WorkEnd ε α
  | .cancelled => .cancelled
  | _ => job.work

def finish (job : Open ε α) (f : Fleet) : CallResult ε α × Fleet :=
  f.finishCall job.grant job.work

/-- Start a job.  Work that takes no time is finished at once. -/
def start (job : Job ε α) (f : Fleet) :
    Schedule.Stage (Open ε α) (CallResult ε α) × Fleet :=
  match f.startCall job.handle with
  | (.refused breaker, f) => (.ended (.refused breaker), f)
  | (.faulted fault, f) => (.ended (.aborted fault.message), f)
  | (.granted grant, f) =>
    let due := Schedule.due job.delay none job.cancelAfter
    let started : Open ε α := ⟨grant, job.workEnd due.ending⟩
    if due.after = .zero then
      let (result, f) := finish started f
      (.ended result, f)
    else (.waiting due.after started, f)

end Job

/-- Run jobs that are started together. -/
def Fleet.run {ε α : Type} (f : Fleet) (jobs : List (Job ε α)) :
    List (CallResult ε α) × Fleet :=
  Schedule.run Job.start Job.finish jobs f

end GuardedCache.Circuit
