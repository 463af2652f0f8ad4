import GuardedCache.Time.Duration

/-!
# Tasks on a timer

Tasks that are started together run one after another, each until it waits or
is over.  Then the timer moves from one moment at which something is due to the
next; what is due at the same moment happens in the order of the tasks.
-/

namespace GuardedCache.Schedule

/-- How a wait ends. -/
inductive Ending where
  /-- What was waited for happened. -/
  | finished
  | expired
  /-- The waiting task was cancelled first. -/
  | cancelled
deriving DecidableEq, Repr

/-- When and how a wait ends. -/
structure Due where
  /-- The time from the start of the wait to its end. -/
  after : Duration
  ending : Ending
deriving DecidableEq, Repr

/-- The sooner of a due end and a limit; at the same moment the due end. -/
def Due.limit (due : Due) (limit : Option Duration) (ending : Ending) : Due :=
  match limit with
  | some span => if span < due.after then ⟨span, ending⟩ else due
  | none => due

/-- The end of a wait of some length under a deadline, in a task that is
cancelled after a time.  Of ends at the same moment, finishing comes first and
being cancelled last. -/
def due (delay : Duration) (deadline cancelAfter : Option Duration) : Due :=
  ((Due.mk delay .finished).limit deadline .expired).limit cancelAfter .cancelled

/-- How far a task has come: it is over, or it waits for the rest of its
work. -/
inductive Stage (κ α : Type) where
  | ended (answer : α)
  /-- The task waits for a time before the rest of its work. -/
  | waiting (after : Duration) (rest : κ)

variable {σ τ κ α : Type}

/-- A task that waits, with its number. -/
structure Waiting (κ : Type) where
  /-- The number of the task. -/
  index : Nat
  /-- The time from the common start to the rest of its work. -/
  after : Duration
  /-- The rest of its work. -/
  rest : κ

/-- Start tasks in order.  The answers of those that are over and the tasks
that wait are collected with their numbers. -/
def startAll (start : τ → σ → Stage κ α × σ) :
    Nat → List τ → σ → List (Nat × α) × List (Waiting κ) × σ
  | _, [], state => ([], [], state)
  | index, task :: tasks, state =>
    match start task state with
    | (.ended answer, state) =>
      let (ended, waiting, state) := startAll start (index + 1) tasks state
      ((index, answer) :: ended, waiting, state)
    | (.waiting after rest, state) =>
      let (ended, waiting, state) := startAll start (index + 1) tasks state
      (ended, ⟨index, after, rest⟩ :: waiting, state)

/-- Do the rest of the work of waiting tasks in the given order. -/
def finishAll (finish : κ → σ → α × σ) :
    List (Waiting κ) → σ → List (Nat × α) × σ
  | [], state => ([], state)
  | task :: tasks, state =>
    let (answer, state) := finish task.rest state
    let (answers, state) := finishAll finish tasks state
    ((task.index, answer) :: answers, state)

/-- Run tasks that start together; the answers are in the order of the
tasks. -/
def run (start : τ → σ → Stage κ α × σ) (finish : κ → σ → α × σ)
    (tasks : List τ) (state : σ) : List α × σ :=
  let (ended, waiting, state) := startAll start 0 tasks state
  let inOrder := waiting.mergeSort fun a b => decide (a.after ≤ b.after)
  let (finished, state) := finishAll finish inOrder state
  let answers := (ended ++ finished).mergeSort fun a b => decide (a.1 ≤ b.1)
  (answers.map Prod.snd, state)

end GuardedCache.Schedule
