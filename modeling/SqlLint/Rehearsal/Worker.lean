import SqlLint.Lint.Delayer

/-!
# A rehearsed worker

`Rehearsal.Worker` is a delayer with a worker whose tasks only note when they start and when they
end.  Some of them do not end before they are let go.  `Worker.passes` lets time pass.
-/

namespace SqlLint.Rehearsal

/-- A task that notes its name, and whether it waits to be let go. -/
structure NotedTask where
  name : String
  waits : Bool
  deriving DecidableEq, Repr

/-- A delayer, the task that its worker runs, the notes, the moment, and whether tasks that wait
are let go. -/
structure Worker where
  delayer : Delayer NotedTask
  running : Option NotedTask := none
  notes : List String := []
  now : Nat := 0
  released : Bool := false

namespace Worker

/-- A task is handed in. -/
def trigger (w : Worker) (task : NotedTask) : Worker :=
  { w with delayer := w.delayer.trigger w.now task }

/-- The worker starts the task that is due, or ends the one that runs, if it can. -/
def step? (w : Worker) : Option Worker :=
  match w.running with
  | some task =>
    if task.waits && ! w.released then none
    else some { w with
      delayer := w.delayer.finish, running := none, notes := w.notes ++ ["end " ++ task.name] }
  | none => do
    let (task, delayer) ← w.delayer.take? w.now
    return { w with delayer, running := some task, notes := w.notes ++ ["start " ++ task.name] }

/-- The moment at which the task that waits is due, if that is the next thing to happen. -/
def nextDeadline? (w : Worker) : Option Nat :=
  if w.running.isSome ∨ w.delayer.isClosed ∨ w.delayer.task.isNone then none
  else w.delayer.deadline

/-- The worker goes on up to a moment.  A task may run and another one may wait, and each starts and
ends once, so that a few steps are enough. -/
def goOn (w : Worker) (until_ : Nat) : Nat → Worker
  | 0 => w
  | steps + 1 =>
    match w.step? with
    | some w => goOn w until_ steps
    | none =>
      match w.nextDeadline? with
      | some moment =>
        if moment ≤ until_ then goOn { w with now := max w.now moment } until_ steps else w
      | none => w

/-- Some milliseconds pass. -/
def passes (w : Worker) (millis : Nat) : Worker :=
  { w.goOn (w.now + millis) 8 with now := w.now + millis }

/-- Time passes until no task waits or runs, some milliseconds at most; tells whether that is so. -/
def awaitIdle (w : Worker) (millis : Nat) : Bool × Worker :=
  let after := w.goOn (w.now + millis) 8
  if after.delayer.isIdle then (true, after) else (false, { after with now := w.now + millis })

/-- Time passes until a task has started. -/
def awaitStart (w : Worker) : Worker := w.goOn (w.now + w.delayer.delay) 8

/-- The tasks that wait are let go. -/
def release (w : Worker) : Worker := { w with released := true }

/-- The delayer is given up. -/
def drop (w : Worker) : Worker := { w with delayer := w.delayer.close }

end Worker

end SqlLint.Rehearsal
