/-!
# Delayers

A `Delayer` runs tasks one at a time, each only after some time without another one.  A task that
is handed in takes the place of the one that waits and starts the delay anew; a worker takes the
task when its time has come and the task before it has ended.  A closed delayer starts nothing.
-/

namespace SqlLint

/-- The task that waits, the moment from which it may start, and whether a task is running. -/
structure Delayer (α : Type) where
  delay : Nat
  task : Option α := none
  deadline : Option Nat := none
  isRunning : Bool := false
  isClosed : Bool := false
  deriving Repr, DecidableEq

namespace Delayer

variable {α : Type}

/-- A task is handed in at a moment. -/
def trigger (d : Delayer α) (now : Nat) (task : α) : Delayer α :=
  { d with task := some task, deadline := some (now + d.delay) }

/-- The moment has come for the task that waits. -/
def isDue (d : Delayer α) (now : Nat) : Bool := d.deadline.any (· ≤ now)

/-- The task that the worker takes at a moment, and the delayer while it runs. -/
def take? (d : Delayer α) (now : Nat) : Option (α × Delayer α) :=
  if d.isClosed ∨ d.isRunning ∨ ¬ d.isDue now then none
  else d.task.map fun task => (task, { d with task := none, deadline := none, isRunning := true })

/-- The task that runs has ended. -/
def finish (d : Delayer α) : Delayer α := { d with isRunning := false }

/-- The delayer is given up: what waits is dropped, what runs goes on. -/
def close (d : Delayer α) : Delayer α := { d with isClosed := true, task := none }

/-- No task waits and none runs. -/
def isIdle (d : Delayer α) : Bool := d.task.isNone && ! d.isRunning

/-- What the worker takes is the task that waits, which is due, of a delayer that is open and idle. -/
theorem take?_eq_some {d e : Delayer α} {now : Nat} {task : α} (h : d.take? now = some (task, e)) :
    d.isClosed = false ∧ d.isRunning = false ∧ d.isDue now = true ∧ d.task = some task ∧
      e = { d with task := none, deadline := none, isRunning := true } := by
  unfold take? at h
  split at h
  · cases h
  · next ready =>
    obtain ⟨waiting, htask, h⟩ := Option.map_eq_some_iff.1 h
    obtain ⟨rfl, rfl⟩ := Prod.mk.inj h
    simp only [not_or, Bool.not_eq_true] at ready
    exact ⟨ready.1, ready.2.1, by simpa using ready.2.2, htask, rfl⟩

theorem isRunning_of_take? {d e : Delayer α} {now : Nat} {task : α}
    (h : d.take? now = some (task, e)) : d.isRunning = false ∧ e.isRunning = true := by
  obtain ⟨-, idle, -, -, rfl⟩ := take?_eq_some h
  exact ⟨idle, rfl⟩

theorem task_of_take? {d e : Delayer α} {now : Nat} {task : α}
    (h : d.take? now = some (task, e)) : d.task = some task ∧ e.task = none := by
  obtain ⟨-, -, -, htask, rfl⟩ := take?_eq_some h
  exact ⟨htask, rfl⟩

end Delayer

end SqlLint
