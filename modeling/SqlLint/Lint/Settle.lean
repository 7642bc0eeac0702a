import SqlLint.Lint.Linter

/-!
# Letting the linter work

`Linter.settle` lets the workers go on, lane by lane and then all projects, and lets time pass
until the tasks that wait are due; it ends when nothing goes on any more but what waits for a tool
that is held.  All it does is made of the steps of lanes and projects.
-/

namespace SqlLint

namespace Linter

/-- A step is taken again and again, a number of times at most. -/
def repeated (step? : Linter → Option Linter) : Nat → Linter → Linter
  | 0, l => l
  | n + 1, l =>
    match step? l with
    | some l => repeated step? n l
    | none => l

/-- Steps enough for a lint to come to the point where it waits or knows its files, or, from there,
to its end. -/
def stepsAhead (run : Option LintRun) : Nat := (run.map LintRun.stepsAhead).getD 0

/-- The lint of a lane goes on until it is over or waits. -/
def workOn (l : Linter) (i : Nat) : Linter :=
  let phase (l : Linter) : Linter :=
    repeated (work? · i) (stepsAhead (l.lanes[i]?.bind (·.run))) l
  phase (phase l)

/-- The worker of a lane goes on: it ends its lint and makes the next one that is due. -/
def drain (l : Linter) (i : Nat) : Linter :=
  let l := l.workOn i
  match l.take? i with
  | some l => l.workOn i
  | none => l

/-- One of the lints of a project goes on until it is over or waits. -/
def workOnAt (l : Linter) (i j : Nat) : Linter :=
  let count (l : Linter) : Nat := ((l.projects[i]?.map (·.runs)).getD []).length
  let total := count l
  let phase (l : Linter) : Linter :=
    let run := l.projects[i]?.bind fun p => p.runs[j]?
    repeated (fun l => if count l < total then none else workAt? l i j) (stepsAhead run) l
  phase (phase l)

/-- All lints of a project go on, the last one first. -/
def workOnAll (l : Linter) (i : Nat) : Linter :=
  let count := ((l.projects[i]?.map (·.runs)).getD []).length
  (List.range count).reverse.foldl (fun l j => l.workOnAt i j) l

/-- The lint of a project sees that fewer lints than allowed are made, if it is so. -/
def glance (l : Linter) (i : Nat) : Linter := (l.look? i).getD l

/-- The lint of a project starts that of its next file, if it is free to. -/
def launch (l : Linter) (i : Nat) : Linter := ((l.glance i).start? i).getD l

/-- All projects go on: the lints they make, and then each of them to its next file.  Those that had
to wait for room look for it all at once, before the first of them makes use of it. -/
def beat (l : Linter) : Linter :=
  let projects := List.range l.projects.length
  let waited := decide (maxInFlight ≤ l.inFlight)
  let l := projects.foldl workOnAll l
  let l := if waited then projects.foldl glance l else l
  projects.foldl launch l

/-- All projects go on as long as they can. -/
def drainProjects (l : Linter) : Linter :=
  let files := (l.projects.flatMap (·.files)).length
  let l := (List.range files).foldl (fun l _ => l.beat) l
  (List.range l.projects.length).foldl workOnAll l

/-- Every lane and every project goes on. -/
def round (l : Linter) : Linter := ((List.range l.lanes.length).foldl drain l).drainProjects

/-- The moment at which the next of the tasks that wait is due. -/
def nextDeadline? (l : Linter) : Option Nat :=
  (l.lanes.filterMap fun lane =>
    if lane.isClosed ∨ lane.delayer.task.isNone then none
    else lane.delayer.deadline.filter (l.now < ·)).min?

/-- Time passes until a moment. -/
def waitUntil (l : Linter) (moment : Nat) : Linter :=
  l.modify fun w => { w with machine := { w.machine with clock := max w.machine.clock moment } }

/-- Rounds are made, and between them time passes until the next task is due. -/
def settleFor : Nat → Linter → Linter
  | 0, l => l
  | n + 1, l =>
    let l := l.round
    match l.nextDeadline? with
    | some moment => settleFor n (l.waitUntil moment)
    | none => settleFor n l

/-- The lanes that are given up and the projects that are done are forgotten. -/
def sweep (l : Linter) : Linter :=
  { l with
    lanes := l.lanes.filter fun lane => ! lane.isClosed || lane.run.isSome
    projects := l.projects.filter fun p => p.files ≠ [] ∨ ¬ p.runs.isEmpty }

/-- The linter works until nothing is left to do but what waits for the tool. -/
def settle (l : Linter) : Linter := (l.settleFor (2 * l.lanes.length + 2)).sweep

/-- The files below a directory are linted to the end; gives how many were. -/
def lintProject (l : Linter) (root : String) (force : Bool) : Option Nat × Linter :=
  match l.startProject root force with
  | none => (none, l)
  | some l =>
    let i := l.projects.length - 1
    let l := l.drainProjects
    (l.projects[i]?.map (·.started), l)

end Linter

end SqlLint
