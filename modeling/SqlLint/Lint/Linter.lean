import SqlLint.Lint.Delayer
import SqlLint.Lint.Run
import SqlLint.Lint.SqlFiles

/-!
# The linter

`Linter` decides when documents are linted.  Every document that was ever to be linted has a `Lane`:
a delayer and its worker, which makes one lint after the other.  A lane is given up when its
document is closed or the linter is reset; its worker then ends the lint it makes and takes no
other.  A `ProjectLint` goes through the files of a project and starts a lint of each, never more
than `maxInFlight` at a time.

What the editor does is an event (`Linter.opened`, `Linter.changed`, …).  What workers do is told
in single steps (`Linter.take?`, `Linter.work?`, …), so that a history is any sequence of events and
steps.
-/

namespace SqlLint

/-- A delayer and its worker: the URL of the documents it lints, and the lint that it makes. -/
structure Lane where
  uri : Url
  delayer : Delayer LintJob
  run : Option LintRun := none

/-- The lane is given up. -/
def Lane.isClosed (lane : Lane) : Bool := lane.delayer.isClosed

/-- The lane is the one of a URL. -/
def Lane.serves (uri : Url) (lane : Lane) : Bool := ! lane.isClosed && lane.uri == uri

/-- The lane with its delayer given up. -/
def Lane.close (lane : Lane) : Lane := { lane with delayer := lane.delayer.close }

/-- The lints of the files of a project: the files that are still to come, whether the number of
lints was seen to be below the ceiling since the last one started, the lints that are made, and how
many were started. -/
structure ProjectLint where
  files : List String
  mayStart : Bool := false
  runs : List LintRun := []
  started : Nat := 0

/-- The workspace with the numbers of lints, the lanes, the lints of projects, and the number of
lints that those make. -/
structure Linter where
  bench : Bench := {}
  lanes : List Lane := []
  projects : List ProjectLint := []
  inFlight : Nat := 0

/-- How many files of projects may be linted at a time. -/
def maxInFlight : Nat := 5

namespace Linter

/-- The workspace. -/
def workspace (l : Linter) : Workspace := l.bench.workspace

/-- The settings. -/
def settings (l : Linter) : Settings := l.workspace.settings

/-- The open documents. -/
def documents (l : Linter) : Documents := l.workspace.documents

/-- The linter with another workspace. -/
def withWorkspace (l : Linter) (workspace : Workspace) : Linter :=
  { l with bench := { l.bench with workspace } }

/-- The linter with its workspace changed. -/
def modify (l : Linter) (f : Workspace → Workspace) : Linter := l.withWorkspace (f l.workspace)

/-- The moment. -/
def now (l : Linter) : Nat := l.workspace.machine.clock

/-- How many documents have a lane. -/
def pending (l : Linter) : Nat := (l.lanes.filter (! ·.isClosed)).length

/-- No task of a lane that was not given up waits or runs. -/
def isIdle (l : Linter) : Bool := l.lanes.all fun lane => lane.isClosed || lane.delayer.isIdle

/-! ## Handing in lints -/

/-- The time without changes after which a document is linted. -/
def delay (s : Settings) : Nat :=
  match s.linter.run with
  | .onType => s.linter.delay.toNat
  | _ => 0

/-- A lint is handed in to the lane of its document, a new one if there is none. -/
def enqueue (l : Linter) (job : LintJob) : Linter :=
  if l.lanes.any (Lane.serves job.uri) then
    { l with lanes := l.lanes.map fun lane =>
        if lane.serves job.uri then { lane with delayer := lane.delayer.trigger l.now job }
        else lane }
  else
    let fresh : Delayer LintJob := { delay := delay l.settings }
    { l with lanes := l.lanes ++ [⟨job.uri, fresh.trigger l.now job, none⟩] }

/-- A lint of a document is asked for.  It is handed in if the document is open, its language is
linted, and linting is on; the last does not matter if it is forced. -/
def trigger (l : Linter) (uri : Url) (source : LintSource) (force : Bool) : Linter :=
  match l.documents.get? uri with
  | none => l
  | some d =>
    if ! l.settings.lints d.language then l
    else if l.settings.linter.run = .off ∧ ! force then l
    else l.enqueue ⟨d, source, true⟩

/-- Where a document is to be read. -/
def sourceOf (d : Document) : LintSource := if d.dirty then .buffer else .file

/-! ## Events -/

/-- A document was opened. -/
def opened (l : Linter) (uri : Url) : Linter := l.trigger uri .file false

/-- A document was changed: it is linted if that is done on typing. -/
def changed (l : Linter) (uri : Url) : Linter :=
  if l.settings.linter.run = .onType then l.trigger uri .buffer false else l

/-- A document was saved. -/
def saved (l : Linter) (uri : Url) : Linter := l.trigger uri .file false

/-- The lane of a document is given up. -/
def drop (l : Linter) (uri : Url) : Linter :=
  { l with lanes := l.lanes.map fun lane => if lane.serves uri then lane.close else lane }

/-- The lints of a document that have a number count as applied. -/
def retire (l : Linter) (uri : Url) : Linter :=
  { l with bench := { l.bench with generations := l.bench.generations.retire uri } }

/-- The diagnostics of a document are cleared, unless the whole project is linted. -/
def clear (l : Linter) (uri : Url) : Linter :=
  if l.settings.linter.lintEntireProject then l else l.modify fun w => w.publish uri [] none

/-- A document was closed. -/
def closed (l : Linter) (uri : Url) : Linter := ((l.drop uri).retire uri).clear uri

/-- A document is to be linted even if linting is off, as it stands in the editor if it has unsaved
changes. -/
def forced (l : Linter) (uri : Url) : Linter :=
  let source := match l.documents.get? uri with
    | some d => sourceOf d
    | none => .file
  l.trigger uri source true

/-- All open documents are to be linted. -/
def lintOpen (l : Linter) (force : Bool) : Linter :=
  l.documents.foldl (fun l d => l.trigger d.uri (sourceOf d) force) l

/-- All lanes are given up, so that new ones have the delay of the settings. -/
def reset (l : Linter) : Linter := { l with lanes := l.lanes.map Lane.close }

/-- The files below a directory are to be linted, unless linting is off and it is not forced. -/
def startProject (l : Linter) (root : String) (force : Bool) : Option Linter :=
  if l.settings.linter.run = .off ∧ ! force then none
  else
    let m := l.workspace.machine
    some { l with projects := l.projects ++ [⟨m.files.sqlFiles m.directory root, false, [], 0⟩] }

/-! ## Steps of lanes -/

/-- The worker of a lane takes the task that waits, if its time has come. -/
def take? (l : Linter) (i : Nat) : Option Linter := do
  let lane ← l.lanes[i]?
  let (job, delayer) ← lane.delayer.take? l.now
  return { l with lanes := l.lanes.set i { lane with delayer, run := some (.taken job) } }

/-- The worker of a lane takes one step of its lint, unless it has to wait for the tool. -/
def work? (l : Linter) (i : Nat) : Option Linter := do
  let lane ← l.lanes[i]?
  let (run, bench) ← l.bench.step? (← lane.run)
  let delayer := if run.isNone then lane.delayer.finish else lane.delayer
  return { l with bench, lanes := l.lanes.set i { lane with delayer, run } }

/-! ## Steps of projects -/

/-- The lint of a project sees that fewer lints than allowed are made. -/
def look? (l : Linter) (i : Nat) : Option Linter := do
  let p ← l.projects[i]?
  if p.files = [] ∨ p.mayStart ∨ maxInFlight ≤ l.inFlight then none
  else some { l with projects := l.projects.set i { p with mayStart := true } }

/-- The document to be linted for a file of a project: as it is open, or else as it is read. -/
def fileDocument? (l : Linter) (path : String) : Option Document := do
  let uri ← Url.ofFilePath? path
  match l.documents.get? uri with
  | some d => return d
  | none =>
    let m := l.workspace.machine
    let text ← (m.files.readText m.directory path).toOption
    return { uri, language := "sql", version := 0, text }

/-- The lint of a project starts that of its next file, or passes it over if it cannot be read. -/
def start? (l : Linter) (i : Nat) : Option Linter := do
  let p ← l.projects[i]?
  if ! p.mayStart then none
  match p.files with
  | [] => none
  | path :: files =>
    let p := { p with files, mayStart := false }
    match l.fileDocument? path with
    | none => return { l with projects := l.projects.set i p }
    | some d =>
      let p := { p with runs := p.runs ++ [.taken ⟨d, .file, false⟩], started := p.started + 1 }
      return { l with projects := l.projects.set i p, inFlight := l.inFlight + 1 }

/-- One of the lints of a project is over, in whatever way it ended, and makes room for another. -/
def leave? (l : Linter) (i j : Nat) : Option Linter := do
  let p ← l.projects[i]?
  let _ ← p.runs[j]?
  let p := { p with runs := p.runs.eraseIdx j }
  return { l with projects := l.projects.set i p, inFlight := l.inFlight - 1 }

/-- One of the lints of a project takes a step, unless it has to wait for the tool. -/
def workAt? (l : Linter) (i j : Nat) : Option Linter := do
  let p ← l.projects[i]?
  match ← l.bench.step? (← p.runs[j]?) with
  | (some run, bench) =>
    return { l with bench, projects := l.projects.set i { p with runs := p.runs.set j run } }
  | (none, bench) => leave? { l with bench } i j

end Linter

end SqlLint
