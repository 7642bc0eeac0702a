import SqlLint.Lint.Generations
import SqlLint.Report.Mapping
import SqlLint.Workspace.Invocation

/-!
# One lint of a document

A `LintRun` is a lint on its way: it has been taken up, given a number, it waits for the tool, it
has an outcome, and it publishes the diagnostics file by file.  `Bench.step?` takes one step of a
run; between two steps anything else may happen to the workspace.  The diagnostics of the document
itself are published only if it was not closed and no newer lint of it was applied.
-/

namespace SqlLint

/-- Where a lint reads the document: in the editor or in its file. -/
inductive LintSource where
  | buffer
  | file
  deriving DecidableEq, Repr

/-- A lint to be made of a document as it stood; `mustBeOpen` says that its result is of no use once
the document is closed. -/
structure LintJob where
  document : Document
  source : LintSource
  mustBeOpen : Bool
  deriving DecidableEq, Repr

/-- A lint that has been given a number: the settings it began with and the path of its file. -/
structure LintTicket where
  job : LintJob
  config : Config
  path : String
  generation : Nat
  deriving Repr

/-- A lint on its way. -/
inductive LintRun where
  | taken (job : LintJob)
  | issued (ticket : LintTicket)
  | waiting (ticket : LintTicket) (running : Running)
  | ended (ticket : LintTicket) (result : RunResult)
  | publishing (ticket : LintTicket) (live : Option Document) (files : List FileDiagnostics)
  | applied (ticket : LintTicket) (live : Option Document) (file : FileDiagnostics)
      (files : List FileDiagnostics)

namespace LintJob

/-- The URL of the document. -/
def uri (j : LintJob) : Url := j.document.uri

/-- What the tool is asked to do. -/
def invocation (j : LintJob) (s : Settings) (path : String) : Invocation :=
  let target : Target := match j.source with
    | .buffer => .buffer j.document.text (some path)
    | .file => .file path
  ⟨.lint, s.lintArguments, some target⟩

end LintJob

namespace LintTicket

/-- The URL of the document. -/
def uri (t : LintTicket) : Url := t.job.uri

/-- The diagnostics in the output of a run, with the document as it stands now. -/
def map (t : LintTicket) (lines : List String) (live : Option Document) : List FileDiagnostics :=
  fileDiagnostics lines ⟨t.path, t.config.workingDirectory?, live⟩ t.config.settings

/-- The document was closed, so that its diagnostics are of no use. -/
def isClosed (t : LintTicket) (live : Option Document) : Bool := t.job.mustBeOpen && live.isNone

end LintTicket

/-- The lint that a run makes. -/
def LintRun.job : LintRun → LintJob
  | .taken job => job
  | .issued t => t.job
  | .waiting t _ => t.job
  | .ended t _ => t.job
  | .publishing t _ _ => t.job
  | .applied t _ _ _ => t.job

/-- How many steps a run takes at most before it has to wait, is over, or knows its files. -/
def LintRun.stepsAhead : LintRun → Nat
  | .publishing _ _ files => 2 * files.length + 1
  | .applied _ _ _ files => 2 * files.length + 2
  | _ => 4

/-- The workspace and the numbers of lints. -/
structure Bench where
  workspace : Workspace := {}
  generations : Generations := []

namespace Bench

/-- The lint is taken up: without a path there is nothing to lint. -/
def issue (b : Bench) (job : LintJob) : Option LintRun × Bench :=
  let w := b.workspace
  match job.document.path? with
  | none =>
    let w := w.note ["ERROR: File path not found."]
    (none, { b with workspace := w.complain w.settings "File path not found." })
  | some path =>
    let (n, generations) := b.generations.issue job.uri
    (some (.issued ⟨job, w.config, path, n⟩), { b with generations })

/-- The tool is asked. -/
def start (b : Bench) (t : LintTicket) : Option LintRun × Bench :=
  match b.workspace.begin (t.job.invocation t.config.settings t.path) with
  | .error _ => (none, b)
  | .ok (.over result, workspace) => (some (.ended t result), { b with workspace })
  | .ok (.running r, workspace) => (some (.waiting t r), { b with workspace })

/-- The tool has answered, unless it goes on. -/
def collect? (b : Bench) (t : LintTicket) (r : Running) : Option (Option LintRun × Bench) := do
  let (exit, machine) ← b.workspace.machine.collect? r.process
  let (result, workspace) := { b.workspace with machine }.finish r exit
  return (some (.ended t result), { b with workspace })

/-- The outcome becomes diagnostics, unless the run failed or wrote nothing. -/
def resolve (b : Bench) (t : LintTicket) (result : RunResult) : Option LintRun × Bench :=
  let w := b.workspace
  if ! result.succeeded then
    (none, { b with workspace := w.note ["Linting command failed to execute"] })
  else if result.lines = [] then (none, b)
  else
    let live := w.documents.get? t.uri
    (some (.publishing t live (t.map result.lines live)), b)

/-- The next file: the number is applied for the document itself, other files are published. -/
def publishNext (b : Bench) (t : LintTicket) (live : Option Document) (file : FileDiagnostics)
    (files : List FileDiagnostics) : LintRun × Bench :=
  if file.isTarget then
    if t.isClosed live then (.publishing t live files, b)
    else match b.generations.tryApply t.uri t.generation with
      | (true, generations) => (.applied t live file files, { b with generations })
      | (false, generations) => (.publishing t live files, { b with generations })
  else
    let publish (uri : Url) : Workspace := b.workspace.publish uri file.diagnostics none
    (.publishing t live files, { b with workspace := (file.uri?.map publish).getD b.workspace })

/-- One step of a run; none if it has to wait, and no run after it if it is over. -/
def step? (b : Bench) : LintRun → Option (Option LintRun × Bench)
  | .taken job => some (b.issue job)
  | .issued t => some (b.start t)
  | .waiting t r => b.collect? t r
  | .ended t result => some (b.resolve t result)
  | .publishing _ _ [] => some (none, b)
  | .publishing t live (file :: files) =>
    let (run, b) := b.publishNext t live file files
    some (some run, b)
  | .applied t live file files =>
    let workspace := b.workspace.publish t.uri file.diagnostics (live.map (·.version))
    some (some (.publishing t live files), { b with workspace })

end Bench

end SqlLint
