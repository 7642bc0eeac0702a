import SqlLint.DotEnv.Overlay
import SqlLint.Remote.Basic
import SqlLint.Settings.Arguments
import SqlLint.Shell.Quote
import SqlLint.Text.LineStream
import SqlLint.Workspace.Basic

/-!
# Running the tool

An `Invocation` asks the tool to lint or to fix a file or a text.  `Workspace.begin` starts it, at
the dbt server or as a local command, and `Workspace.finish` takes in how a local command ended;
`Workspace.invoke` does both.  A run that did not go well has no lines and is a `RunResult` like any
other: only an invocation without a target is an error.
-/

namespace SqlLint

open Text

/-- What the tool is asked to do. -/
inductive CommandKind where
  | lint
  | fix
  deriving DecidableEq, Repr

/-- The word for a command of the tool. -/
def CommandKind.word : CommandKind → String
  | .lint => "lint"
  | .fix => "fix"

/-- What the tool works on: a file, or a text with the path of the file it belongs to, if known. -/
inductive Target where
  | file (path : String)
  | buffer (contents : String) (path : Option String)
  deriving DecidableEq, Repr

namespace Target

/-- The path of the file. -/
def path? : Target → Option String
  | .file path => some path
  | .buffer _ path => path

/-- The text, if it is not in the file. -/
def contents? : Target → Option String
  | .file _ => none
  | .buffer contents _ => some contents

/-- The target is a text. -/
def isBuffer (t : Target) : Bool := t.contents?.isSome

end Target

/-- A request to run the tool. -/
structure Invocation where
  kind : CommandKind
  arguments : List String
  target : Option Target
  deriving DecidableEq, Repr

/-- Why an invocation makes no sense. -/
inductive InvocationError where
  | noTarget
  | emptyBuffer
  deriving DecidableEq, Repr

/-- The words for an invocation that makes no sense. -/
def InvocationError.message : InvocationError → String
  | .noTarget =>
    "invalid invocation: either a target file path or buffer contents must be supplied"
  | .emptyBuffer => "invalid invocation: buffer contents are empty and no file path was given"

/-- What the tool works on: an empty text stands for its file. -/
def Invocation.validate (i : Invocation) : Except InvocationError Target :=
  match i.target with
  | none => .error .noTarget
  | some (.file path) => .ok (.file path)
  | some (.buffer contents path) =>
    if contents.isEmpty then
      match path with
      | some path => .ok (.file path)
      | none => .error .emptyBuffer
    else .ok (.buffer contents path)

/-- How a run went: whether it succeeded, and the lines it wrote, or for a fix the whole text. -/
structure RunResult where
  succeeded : Bool := false
  lines : List String := []
  deriving DecidableEq, Repr, Inhabited

/-! ## Commands -/

/-- The exit codes with which the tool says that it did its work. -/
def isSuccess (code : Int) : Bool := code == 0 || code == 1 || code == 65

/-- The path that the tool is given: seen from the directory where it runs, if that can be told. -/
def targetPath (path : String) (dir : Option String) : String :=
  let path := Path.forwardSlashes path
  Path.forwardSlashes ((dir.bind (Path.relativeTo? path)).getD path)

/-- The arguments of the command for an invocation. -/
def Workspace.arguments (w : Workspace) (c : Config) (i : Invocation) (t : Target)
    (relative : Option String) : List String :=
  let named : List String := match relative with
    | some path =>
      if w.version.any ToolVersion.takesFileName then ["--stdin-filename", path] else []
    | none => []
  i.kind.word :: i.arguments ++ c.extraArguments ++
    (if t.isBuffer then named ++ ["-"] else relative.toList)

/-- The command that runs the tool with arguments. -/
def Workspace.command (w : Workspace) (c : Config) (arguments : List String)
    (input : Option String) : Command :=
  let dir := c.workingDirectory?
  let (program, arguments) := c.settings.shell.command c.executable arguments
  ⟨program, arguments, dir, c.overlay w.machine dir, input⟩

/-- The lines that a local command wrote on its standard output. -/
def outputLines (kind : CommandKind) (output : List (List UInt8)) : List String :=
  match kind with
  | .lint => (LineStream.linesOf output).map String.ofList
  | .fix => [String.ofList (Utf8.Decoder.start.drain output)]

/-- The text says that the tool ignores the file. -/
def saysIgnored (text : String) : Bool :=
  holds "ignored by a .sqlfluffignore pattern" text || holds "ignored by an ignore pattern" text

/-- What the user is told when the tool cannot be found. -/
def toolMissingMessage : String :=
  "The sqlfluff executable was not found. Use the 'Executable Path' setting to configure the " ++
    "location of the executable, or add it to your PATH."

/-! ## Local runs -/

/-- A local command that runs for an invocation. -/
structure Running where
  kind : CommandKind
  config : Config
  relative : Option String
  process : Nat
  entry : Nat
  deriving Repr

/-- How an invocation begins: it is over at once, or a command runs. -/
inductive Started where
  | over (result : RunResult)
  | running (r : Running)

namespace Workspace

/-- The lines that announce a command. -/
def announcement (c : Config) (t : Target) (arguments : List String) : List String :=
  [ logRule,
    if t.isBuffer then "Reading from stdin, not file, input may be dirty/partial"
    else "Reading from file, not stdin",
    logSection "Executing Command",
    joinStrings " " (c.executable :: arguments),
    logRule ]

/-- The file of a path is ignored from now on. -/
def ignore (w : Workspace) (path : String) : Workspace :=
  { w with ignored := if w.ignored.contains path then w.ignored else w.ignored ++ [path] }

/-- The file of a path is no longer ignored. -/
def unignore (w : Workspace) (path : String) : Workspace :=
  { w with ignored := w.ignored.filter (· ≠ path) }

/-- The file of a target is ignored by the tool, so that linting its text is of no use. -/
def isIgnored (w : Workspace) (t : Target) (relative : Option String) : Bool :=
  t.isBuffer && relative.any w.ignored.contains

/-- The workspace with a process among the running ones; the oldest are killed to make room. -/
def track (w : Workspace) (process : Nat) : Workspace :=
  { w with
    machine := w.registry.evicted.foldl Machine.kill w.machine
    registry := w.registry.register process }

/-- The workspace after a command could not be started. -/
def notStarted (w : Workspace) (c : Config) (e : OsError) : Workspace :=
  let w := w.note ["Child process threw error", e.message]
  w.complain c.settings (if e = .notFound then toolMissingMessage else e.message)

/-- A local run begins. -/
def beginLocal (w : Workspace) (c : Config) (i : Invocation) (t : Target) : Started × Workspace :=
  let relative := t.path?.map fun path => targetPath path c.workingDirectory?
  let arguments := w.arguments c i t relative
  let w := w.note (announcement c t arguments)
  if w.isIgnored t relative then
    (.over {}, w.note ["File marked as ignored: " ++ relative.getD ""])
  else
    let w := (relative.map w.unignore).getD w
    match w.machine.spawn (w.command c arguments t.contents?) with
    | .error e => (.over {}, w.notStarted c e)
    | .ok (process, machine) =>
      let entry := w.registry.nextId
      (.running ⟨i.kind, c, relative, process, entry⟩, { w with machine }.track process)

/-- An exit code in the log. -/
def codeText (code : Option Int) : String :=
  match code with
  | some n => "Some(" ++ toString n ++ ")"
  | none => "None"

/-- The workspace after a command wrote errors: the file is ignored, or the user is told. -/
def takeErrors (w : Workspace) (r : Running) (text : String) : Workspace :=
  if text.isEmpty then w
  else
    let w := w.note ["Raw stderr output:", logRule, text, logRule]
    if saysIgnored text then (r.relative.map w.ignore).getD w else w.complain r.config.settings text

/-- A local run ends. -/
def finish (w : Workspace) (r : Running) (e : Exit) : RunResult × Workspace :=
  let lines := outputLines r.kind e.output
  let w := { w with registry := w.registry.remove r.entry }
  let w := w.note [
    "Received close event, code " ++ codeText e.code, "Raw stdout output:", logRule,
    joinStrings "\n" lines, logRule]
  let w := w.takeErrors r (Utf8.lossyString e.errors)
  (match e.code with
    | some code => ⟨isSuccess code, lines⟩
    | none => {}, w)

/-! ## Remote runs -/

/-- The workspace after the dbt server failed.  The hint to compile is given once. -/
def remoteFailed (w : Workspace) (c : Config) (e : RemoteError) : Workspace :=
  let w := w.note ["dbt-core-interface error: " ++ e.text]
  if c.settings.suppressNotifications ∨ w.popupShown then w
  else if e.code = .compilation then
    { w with popupShown := true }.showMessage .error
      (e.message ++ "\nDebug by running dbt compile.")
  else w.showMessage .error e.userMessage

/-- The request to the dbt server for a target. -/
def remoteRequest (c : Config) (t : Target) : RemoteRequest :=
  ⟨t.contents?, t.path?.map Path.forwardSlashes, c.configFile⟩

/-- The lines that announce a request. -/
def remoteAnnouncement (c : Config) (kind : CommandKind) (r : RemoteRequest) : List String :=
  let dbt := c.settings.dbt
  let endpoint := match kind with
    | .lint => "lint"
    | .fix => "format"
  [logSection "Executing Command", ((dbt.url? endpoint r).map Url.text).getD dbt.address] ++
    (match r.sql with
      | some sql => ["-----Request Body-----", sql]
      | none => []) ++ [logRule]

/-- The report of violations that the dbt server found. -/
def remoteReport (path : Option String) (violations : Json) : Json :=
  .arr [.object [("filepath", .str (path.getD "stdin")), ("violations", violations)]]

/-- A run at the dbt server. -/
def runRemote (w : Workspace) (c : Config) (kind : CommandKind) (t : Target) :
    RunResult × Workspace :=
  let request := remoteRequest c t
  let w := w.note (remoteAnnouncement c kind request)
  match kind with
  | .lint =>
    let (result, machine) := Remote.lint w.machine c.settings.dbt request
    let w := { w with machine }
    match result with
    | .error e => ({}, w.remoteFailed c e)
    | .ok violations =>
      let line := (remoteReport request.path violations).compress
      (⟨true, [line]⟩, w.note ["Raw dbt-core-interface /lint output:", line])
  | .fix =>
    let (result, machine) := Remote.format w.machine c.settings.dbt request
    let w := { w with machine }
    match result with
    | .error e => ({}, w.remoteFailed c e)
    | .ok text =>
      let text := text.getD ""
      (⟨true, [text]⟩, w.note ["Raw dbt-core-interface /format output:", text])

/-! ## Runs -/

/-- A run begins. -/
def begin (w : Workspace) (i : Invocation) : Except InvocationError (Started × Workspace) := do
  let t ← i.validate
  if w.settings.dbt.enabled then
    let (result, w) := w.runRemote w.config i.kind t
    return (.over result, w)
  else return w.beginLocal w.config i t

/-- The end of a running command, which is killed if it does not end by itself. -/
def await (w : Workspace) (r : Running) : RunResult × Workspace :=
  match (w.machine.kill r.process).collect? r.process with
  | some (e, machine) => { w with machine }.finish r e
  | none => w.finish r ⟨none, [], []⟩

/-- A run from its beginning to its end. -/
def invoke (w : Workspace) (i : Invocation) : Except InvocationError (RunResult × Workspace) := do
  match ← w.begin i with
  | (.over result, w) => return (result, w)
  | (.running r, w) => return w.await r

end Workspace

end SqlLint
