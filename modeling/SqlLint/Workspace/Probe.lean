import SqlLint.Text.Blank
import SqlLint.Tool.Locate
import SqlLint.Workspace.Invocation

/-!
# Probing the setup

`Workspace.refreshVersion` asks the tool for its version and remembers it.  `Workspace.check` looks
one after the other whether the working directory is there, whether the program can be found and
whether it tells a version; the first failure ends it.  The outcome is a `Checkup`.
-/

namespace SqlLint

open Text

/-- Why the version of the tool is not known. -/
inductive ProbeError where
  | notStarted (program : String) (e : OsError)
  | unrecognised (output : String)
  deriving DecidableEq, Repr

/-- The words for a version that is not known. -/
def ProbeError.message : ProbeError → String
  | .notStarted program e => "failed to run " ++ program ++ " --version: " ++ e.message
  | .unrecognised output =>
    "unrecognised version output: " ++ String.ofList (trim output.toList)

/-- A look at one part of the setup. -/
structure Check where
  name : String
  passed : Bool
  detail : String
  deriving DecidableEq, Repr

/-- What was found out about the setup. -/
structure Checkup where
  workingDirectory : Option String := none
  executable : Option String := none
  version : Option String := none
  checks : List Check := []
  deriving DecidableEq, Repr

namespace Checkup

/-- The last check passed, so that the setup works. -/
def isOk (c : Checkup) : Bool := (c.checks.getLast?.map (·.passed)).getD true

/-- The first check that failed. -/
def failure? (c : Checkup) : Option Check := c.checks.find? (! ·.passed)

end Checkup

/-- A check in JSON. -/
def Check.json (c : Check) : Json :=
  .object [("name", .str c.name), ("passed", .bool c.passed), ("detail", .str c.detail)]

/-- A checkup in JSON. -/
def Checkup.json (c : Checkup) : Json :=
  .object [
    ("ok", .bool c.isOk),
    ("working_directory", .ofOption .str c.workingDirectory),
    ("executable", .ofOption .str c.executable),
    ("version", .ofOption .str c.version),
    ("checks", .list Check.json c.checks) ]

namespace Workspace

/-- The version that a program tells in a directory. -/
def probe (w : Workspace) (program : String) (dir : Option String) :
    Except ProbeError ToolVersion × Workspace :=
  let c := w.config
  let (shown, arguments) := c.settings.shell.command program ["--version"]
  match w.machine.run ⟨shown, arguments, dir, c.overlay w.machine dir, none⟩ with
  | .error e => (.error (.notStarted program e), w)
  | .ok (exit, machine) =>
    let output := Utf8.lossyString exit.output.flatten ++ Utf8.lossyString exit.errors
    let found := match ToolVersion.parse? output with
      | some version => .ok version
      | none => .error (.unrecognised output)
    (found, { w with machine })

/-- A directory, if it is there. -/
def existing (w : Workspace) (dir : Option String) : Option String :=
  dir.filter (w.machine.files.isDirectory w.machine.directory)

/-- The workspace after the tool was asked for its version. -/
def refreshVersion (w : Workspace) : Workspace :=
  let (found, w) := w.probe w.config.executable (w.existing w.config.workingDirectory?)
  match found with
  | .ok version => { w.note ["sqlfluff version " ++ version.text] with version := some version }
  | .error _ => { w with version := none }

/-- A check noted in the log and in the checkup. -/
def record (w : Workspace) (c : Checkup) (check : Check) : Checkup × Workspace :=
  let outcome := if check.passed then "SUCCESS" else "FAILED"
  ({ c with checks := c.checks ++ [check] },
    w.note ["TEST " ++ outcome ++ ": " ++ check.name ++ ": " ++ check.detail])

/-- The check of the working directory. -/
def directoryCheck (w : Workspace) (dir : Option String) : Check :=
  match dir with
  | none => ⟨"working directory", true, "not set, using the server's directory"⟩
  | some dir =>
    if w.machine.files.isDirectory w.machine.directory dir then ⟨"working directory", true, dir⟩
    else ⟨"working directory", false, dir ++ " is not an existing directory"⟩

/-- The version by the name that the settings give, or else by the path of the program. -/
def versionOf (w : Workspace) (name path : String) (dir : Option String) :
    Except ProbeError ToolVersion × Workspace :=
  match w.probe name dir with
  | (.ok version, w) => (.ok version, w)
  | (.error first, w) =>
    if name = path then (.error first, w)
    else match w.probe path dir with
      | (.ok version, w) => (.ok version, w)
      | (.error _, w) => (.error first, w)

/-- The check of the version, with the version. -/
def versionCheck (found : Except ProbeError ToolVersion) : Check × Option String :=
  match found with
  | .ok version => (⟨"version", true, "sqlfluff " ++ version.text⟩, some version.text)
  | .error e => (⟨"version", false, e.message⟩, none)

/-- The checks after the working directory. -/
def checkTool (w : Workspace) (c : Checkup) (dir : Option String) : Checkup × Workspace :=
  let name := w.config.executable
  match w.machine.findTool? name dir with
  | none => w.record c ⟨"executable", false, notFoundMessage name⟩
  | some path =>
    let (c, w) := w.record c ⟨"executable", true, "found sqlfluff at " ++ path⟩
    let (found, w) := w.versionOf name path dir
    let (check, version) := versionCheck found
    w.record { c with executable := some path, version } check

/-- The setup checked. -/
def check (w : Workspace) : Checkup × Workspace :=
  let dir := w.config.workingDirectory?
  let first := w.directoryCheck dir
  let w := w.note [logSection "Debug"]
  let (c, w) := w.record { workingDirectory := dir } first
  let (c, w) := if first.passed then w.checkTool c dir else (c, w)
  (c, w.note [logRule])

end Workspace

end SqlLint
