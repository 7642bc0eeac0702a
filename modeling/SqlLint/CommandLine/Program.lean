import SqlLint.CommandLine.Arguments
import SqlLint.Lint.Barrier
import SqlLint.Server.Service

/-!
# The program

`Program.run` carries out a command line on a machine: it serves the editor on the standard input,
checks the setup, or lints files.  The outcome is what the program writes, its exit code, and the
words in which it fails.
-/

namespace SqlLint

/-- How the program ends: its exit code, what it writes, and why it fails. -/
structure Outcome where
  exit : Nat := 0
  output : List UInt8 := []
  failure : Option String := none
  deriving DecidableEq, Repr

namespace Program

/-! ## Texts -/

/-- The words that say how the program is called. -/
def usage : String := "Usage: sqlfluff_ls [OPTIONS] [PATHS]..."

/-- A short text about the command line. -/
def shortHelp : String :=
  Text.joinStrings "\n" [
    "SQLFluff language server", "", usage, "", "Arguments:",
    "  [PATHS]...  Files to lint in `lint` mode", "", "Options:",
    "      --mode <MODE>",
    "          Server mode [default: lsp] [possible values: lsp, probe, lint]",
    "      --executable-path <EXECUTABLE_PATH>",
    "          Path to the sqlfluff executable (overrides settings)",
    "      --working-directory <WORKING_DIRECTORY>",
    "          Directory sqlfluff runs in (overrides settings)",
    "      --log-level <LEVEL>",
    "          Log level for stderr logging (e.g. error, warn, info, debug)",
    "  -h, --help", "          Print help (see more with '--help')",
    "  -V, --version", "          Print version", ""]

/-- A longer text about the command line. -/
def help : String :=
  Text.joinStrings "\n" [
    "SQLFluff language server", "", usage, "", "Arguments:",
    "  [PATHS]...", "          Files to lint in `lint` mode", "", "Options:",
    "      --mode <MODE>", "          Server mode", "", "          Possible values:",
    "          - lsp:   Speak LSP over stdin/stdout",
    "          - probe: Check the setup and print a JSON report",
    "          - lint:  Lint the given files once and print their diagnostics as JSON",
    "          ", "          [default: lsp]", "",
    "      --executable-path <EXECUTABLE_PATH>",
    "          Path to the sqlfluff executable (overrides settings)", "",
    "      --working-directory <WORKING_DIRECTORY>",
    "          Directory sqlfluff runs in (overrides settings)", "",
    "      --log-level <LEVEL>",
    "          Log level for stderr logging (e.g. error, warn, info, debug)", "",
    "  -h, --help", "          Print help (see a summary with '-h')", "",
    "  -V, --version", "          Print version", ""]

/-- The name and the version of the program. -/
def versionText : String := Service.name ++ " " ++ Service.version ++ "\n"

/-- The program writes a text and ends well. -/
def say (text : String) : Outcome := { output := Text.Utf8.encode text }

/-- How the program ends when the command line is not carried out. -/
def refused : UsageError → Outcome
  | .shortHelp => say shortHelp
  | .help => say help
  | .version => say versionText
  | _ => { exit := 2 }

/-- The words for a failure and for its cause. -/
def causedBy (what cause : String) : String := what ++ "\n\nCaused by:\n    " ++ cause

/-! ## Serving -/

/-- What the command line lays down over the settings. -/
def overrides (a : Arguments) : Overrides := ⟨a.executable, a.directory⟩

/-- How the program ends after it has served the editor; a process that is ended for want of memory
ends by a signal. -/
def served (fault : Option FrameFault) (events : List Event) : Outcome :=
  let output := events.flatMap Event.bytes
  match fault with
  | none => { output }
  | some .unbounded => { exit := 101, output }
  | some .noMemory => { exit := 134, output }
  | some fault =>
    { exit := 1, output, failure := some (causedBy "failed to read LSP message" fault.message) }

/-- The editor is served. -/
def serve (m : Machine) (a : Arguments) (input : List UInt8) : Outcome × Machine :=
  let (log, m) := m.openLog
  let (fault, s) := (Service.launch m log (overrides a)).serve input
  (served fault s.workspace.events, s.workspace.machine)

/-! ## Without an editor -/

/-- The path of the directory where the program runs. -/
def currentDirectory (m : Machine) : String := "/" ++ Text.joinStrings "/" m.directory

/-- A workspace in the directory where the program runs. -/
def workspace (m : Machine) (a : Arguments) : Workspace :=
  let (log, machine) := m.openLog
  { machine, log
    config := ⟨(overrides a).apply ({} : Settings),
      .ofWorkspace (m.valueOf? "HOME") (some (currentDirectory m))⟩ }

/-- A check on a line, its fields in their order. -/
def checkLine (c : Check) : Json :=
  .obj [("name", .str c.name), ("passed", .bool c.passed), ("detail", .str c.detail)]

/-- A checkup on a line, its fields in their order. -/
def checkupLine (c : Checkup) : Json :=
  .obj [
    ("ok", .bool c.isOk),
    ("working_directory", .ofOption .str c.workingDirectory),
    ("executable", .ofOption .str c.executable),
    ("version", .ofOption .str c.version),
    ("checks", .list checkLine c.checks) ]

/-- The setup is checked. -/
def probe (m : Machine) (a : Arguments) : Outcome × Machine :=
  let (checkup, w) := (workspace m a).check
  let output := Text.Utf8.encode ((checkupLine checkup).compress ++ "\n")
  (if checkup.isOk then { output }
    else { exit := 1, output, failure := some "setup check failed" }, w.machine)

/-- The document in a file. -/
def document (m : Machine) (path : String) : Except String Document := do
  let place ← match m.files.resolve m.directory path with
    | .error e => throw (causedBy ("cannot resolve " ++ path) e.message)
    | .ok place =>
      if (m.files.node? place).isNone then
        throw (causedBy ("cannot resolve " ++ path) OsError.notFound.message)
      pure ("/" ++ Text.joinStrings "/" place)
  match m.files.readText [] place with
  | .error e => throw (causedBy ("cannot read " ++ place) e.message)
  | .ok text =>
    match Url.ofFilePath? place with
    | none => throw ("not an absolute path: " ++ place)
    | some uri => return { uri, language := "sql", version := 0, text }

/-- The line for the diagnostics of a file. -/
def diagnosticsLine (path : String) (diagnostics : List Diagnostic) : String :=
  (Json.object [("path", .str path), ("diagnostics", .list Diagnostic.json diagnostics)]).compress
    ++ "\n"

/-- A document is opened and linted; tells whether its lint came to an end. -/
def lintDocument (l : Linter) (d : Document) : Bool × Linter :=
  ((l.modify fun w => { w with documents := w.documents.open_ d }).forced d.uri).awaitIdle

/-- Files are linted one after the other, up to the first that cannot be read, or whose lint does
not come to an end. -/
def lintAll (l : Linter) : List String → String × Option String × Linter
  | [] => ("", none, l)
  | path :: paths =>
    match document l.workspace.machine path with
    | .error failure => ("", some failure, l)
    | .ok d =>
      match lintDocument l d with
      | (false, l) => ("", some ("timed out linting " ++ path), l)
      | (true, l) =>
        let line := diagnosticsLine path ((l.workspace.published? d.uri).getD [])
        let (output, failure, l) := lintAll l paths
        (line ++ output, failure, l)

/-- Files are linted. -/
def lint (m : Machine) (a : Arguments) : Outcome × Machine :=
  if a.paths = [] then ({ exit := 1, failure := some "lint mode needs at least one path" }, m)
  else
    let w := (workspace m a).refreshVersion
    let (output, failure, l) := lintAll { bench := { workspace := w } } a.paths
    (⟨if failure.isSome then 1 else 0, Text.Utf8.encode output, failure⟩, l.workspace.machine)

/-- A command line is carried out. -/
def run (m : Machine) (words : List String) (input : List UInt8) : Outcome × Machine :=
  match Arguments.read words with
  | .error e => (refused e, m)
  | .ok a =>
    match a.mode with
    | .serve => serve m a input
    | .probe => probe m a
    | .lint => lint m a

end Program

end SqlLint
