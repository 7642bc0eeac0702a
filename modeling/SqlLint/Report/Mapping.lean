import SqlLint.Diagnostic.Basic
import SqlLint.Document.Basic
import SqlLint.Report.Basic
import SqlLint.Settings.Arguments

/-!
# From reports to diagnostics

`fileDiagnostics` turns the output of a lint run into diagnostics, grouped by file in the order in
which the files are first reported.  A file is the same however its path is spelled.  The file that
was linted is the target; if it is open, its text tells the columns of its diagnostics, and a
diagnostic of a single place covers the word there.
-/

namespace SqlLint

/-- What was linted: the file, where the tool ran, and the document if the file is open. -/
structure LintTarget where
  path : String
  workingDirectory : Option String := none
  document : Option Document := none
  deriving Repr

/-- The diagnostics of one file. -/
structure FileDiagnostics where
  path : String
  isTarget : Bool
  diagnostics : List Diagnostic
  deriving Repr

/-- The URL of the file, if its path is absolute. -/
def FileDiagnostics.uri? (f : FileDiagnostics) : Option Url := Url.ofFilePath? f.path

/-- Who diagnostics come from. -/
def diagnosticSource : String := "sqlfluff"

/-- Where the documentation of the rules is. -/
def ruleDocumentation : String :=
  "https://docs.sqlfluff.com/en/stable/rules.html#sqlfluff.rules.Rule_"

/-- The documentation of a rule. -/
def ruleUrl? (code : String) : Option Url :=
  if code.isEmpty then none else Url.parse? (ruleDocumentation ++ code)

namespace Violation

/-- The range of a violation in a document that is not at hand. -/
def plainRange (v : Violation) : Range :=
  ⟨⟨v.start.line, v.start.column⟩, ⟨v.stop.line, v.stop.column⟩⟩

/-- The range of a violation in a document: a single place stands for the word there. -/
def rangeIn (v : Violation) (d : Document) : Range :=
  let exact : Range :=
    ⟨d.positionAtChar v.start.line v.start.column, d.positionAtChar v.stop.line v.stop.column⟩
  if v.start = v.stop then (d.wordAt? v.start.line v.start.column).getD exact else exact

/-- The diagnostic of a violation. -/
def diagnostic (v : Violation) (document : Option Document) (s : Settings) : Diagnostic :=
  { range := match document with
      | some d => v.rangeIn d
      | none => v.plainRange
    severity := some (s.severityOf v.code).code
    code := some (.text v.code)
    codeDescription := ruleUrl? v.code
    source := some diagnosticSource
    message := v.description }

end Violation

namespace LintTarget

/-- The path of a reported file. -/
def resolve (t : LintTarget) (reported : String) : String :=
  if reported = "stdin" ∨ reported.isEmpty then t.path
  else
    let path := Path.forwardSlashes reported
    match t.workingDirectory with
    | some dir => Path.join dir path
    | none => path

/-- The diagnostics of one report. -/
def ofReport (t : LintTarget) (s : Settings) (r : FileReport) : FileDiagnostics :=
  let path := t.resolve r.path
  let isTarget := Path.same path t.path
  let document := if isTarget then t.document else none
  ⟨path, isTarget, r.violations.map (·.diagnostic document s)⟩

end LintTarget

/-- The groups with those of one more report, which join the group of the same file. -/
def joinGroup (new : FileDiagnostics) : List FileDiagnostics → List FileDiagnostics
  | [] => [new]
  | g :: gs =>
    if Path.same g.path new.path then
      { g with diagnostics := g.diagnostics ++ new.diagnostics } :: gs
    else g :: joinGroup new gs

/-- The reports in the output of a run. -/
def reportsOf (output : List String) : List FileReport :=
  output.flatMap fun line => (ReportLine.parse line).toList

/-- The diagnostics in the output of a run, grouped by file. -/
def fileDiagnostics (output : List String) (t : LintTarget) (s : Settings) : List FileDiagnostics :=
  (reportsOf output).foldl (fun groups r => joinGroup (t.ofReport s r) groups) []

end SqlLint
