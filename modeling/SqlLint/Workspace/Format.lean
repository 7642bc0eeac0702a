import SqlLint.Fix.Output
import SqlLint.Fix.Selection
import SqlLint.Workspace.Invocation

/-!
# Formatting

`Workspace.formatDocument` fixes a whole document and `Workspace.formatRange` the whole lines of a
selection.  The text goes through the tool, or, if files are fixed on disk, the file is fixed and
read again.  The outcome is at most one edit; what stands in the way is a `FormatError`.
-/

namespace SqlLint

open Text

/-- Why a document is not formatted. -/
inductive FormatError where
  | disabled
  | rangeOnDisk
  | unknownDocument (uri : Url)
  | noPath
  | saveFailed (e : OsError)
  | readFailed (e : OsError)
  | commandFailed
  | templatingErrors
  deriving DecidableEq, Repr

/-- The words for why a document is not formatted. -/
def FormatError.message : FormatError → String
  | .disabled => "Format not enabled in the settings. Skipping Format."
  | .rangeOnDisk =>
    "Unable to format a selection while sqlfluff.experimental.format.executeInTerminal is " ++
      "enabled. Skipping Format."
  | .unknownDocument uri => "Document is not open: " ++ uri.text
  | .noPath => "File path not found."
  | .saveFailed e => "Unable to save the document before formatting: " ++ e.message
  | .readFailed e => "Unable to read the fixed file: " ++ e.message
  | .commandFailed => "SQLFluff Formatting Failed."
  | .templatingErrors => "SQLFluff templating/parsing errors found."

/-- The outcome of an attempt to format, and the workspace after it. -/
abbrev Formatted (α : Type) := Except FormatError α × Workspace

namespace Workspace

/-- The document to be formatted; none if the directory of the tool is not known yet. -/
def formattable (w : Workspace) (uri : Url) : Formatted (Option Document) :=
  if w.config.hasOpenPlaceholder then (.ok none, w)
  else if ! w.settings.format.enabled then
    (.error .disabled, w.note [FormatError.disabled.message])
  else match w.documents.get? uri with
    | some d => (.ok (some d), w)
    | none => (.error (.unknownDocument uri), w)

/-- The lines to put in place of the old text, if any. -/
def reconcile (w : Workspace) (output : FixOutput) : Formatted (Option (List (List Char))) :=
  match output with
  | .toolMissing => (.ok none, w)
  | .templatingErrors => (.error .templatingErrors, w)
  | .fixed lines errorsRemain =>
    if lines.all (· = []) then (.ok none, w)
    else if errorsRemain then
      (.ok (some lines), w.complain w.settings
        "SQLFluff fixed what it could, but templating/parsing errors remain.")
    else (.ok (some lines), w)

/-- The lines that fixing a text gives. -/
def fixText (w : Workspace) (text path : String) : Formatted (Option (List (List Char))) :=
  let arguments := w.settings.fixArguments w.version
  let isRemote := w.settings.dbt.enabled
  match w.invoke ⟨.fix, arguments, some (.buffer text (some path))⟩ with
  | .error _ => (.error .commandFailed, w)
  | .ok (result, w) =>
    if result.succeeded then w.reconcile (FixOutput.ofLines result.lines (! isRemote))
    else (.error .commandFailed, w)

/-- The workspace with a document written to its file, if it has unsaved changes. -/
def saved (w : Workspace) (d : Document) (path : String) : Except OsError Workspace := do
  if d.dirty then
    let files ← w.machine.files.write w.machine.directory path (Utf8.encode d.text)
    return { w with
      machine := { w.machine with files }
      documents := w.documents.save d.uri none }
  else return w

/-- The lines of a file after it was fixed on disk; the tool is told its path as a text. -/
def fixFile (w : Workspace) (d : Document) (path diskPath : String) :
    Formatted (Option (List (List Char))) :=
  let arguments := w.settings.fixArguments w.version
  match w.saved d diskPath with
  | .error e => (.error (.saveFailed e), w)
  | .ok w =>
    match w.invoke ⟨.fix, arguments, some (.file path)⟩ with
    | .error _ => (.error .commandFailed, w)
    | .ok (result, w) =>
      if ! result.succeeded then (.error .commandFailed, w)
      else match w.machine.files.readText w.machine.directory diskPath with
        | .error e => (.error (.readFailed e), w)
        | .ok text => w.reconcile (.fixed (anyLines text.toList) false)

/-- The edit that puts lines in place of a range. -/
def editOf (range : Range) (lines : List (List Char)) : Edit :=
  ⟨range, String.ofList (join ['\n'] lines)⟩

/-- The edits that format a whole document: none or one. -/
def formatDocument (w : Workspace) (uri : Url) : Formatted (List Edit) :=
  match w.formattable uri with
  | (.error e, w) => (.error e, w)
  | (.ok none, w) => (.ok [], w)
  | (.ok (some d), w) =>
    match d.path? with
    | none => (.error .noPath, w)
    | some path =>
      let w := w.note ["Format triggered for " ++ path]
      let onDisk := w.settings.experimental.executeInTerminal && ! w.settings.dbt.enabled
      let (lines, w) :=
        if onDisk then w.fixFile d path (d.diskPath?.getD path) else w.fixText d.text path
      (lines.map fun lines => lines.toList.map (editOf d.fullRange), w)

/-- The lines of a selection after fixing, indented as the settings of the language say. -/
def indentedFor (w : Workspace) (d : Document) (range : Range) (lines : List (List Char)) :
    List (List Char) :=
  let indent := ((d.line? range.start.line).map leadingBlank).getD []
  let keep := (w.settings.languageFormat? d.language).any (·.preserveLeadingWhitespace)
  indented indent keep lines

/-- What the log says about a selection. -/
def rangeNotice (range : Range) (path : String) : String :=
  "Range (Lines " ++ toString range.start.line ++ " to " ++ toString range.stop.line ++
    ") Format triggered for " ++ path

/-- The edits that format the lines of a selection: none or one. -/
def formatRange (w : Workspace) (uri : Url) (selection : Range) : Formatted (List Edit) :=
  match w.formattable uri with
  | (.error e, w) => (.error e, w)
  | (.ok none, w) => (.ok [], w)
  | (.ok (some d), w) =>
    if w.settings.experimental.executeInTerminal then
      (.error .rangeOnDisk, w.note [FormatError.rangeOnDisk.message])
    else match d.path? with
      | none => (.error .noPath, w)
      | some path =>
        let range := d.wholeLines selection
        let w := w.note [rangeNotice range path]
        let text := d.slice range
        if isBlankText text.toList then (.ok [], w)
        else
          let (lines, w) := w.fixText text path
          let edit ls := editOf range (w.indentedFor d range ls)
          (lines.map fun lines => lines.toList.map edit, w)

end Workspace

end SqlLint
