import SqlLint.Action.Noqa
import SqlLint.Diagnostic.Basic
import SqlLint.Report.Mapping

/-!
# Quick fixes

`quickFixes` lists what an editor offers for the diagnostics of a document: comments that silence a
rule or every rule on a line, and commands that exclude a rule in the settings of the workspace or
of the user.
-/

namespace SqlLint

/-- The code of a diagnostic that is one of ours. -/
def Diagnostic.rule? (d : Diagnostic) : Option String :=
  if d.source = some diagnosticSource then
    d.code.map fun
      | .text code => code
      | .number n => toString n
  else none

/-- Edits of documents, in JSON. -/
def Edit.json (e : Edit) : Json := .object [("range", e.range.json), ("newText", .str e.text)]

/-- What a quick fix does. -/
inductive FixEffect where
  | edit (uri : Url) (edit : Edit)
  | command (name rule : String)
  deriving DecidableEq, Repr

/-- A quick fix for a diagnostic. -/
structure QuickFix where
  title : String
  diagnostic : Diagnostic
  effect : FixEffect

namespace QuickFix

/-- The command that excludes a rule in the settings of the user. -/
def excludeGlobally : String := "sqlfluff.quickfix.excludeRule"

/-- The command that excludes a rule in the settings of the workspace. -/
def excludeInWorkspace : String := "sqlfluff.quickfix.excludeRuleWorkspace"

/-- The fix that silences the rule of a diagnostic on its line, or all of them. -/
def silence? (doc : Document) (d : Diagnostic) (rule : String) (all : Bool) : Option QuickFix := do
  let edit ← noqaEdit? doc d.range.start.line rule all
  let title := if all then "Ignore all rules for this line" else
    "Ignore rule " ++ rule ++ " for this line"
  return ⟨title, d, .edit doc.uri edit⟩

/-- The fix that excludes the rule of a diagnostic. -/
def exclude (d : Diagnostic) (rule : String) (everywhere : Bool) : QuickFix :=
  let scope := if everywhere then "from Global Settings" else "from Workspace Settings"
  ⟨"Exclude Rule " ++ rule ++ " " ++ scope, d,
    .command (if everywhere then excludeGlobally else excludeInWorkspace) rule⟩

/-- A quick fix in JSON. -/
def json (f : QuickFix) : Json :=
  let effect : String × Json := match f.effect with
    | .edit uri edit => ("edit", .object [("changes", .object [(uri.text, .arr [edit.json])])])
    | .command name rule =>
      ("command", .object [
        ("title", .str f.title), ("command", .str name), ("arguments", .strings [rule])])
  .object [
    ("title", .str f.title), ("kind", .str "quickfix"), ("diagnostics", .arr [f.diagnostic.json]),
    effect ]

end QuickFix

/-- The quick fixes for diagnostics of a document. -/
def quickFixes (doc : Document) (diagnostics : List Diagnostic) (s : Settings) : List QuickFix :=
  let ours := diagnostics.filterMap fun d => d.rule?.map fun rule => (d, rule)
  let silenced := ours.filter fun (_, rule) => ! s.noqaDisabledRules.contains rule
  let silencing (all : Bool) : List QuickFix :=
    silenced.filterMap fun (d, rule) => QuickFix.silence? doc d rule all
  let excluding (everywhere : Bool) : List QuickFix :=
    ours.map fun (d, rule) => QuickFix.exclude d rule everywhere
  (if s.noqaEnabled then silencing false ++ silencing true else []) ++
    (if s.codeActions.excludeRules.workspace then excluding false else []) ++
    (if s.codeActions.excludeRules.global then excluding true else [])

end SqlLint
