import SqlLint.Action.QuickFix

/-!
# Documentation under the cursor

`hover?` is what an editor shows at a position: a link to the documentation of the rule of the
first diagnostic there, or of the first one that begins in the word there.
-/

namespace SqlLint

/-- The link to the documentation of a rule. -/
def ruleLink (rule : String) : String :=
  "[View Documentation](" ++ ruleDocumentation ++ rule ++ ") for Rule " ++ rule ++ ".\n"

/-- The diagnostic, or the word in which it begins, reaches to the position. -/
def Diagnostic.isUnder (d : Diagnostic) (doc : Document) (p : Position) : Bool :=
  d.range.reaches p || (doc.wordAtPosition? d.range.start).any (·.reaches p)

/-- What an editor shows at a position of a document. -/
def hover? (doc : Document) (diagnostics : List Diagnostic) (p : Position) : Option String :=
  diagnostics.findSome? fun d => do
    let rule ← d.rule?
    if d.isUnder doc p then some (ruleLink rule) else none

/-- What an editor shows, in JSON. -/
def hoverJson (text : String) : Json :=
  .object [("contents", .object [("kind", .str "markdown"), ("value", .str text)])]

end SqlLint
