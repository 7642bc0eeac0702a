import SqlLint.Json.Parse
import SqlLint.Json.Record
import SqlLint.Text.Blank

/-!
# Lint reports

The tool reports what it found as JSON: a line of its output holds arrays of `FileReport`s, one
after the other, and a report lists the `Violation`s of one file.  `ReportLine.parse` reads a line;
a line that is anything else is unparseable as a whole.  Violations count lines and characters from
one; `Violation.start` and `Violation.stop` count from zero and never go below it.
-/

namespace SqlLint

open Text

/-- A place where a rule is violated, as reported. -/
structure Violation where
  code : String := ""
  description : String := ""
  line : Option Int := none
  column : Option Int := none
  startLine : Option Int := none
  startColumn : Option Int := none
  endLine : Option Int := none
  endColumn : Option Int := none
  deriving DecidableEq, Repr, Inhabited

/-- A line and a character of it, counted from zero. -/
structure CharPosition where
  line : Nat
  column : Nat
  deriving DecidableEq, Repr, Inhabited

/-- The position is before another one. -/
def CharPosition.before (p q : CharPosition) : Bool :=
  p.line < q.line || (p.line == q.line && p.column < q.column)

/-- What was found in one file. -/
structure FileReport where
  path : String := ""
  violations : List Violation := []
  deriving DecidableEq, Repr, Inhabited

/-! ## Places -/

/-- A number counted from one, counted from zero in 32 bits. -/
def fromZero (n : Option Int) : Nat := min ((n.getD 1) - 1).toNat 0xFFFFFFFF

namespace Violation

/-- Where the violation begins. -/
def start (v : Violation) : CharPosition :=
  ⟨fromZero (v.startLine.or v.line), fromZero (v.startColumn.or v.column)⟩

/-- Where the violation ends: where it begins if no end is given or the end is before that. -/
def stop (v : Violation) : CharPosition :=
  match v.endLine, v.endColumn with
  | some line, some column =>
    let stop : CharPosition := ⟨fromZero (some line), fromZero (some column)⟩
    if stop.before v.start then v.start else stop
  | _, _ => v.start

/-! ## Reading -/

/-- The fields of a violation, in their order. -/
def fieldNames : List String :=
  [ "code", "description", "line_no", "line_pos", "start_line_no", "start_line_pos", "end_line_no",
    "end_line_pos" ]

/-- The violation that a draft denotes. -/
def ofDraft? (d : Draft) : Option Violation := do
  let r ← d.record? fieldNames
  return {
    code := ← r.defaulted "code" Draft.text? ""
    description := ← r.defaulted "description" Draft.text? ""
    line := ← r.optional "line_no" Draft.int64?
    column := ← r.optional "line_pos" Draft.int64?
    startLine := ← r.optional "start_line_no" Draft.int64?
    startColumn := ← r.optional "start_line_pos" Draft.int64?
    endLine := ← r.optional "end_line_no" Draft.int64?
    endColumn := ← r.optional "end_line_pos" Draft.int64? }

end Violation

/-- The report that a draft denotes. -/
def FileReport.ofDraft? (d : Draft) : Option FileReport := do
  let r ← d.record? ["filepath", "violations"]
  return {
    path := ← r.defaulted "filepath" Draft.text? ""
    violations := ← r.defaulted "violations" (Draft.list? Violation.ofDraft?) [] }

/-- A line of the output of the tool: reports, nothing, or anything else. -/
inductive ReportLine where
  | reports (reports : List FileReport)
  | empty
  | malformed
  deriving DecidableEq, Repr

namespace ReportLine

/-- The reports of a line that holds arrays of them. -/
def read? (line : String) : Option (List FileReport) := do
  let batches ← (← Draft.stream? line).mapM (Draft.list? FileReport.ofDraft?)
  return batches.flatten

/-- A line as read. -/
def parse (line : String) : ReportLine :=
  match read? line with
  | none => .malformed
  | some found => if found = [] ∧ isBlankText line.toList then .empty else .reports found

/-- The reports of a line, none if it is unparseable. -/
def toList : ReportLine → List FileReport
  | .reports found => found
  | .empty => []
  | .malformed => []

end ReportLine

end SqlLint
