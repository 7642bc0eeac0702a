import SqlLint.Document.Basic

/-!
# Selections

A selection is fixed by whole lines: `wholeLines` widens a range to the lines it touches, without
a blank last one.  The tool does not see how far the selection is indented; `indented` puts the
indentation back.
-/

namespace SqlLint

open Text

/-- The whole lines of a range; a last line that is blank is left out. -/
def Document.wholeLines (d : Document) (r : Range) : Range :=
  let stop := min r.stop.line (d.lineCount - 1)
  let start := min r.start.line stop
  let isBlankLine : Bool := (d.line? stop).any isBlankText
  let last := if start < stop ∧ isBlankLine then stop - 1 else stop
  ⟨⟨start, 0⟩, ⟨last, units16 ((d.line? last).getD [])⟩⟩

/-- The first line begins with a blank. -/
def isIndented (lines : List (List Char)) : Bool :=
  (lines.head?.bind List.head?).any isBlank

/-- Lines with the indentation in front of each that is not blank. -/
def indentLines (indent : List Char) (lines : List (List Char)) : List (List Char) :=
  lines.map fun line => if isBlankText line then line else indent ++ line

/-- Lines without an empty last one. -/
def withoutEmptyLast (lines : List (List Char)) : List (List Char) :=
  if lines.getLast? = some [] then lines.dropLast else lines

/-- Fixed lines with the indentation put back, if it is to be kept and they have none. -/
def indented (indent : List Char) (keep : Bool) (lines : List (List Char)) : List (List Char) :=
  withoutEmptyLast (if keep ∧ ¬ isIndented lines then indentLines indent lines else lines)

end SqlLint
