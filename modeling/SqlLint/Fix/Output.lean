import SqlLint.Text.Lines

/-!
# The output of a fix

`FixOutput.ofLines` tells what a run of the fixing command wrote: the fixed text, with or without
errors that remain, or that the templates could not be rendered, or that the tool is missing.  The
notices of the tool stand before the fixed text and are not part of it.
-/

namespace SqlLint

open Text

/-- What a run of the fixing command wrote. -/
inductive FixOutput where
  | fixed (lines : List (List Char)) (errorsRemain : Bool)
  | templatingErrors
  | toolMissing
  deriving DecidableEq, Repr

namespace FixOutput

/-- The text stands at the start of a line. -/
def begins (text : String) (line : List Char) : Bool := text.toList.isPrefixOf line

/-- The text stands somewhere in a line. -/
def mentions (text : String) (line : List Char) : Bool := (cutAt text.toList line).isSome

/-- The notice of the tool that it may change what the queries mean. -/
def safetyNotice : String := "NO SAFETY:"

/-- The lines after the safety notice, which is two lines long. -/
def afterSafetyNotice (lines : List (List Char)) : List (List Char) :=
  if lines.head?.any (begins safetyNotice) then lines.drop 2 else lines

/-- The first line says that errors remain. -/
def saysErrorsRemain (lines : List (List Char)) : Bool :=
  lines.head?.any (mentions "templating/parsing errors remaining")

/-- What the lines say that come after the notices. -/
def ofBody (lines : List (List Char)) (errorsRemain : Bool) : FixOutput :=
  if lines.head?.any (mentions "ENOENT") then .toolMissing
  else if lines.head?.any (mentions "templating/parsing errors found") then .templatingErrors
  else .fixed lines errorsRemain

/-- What a run wrote, line by line; only the tool itself writes the safety notice. -/
def ofLines (output : List String) (hasNotice : Bool) : FixOutput :=
  let lines := anyLines (joinStrings "\n" output).toList
  let lines := if hasNotice then afterSafetyNotice lines else lines
  let errorsRemain := saysErrorsRemain lines
  ofBody (if errorsRemain then lines.drop 1 else lines) errorsRemain

/-- There is no text to put in place of the old one. -/
def isNoop : FixOutput → Bool
  | .fixed lines _ => lines.all (· = [])
  | _ => true

end FixOutput

end SqlLint
