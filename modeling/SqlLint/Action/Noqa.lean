import SqlLint.Document.Basic
import SqlLint.Text.Digit

/-!
# Comments that silence rules

A comment `-- noqa` silences every rule on its line and `-- noqa: LT01,CP01` the listed ones.
`NoqaComment.find?` finds the first one of a line together with the end of its list, and
`noqaEdit?` is the edit that adds a rule to it, or makes it silence every rule.
-/

namespace SqlLint

open Text

/-- How the list of rules of a comment ends. -/
inductive NoqaList where
  | none
  | open_
  | closed
  deriving DecidableEq, Repr

/-- A comment of a line that silences rules: the text of the line before it, blanks at its end
left out, and the end of its list. -/
structure NoqaComment where
  before : List Char
  list : NoqaList
  deriving DecidableEq, Repr

namespace NoqaComment

/-- What a comment that silences rules begins with. -/
def mark : List Char := "-- noqa".toList

/-- A rule at the start of a text: at most one blank, letters, digits and at most one comma.  Gives
whether there is a comma, and the text after it. -/
def rule? (cs : List Char) : Option (Bool × List Char) :=
  let cs := match cs with
    | c :: rest => if isBlank c then rest else c :: rest
    | [] => []
  let afterLetters := cs.dropWhile Char.isAlpha
  let rest := afterLetters.dropWhile isDigit
  if afterLetters.length = cs.length ∨ rest.length = afterLetters.length then none
  else match rest with
    | ',' :: rest => some (true, rest)
    | rest => some (false, rest)

/-- The end of a list of rules; `seen` is what is known before the text is read. -/
def listEnd (seen : NoqaList) : Nat → List Char → NoqaList
  | 0, _ => seen
  | fuel + 1, cs =>
    match rule? cs with
    | none => seen
    | some (comma, rest) => listEnd (if comma then .open_ else .closed) fuel rest

/-- The list of rules in the text after the mark. -/
def listOf (cs : List Char) : NoqaList :=
  match cs with
  | ':' :: rest => listEnd .none rest.length rest
  | _ => .none

/-- The first comment of a line that silences rules. -/
def find? (line : List Char) : Option NoqaComment :=
  (cutAt mark line).map fun (before, after) => ⟨trimEnd before, listOf after⟩

end NoqaComment

/-- What is added at the end of a line to silence a rule there. -/
def noqaAddition (comment : Option NoqaComment) (rule : String) : String :=
  match comment.map (·.list) with
  | none => " -- noqa: " ++ rule
  | some .none => ": " ++ rule
  | some .open_ => " " ++ rule
  | some .closed => ", " ++ rule

/-- The edit that silences a rule on a line, or all of them. -/
def noqaEdit? (d : Document) (line : Nat) (rule : String) (all : Bool) : Option Edit := do
  let text ← d.line? line
  let comment := NoqaComment.find? text
  let stop := units16 text
  if all then
    let start := (comment.map fun c => units16 c.before).getD stop
    return ⟨.inLine line start stop, " -- noqa"⟩
  else return ⟨.inLine line stop stop, noqaAddition comment rule⟩

end SqlLint
