import SqlLint.Text.Digit
import SqlLint.Text.Lines

/-!
# Ranges of characters

A property of characters that a standard lists is a list of ranges.  Such a list is written as a
text of words: `41-5A` is the range between two hexadecimal numbers, `100/12E` has every other
character of the range and `AA` a single one.  `CharRange.table` reads the words and
`CharRange.contains` looks a character up.
-/

namespace SqlLint.Text

/-- The characters from the first to the last one by steps. -/
structure CharRange where
  first : Nat
  last : Nat
  step : Nat := 1
  deriving DecidableEq, Repr

namespace CharRange

/-- The character belongs to the range. -/
def has (r : CharRange) (c : Char) : Bool :=
  r.first ≤ c.toNat && c.toNat ≤ r.last && (c.toNat - r.first) % r.step == 0

/-- The range that a word writes. -/
def ofWord (word : List Char) : CharRange :=
  match cutAt ['-'] word with
  | some (first, last) => ⟨hexNumber first, hexNumber last, 1⟩
  | none =>
    match cutAt ['/'] word with
    | some (first, last) => ⟨hexNumber first, hexNumber last, 2⟩
    | none => ⟨hexNumber word, hexNumber word, 1⟩

/-- The words of a table. -/
def words (s : String) : List (List Char) :=
  (pieces (fun c => c == ' ' || c == '\n') s.toList).filter (· ≠ [])

/-- The ranges that a text lists. -/
def table (s : String) : List CharRange := (words s).map ofWord

/-- The character belongs to one of the ranges. -/
def contains (ranges : List CharRange) (c : Char) : Bool := ranges.any (·.has c)

end CharRange

end SqlLint.Text
