import SqlLint.Text.Composite
import SqlLint.Text.Mark

/-!
# Normal form C

The same letters with the same marks have one normal form, which `normalize` gives: the marks of
every character are taken from it, put in the order of their classes and put back as far as they
go.  Characters that take the place of another one, and so never come out of `composed?`, have to be
replaced beforehand.
-/

namespace SqlLint.Text

/-- A character taken apart, at most `n` times. -/
def decompose : Nat → Char → List Char
  | 0, c => [c]
  | n + 1, c =>
    match parts? c with
    | none => [c]
    | some (base, mark) => decompose n base ++ [mark]

/-- A character holds at most three others. -/
def maxParts : Nat := 3

/-- A mark in front of marks that are in order, moved behind those of lower classes. -/
def placeMark (c : Char) : List Char → List Char
  | [] => [c]
  | d :: ds =>
    if 0 < combiningClass d ∧ combiningClass d < combiningClass c then d :: placeMark c ds
    else c :: d :: ds

/-- The marks of every character in the order of their classes. -/
def orderMarks : List Char → List Char
  | [] => []
  | c :: cs => placeMark c (orderMarks cs)

/-- A base with marks that stay as they are, followed by more characters: a mark goes on the base
unless one of its class or a higher one is before it. -/
def compose (base : Char) (marks : List Char) : List Char → List Char
  | [] => base :: marks
  | c :: cs =>
    let isNear := marks.getLast?.all fun m => combiningClass m < combiningClass c
    match if isNear then composed? base c else none with
    | some whole => compose whole marks cs
    | none =>
      if combiningClass c = 0 then base :: marks ++ compose c [] cs
      else compose base (marks ++ [c]) cs

/-- A text with the marks put back on the characters before them; marks at its start have none. -/
def composeAll (cs : List Char) : List Char :=
  let lonely := cs.takeWhile fun c => combiningClass c ≠ 0
  lonely ++ match cs.drop lonely.length with
    | [] => []
    | base :: rest => compose base [] rest

/-- The normal form of a text. -/
def normalize (cs : List Char) : List Char :=
  composeAll (orderMarks (cs.flatMap (decompose maxParts)))

end SqlLint.Text
