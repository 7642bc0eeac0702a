/-!
# Pieces and lines

`pieces p` cuts a text at every character that satisfies `p` and drops those characters; a text
with `n` of them has `n + 1` pieces.  `fixLines` cuts at `\r\n`, at a lone `\r` and at `\n`, and
`join` puts a separator between texts.
-/

namespace SqlLint.Text

/-- The parts between the members that satisfy `p`. -/
def pieces {α : Type} (p : α → Bool) : List α → List (List α)
  | [] => [[]]
  | c :: cs =>
    if p c then [] :: pieces p cs
    else match pieces p cs with
      | [] => [[c]]
      | l :: ls => (c :: l) :: ls

theorem pieces_ne_nil {α : Type} (p : α → Bool) (cs : List α) : pieces p cs ≠ [] := by
  cases cs with
  | nil => simp [pieces]
  | cons c cs =>
    simp only [pieces]
    split
    · simp
    · split <;> simp

/-- A line feed. -/
def isLineFeed (c : Char) : Bool := c == '\n'

/-- A line feed or a carriage return. -/
def isTerminator (c : Char) : Bool := c == '\n' || c == '\r'

/-- The line without one carriage return at its end. -/
def stripReturn (line : List Char) : List Char :=
  if line.getLast? = some '\r' then line.dropLast else line

/-- The lines of a text that end at line feeds, each without its line feed and without the
carriage return before it.  A line feed at the end of the text begins an empty last line. -/
def lines (cs : List Char) : List (List Char) := (pieces isLineFeed cs).map stripReturn

/-- The lines of a text that end at `\r\n`, at a lone `\r` or at `\n`. -/
def anyLines : List Char → List (List Char)
  | [] => [[]]
  | '\r' :: '\n' :: cs => [] :: anyLines cs
  | c :: cs =>
    if isTerminator c then [] :: anyLines cs
    else match anyLines cs with
      | [] => [[c]]
      | l :: ls => (c :: l) :: ls

theorem anyLines_ne_nil (cs : List Char) : anyLines cs ≠ [] := by
  fun_cases anyLines cs <;> simp_all

theorem anyLines_return {rest : List Char} (h : rest.head? ≠ some '\n') :
    anyLines ('\r' :: rest) = [] :: anyLines rest := by
  rw [anyLines, if_pos (by decide)]
  rintro cs - rfl
  exact h rfl

theorem anyLines_lineFeed (rest : List Char) : anyLines ('\n' :: rest) = [] :: anyLines rest := by
  rw [anyLines, if_pos (by decide)]
  rintro _ ⟨⟩

theorem anyLines_cons {c : Char} (hc : isTerminator c = false) (cs : List Char) :
    anyLines (c :: cs) = (anyLines cs).modifyHead (c :: ·) := by
  obtain ⟨l, ls, hl⟩ := List.exists_cons_of_ne_nil (anyLines_ne_nil cs)
  rw [anyLines]
  · simp [hc, hl]
  · rintro _ rfl
    cases hc

/-- The texts with a separator between neighbours. -/
def join (separator : List Char) : List (List Char) → List Char
  | [] => []
  | [l] => l
  | l :: ls => l ++ separator ++ join separator ls

/-- The strings with a separator between neighbours. -/
def joinStrings (separator : String) (texts : List String) : String := separator.intercalate texts

/-- The first place at which `needle` stands in a text: what is before it and what follows it. -/
def cutAt (needle : List Char) : List Char → Option (List Char × List Char)
  | [] => if needle = [] then some ([], []) else none
  | c :: cs =>
    if needle.isPrefixOf (c :: cs) then some ([], (c :: cs).drop needle.length)
    else (cutAt needle cs).map fun (before, after) => (c :: before, after)

/-- The text holds `needle`. -/
def holds (needle : String) (text : String) : Bool := (cutAt needle.toList text.toList).isSome

theorem join_pieces (c : Char) (cs : List Char) : join [c] (pieces (· == c) cs) = cs := by
  induction cs with
  | nil => rfl
  | cons d cs ih =>
    simp only [pieces]
    by_cases h : d = c
    · subst h
      cases hp : pieces (· == d) cs with
      | nil => exact absurd hp (pieces_ne_nil _ _)
      | cons l ls =>
        rw [hp] at ih
        simp [join, ih]
    · simp only [beq_iff_eq, h, if_false]
      cases hp : pieces (· == c) cs with
      | nil => exact absurd hp (pieces_ne_nil _ _)
      | cons l ls =>
        rw [hp] at ih
        cases ls with
        | nil => simpa [join] using ih
        | cons m ms => simpa [join] using ih

end SqlLint.Text
