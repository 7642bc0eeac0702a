import Mathlib.Data.List.Basic
import SqlLint.Document.Basic

/-!
# Characters and UTF-16 columns

The columns of a text grow with its characters and the other way round (`charsBefore_le_iff`).  A column
at which a character begins leads back to it (`charsBefore_units16`).  So do the columns of a line of a document,
and a document whose lines are not too wide has columns that fit in 32 bits (`Document.IsNarrow`).
-/

namespace SqlLint

namespace Text

variable {l xs ys : List Char} {i j k u : Nat}

theorem units16_le_of_isPrefix (h : xs <+: ys) : units16 xs ≤ units16 ys := by
  obtain ⟨rest, rfl⟩ := h
  rw [units16_append]
  exact Nat.le_add_right _ _

theorem units16_take_mono (cs : List Char) (h : i ≤ j) :
    units16 (cs.take i) ≤ units16 (cs.take j) :=
  units16_le_of_isPrefix (List.take_prefix_take_left h)

theorem units16_take_le (cs : List Char) (k : Nat) : units16 (cs.take k) ≤ units16 cs :=
  units16_le_of_isPrefix (List.take_prefix k cs)

/-- The characters before a UTF-16 column are the fewest whose units reach it, or all there are. -/
theorem charsBefore_le_iff :
    charsBefore l u ≤ i ↔ u ≤ units16 (l.take i) ∨ l.length ≤ i := by
  induction l generalizing u i with
  | nil => simp [charsBefore]
  | cons c cs ih =>
    rw [charsBefore]
    by_cases start : u = 0
    · rw [if_pos start, start]
      exact iff_of_true (Nat.zero_le _) (.inl (Nat.zero_le _))
    · rw [if_neg start]
      cases i with
      | zero => simp [start]
      | succ i =>
        rw [Nat.add_le_add_iff_right, ih, List.take_succ_cons, units16_cons, List.length_cons,
          Nat.add_le_add_iff_right, Nat.sub_le_iff_le_add']

theorem charsBefore_mono (cs : List Char) (h : i ≤ j) : charsBefore cs i ≤ charsBefore cs j :=
  charsBefore_le_iff.2 ((charsBefore_le_iff.1 (Nat.le_refl _)).imp_left (Nat.le_trans h))

/-- The column at which the rest of a text begins comes after all that stands before the rest. -/
theorem charsBefore_units16 (xs ys : List Char) :
    charsBefore (xs ++ ys) (units16 xs) = xs.length := by
  induction xs with
  | nil => exact charsBefore_zero ys
  | cons c xs ih =>
    have wide := charUnits_pos c
    rw [List.cons_append, units16_cons, charsBefore, if_neg (by omega), Nat.add_sub_cancel_left, ih,
      List.length_cons]

end Text

open Text

namespace Document

variable {d : Document} {l : List Char} {line i j : Nat}

/-- No line is wider than a 32-bit column can say. -/
def IsNarrow (d : Document) : Prop := ∀ l ∈ d.lines, units16 l < UInt32.size

theorem utf16Column_of_line (h : d.line? line = some l) (i : Nat) :
    d.utf16Column line i = units16 (l.take i) := by
  rw [utf16Column, h]

theorem charColumn_of_line (h : d.line? line = some l) (u : Nat) :
    d.charColumn line u = charsBefore l u := by
  rw [charColumn, h]

theorem utf16Column_of_none (h : d.line? line = none) (i : Nat) : d.utf16Column line i = i := by
  rw [utf16Column, h]

theorem utf16Column_mono (d : Document) (line : Nat) (h : i ≤ j) :
    d.utf16Column line i ≤ d.utf16Column line j := by
  cases hl : d.line? line with
  | none => rwa [utf16Column_of_none hl, utf16Column_of_none hl]
  | some l =>
    rw [utf16Column_of_line hl, utf16Column_of_line hl]
    exact units16_take_mono l h

theorem utf16Column_le (h : d.line? line = some l) (i : Nat) :
    d.utf16Column line i ≤ units16 l := by
  rw [utf16Column_of_line h]
  exact units16_take_le l i

theorem units16_lt_of_line? (narrow : d.IsNarrow) (h : d.line? line = some l) :
    units16 l < UInt32.size :=
  narrow l (List.mem_of_getElem? h)

end Document

end SqlLint
