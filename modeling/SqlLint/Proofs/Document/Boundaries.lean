import Mathlib.Order.Bounds.Basic
import SqlLint.Proofs.Document.Walking

/-!
# Boundaries between characters

A boundary of a line is a UTF-16 column at which a character begins or the line ends (`IsBoundary`).
The conversions of columns are tied to each other by one law: the character column of a UTF-16 column is
the first one that does not lie before it (`charsBefore_le_iff`).  So a character column leads to its
boundary and back, and a UTF-16 column leads to the next boundary (`Document.hasColumns`).

Both conversions count in 32 bits (`addUnits?`, `countChars?`).  A count fails only if the boundary
that it leads to is too wide for them.
-/

namespace SqlLint

namespace Text

variable {cs l : List Char} {column i u v units chars : Nat}

/-- A UTF-16 column of a line at which a character begins or the line ends. -/
def IsBoundary (l : List Char) (u : Nat) : Prop := ∃ xs, xs <+: l ∧ units16 xs = u

/-- The second column is the first boundary that is not before the first column, or the width of the
line if all boundaries are. -/
def LeadsTo (l : List Char) (u v : Nat) : Prop :=
  IsLeast {b | IsBoundary l b ∧ u ≤ b} v ∨ (∀ b, IsBoundary l b → b < u) ∧ v = units16 l

/-- The units of a text added to others, none if there are too many to be counted. -/
def addUnits? : List Char → Nat → Option Nat
  | [], units => some units
  | c :: cs, units =>
    if units + charUnits c < UInt32.size then addUnits? cs (units + charUnits c) else none

/-- The characters that begin before a column, counted after others with their units; none if there are
too many of either to be counted. -/
def countChars? (column : Nat) : List Char → Nat → Nat → Option Nat
  | [], _, chars => some chars
  | c :: cs, units, chars =>
    if column ≤ units then some chars
    else if units + charUnits c < UInt32.size ∧ chars + 1 < UInt32.size then
      countChars? column cs (units + charUnits c) (chars + 1)
    else none

/-! ## Columns in order -/

theorem charsBefore_units16_take (l : List Char) (i : Nat) :
    charsBefore l (units16 (l.take i)) = min i l.length := by
  have back := charsBefore_units16 (l.take i) (l.drop i)
  rwa [List.take_append_drop, List.length_take] at back

theorem isBoundary_take (l : List Char) (i : Nat) : IsBoundary l (units16 (l.take i)) :=
  ⟨_, List.take_prefix i l, rfl⟩

theorem IsBoundary.le_units16 (h : IsBoundary l u) : u ≤ units16 l := by
  obtain ⟨xs, hxs, rfl⟩ := h
  exact units16_le_of_isPrefix hxs

/-- A boundary that is not before a column is not before the one that the column leads to. -/
theorem units16_take_charsBefore_le_boundary (h : IsBoundary l v) (le : u ≤ v) :
    units16 (l.take (charsBefore l u)) ≤ v := by
  obtain ⟨xs, hxs, rfl⟩ := h
  have upTo : l.take xs.length = xs := (List.prefix_iff_eq_take.1 hxs).symm
  have few : charsBefore l u ≤ xs.length := charsBefore_le_iff.2 (.inl (upTo.symm ▸ le))
  calc units16 (l.take (charsBefore l u)) ≤ units16 (l.take xs.length) := units16_take_mono l few
    _ = units16 xs := by rw [upTo]

theorem leadsTo_charsBefore (l : List Char) (u : Nat) :
    LeadsTo l u (units16 (l.take (charsBefore l u))) := by
  -- Either the units of the characters before the column reach it, or these are all characters.
  have reach : u ≤ units16 (l.take (charsBefore l u)) ∨ l.length ≤ charsBefore l u :=
    charsBefore_le_iff.1 (Nat.le_refl _)
  by_cases inside : u ≤ units16 l
  · have le : u ≤ units16 (l.take (charsBefore l u)) := by
      obtain le | all := reach
      · exact le
      · rwa [List.take_of_length_le all]
    exact .inl ⟨⟨isBoundary_take _ _, le⟩, fun b hb =>
      units16_take_charsBefore_le_boundary hb.1 hb.2⟩
  · refine .inr ⟨fun b hb => hb.le_units16.trans_lt (Nat.not_le.1 inside), ?_⟩
    obtain le | all := reach
    · exact absurd (le.trans (units16_take_le _ _)) inside
    · rw [List.take_of_length_le all]

theorem LeadsTo.eq_of_isBoundary (h : LeadsTo l u v) (boundary : IsBoundary l u) : v = u := by
  obtain least | ⟨all, -⟩ := h
  · exact least.unique ⟨⟨boundary, Nat.le_refl u⟩, fun b hb => hb.2⟩
  · exact absurd (all u boundary) (Nat.lt_irrefl u)

/-! ## Counting in 32 bits -/

theorem addUnits?_eq (fits : units < UInt32.size) :
    addUnits? cs units =
      if units + units16 cs < UInt32.size then some (units + units16 cs) else none := by
  induction cs generalizing units with
  | nil => rw [addUnits?, units16_nil, Nat.add_zero, if_pos fits]
  | cons c cs ih =>
    rw [addUnits?, units16_cons, ← Nat.add_assoc]
    by_cases more : units + charUnits c < UInt32.size
    · rw [if_pos more, ih more]
    · rw [if_neg more, if_neg (by omega)]

/-- The characters are never more than the units that are counted with them. -/
theorem countChars?_eq (few : chars ≤ units) (fits : units < UInt32.size) :
    countChars? column cs units chars =
      if units + units16 (cs.take (charsBefore cs (column - units))) < UInt32.size then
        some (chars + charsBefore cs (column - units))
      else none := by
  induction cs generalizing units chars with
  | nil => rw [countChars?, List.take_nil, units16_nil, Nat.add_zero, if_pos fits]; rfl
  | cons c cs ih =>
    rw [countChars?]
    by_cases there : column ≤ units
    · rw [if_pos there, Nat.sub_eq_zero_of_le there, charsBefore_zero, List.take_zero, units16_nil,
        Nat.add_zero, if_pos fits, Nat.add_zero]
    · have further : charsBefore (c :: cs) (column - units) =
          charsBefore cs (column - (units + charUnits c)) + 1 := by
        rw [charsBefore, if_neg (by omega), Nat.sub_sub]
      have wide := charUnits_pos c
      rw [if_neg there, further, List.take_succ_cons, units16_cons, ← Nat.add_assoc,
        Nat.add_comm (charsBefore cs _) 1, ← Nat.add_assoc]
      by_cases more : units + charUnits c < UInt32.size
      · rw [if_pos ⟨more, by omega⟩, ih (by omega) more]
      · rw [if_neg fun both => more both.1, if_neg (by omega)]

end Text

open Text

namespace Document

variable {d : Document} {line : Nat} {l : List Char}

/-- The UTF-16 column of a character column, as it is counted. -/
def utf16Column? (d : Document) (line column : Nat) : Option Nat :=
  match d.line? line with
  | some text => addUnits? (text.take column) 0
  | none => some column

/-- The character column of a UTF-16 column, as it is counted. -/
def charColumn? (d : Document) (line column : Nat) : Option Nat :=
  match d.line? line with
  | some text => countChars? column text 0 0
  | none => some column

/-- The conversions of the columns of a line take one back to where the other comes from. -/
structure HasColumns (d : Document) (line : Nat) (l : List Char) : Prop where
  charColumn_utf16Column : ∀ i, d.charColumn line (d.utf16Column line i) = min i l.length
  leadsTo : ∀ u, LeadsTo l u (d.utf16Column line (d.charColumn line u))
  boundary : ∀ u, IsBoundary l u → d.utf16Column line (d.charColumn line u) = u
  utf16Column_monotone : Monotone (d.utf16Column line)
  charColumn_monotone : Monotone (d.charColumn line)
  utf16Column?_eq : ∀ i, d.utf16Column? line i =
    if d.utf16Column line i < UInt32.size then some (d.utf16Column line i) else none
  charColumn?_eq : ∀ u, d.charColumn? line u =
    if d.utf16Column line (d.charColumn line u) < UInt32.size then some (d.charColumn line u)
    else none

/-- On a line, a character column leads to a boundary and back, at most to the end of the line, and a
UTF-16 column to a character and back to the next boundary; both keep the order of columns, and the
counts are right whenever they fit. -/
theorem hasColumns (h : d.line? line = some l) : d.HasColumns line l where
  charColumn_utf16Column i := by
    rw [utf16Column_of_line h, charColumn_of_line h, charsBefore_units16_take]
  leadsTo u := by
    rw [utf16Column_of_line h, charColumn_of_line h]
    exact leadsTo_charsBefore l u
  boundary u hu := by
    rw [utf16Column_of_line h, charColumn_of_line h]
    exact (leadsTo_charsBefore l u).eq_of_isBoundary hu
  utf16Column_monotone _ _ le := d.utf16Column_mono line le
  charColumn_monotone i j le := by
    rw [charColumn_of_line h, charColumn_of_line h]
    exact charsBefore_mono l le
  utf16Column?_eq i := by
    rw [utf16Column_of_line h, utf16Column?, h]
    have counted : addUnits? (l.take i) 0 = _ := addUnits?_eq (by decide)
    rw [Nat.zero_add] at counted
    exact counted
  charColumn?_eq u := by
    rw [utf16Column_of_line h, charColumn_of_line h, charColumn?, h]
    have counted : countChars? u l 0 0 = _ := countChars?_eq (Nat.le_refl 0) (by decide)
    rw [Nat.zero_add, Nat.zero_add, Nat.sub_zero] at counted
    exact counted

/-- A document whose second line has a character of two units between others. -/
def paired : Document := ⟨default, "sql", 1, "select\r\n'😀'\r\n", false⟩

/-- The column between the two units leads to the end of the character. -/
theorem hasColumns_paired :
    paired.line? 1 = some ['\'', '😀', '\''] ∧ paired.HasColumns 1 ['\'', '😀', '\''] ∧
      paired.utf16Column 1 (paired.charColumn 1 2) = 3 :=
  ⟨by decide +kernel, hasColumns (by decide +kernel), by decide +kernel⟩

end Document

end SqlLint
