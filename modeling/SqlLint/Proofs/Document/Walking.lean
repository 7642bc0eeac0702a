import SqlLint.Proofs.Document.Columns
import SqlLint.Proofs.Document.LineEnds

/-!
# Walking to a position

The byte offset of a position is found by a walk through the text: over the lines above it, each with
its line feed, and then over the characters of its line, as long as their UTF-16 units are fewer than the
column asks for.  The units are counted in 32 bits.  The walk ends at `Document.byteOffsetAt`
(`Document.walk?_eq_some`), unless the count does not fit, which takes the last column of all and a
line as wide as that.
-/

namespace SqlLint

namespace Text

variable {cs l xs : List Char} {line column units offset size : Nat}

/-- The lines of a text, each with the line feed that ends it; nothing comes after the last one. -/
def fedLines : List Char → List (List Char)
  | [] => []
  | c :: cs =>
    if isLineFeed c then [c] :: fedLines cs
    else match fedLines cs with
      | [] => [[c]]
      | l :: ls => (c :: l) :: ls

/-- The byte offset of a column of a line, none if the units on the way are too many to be counted. -/
def walkLine? (column : Nat) : List Char → Nat → Nat → Option Nat
  | [], _, offset => some offset
  | c :: cs, units, offset =>
    if column ≤ units then some offset
    else if units + charUnits c < UInt32.size then
      walkLine? column cs (units + charUnits c) (offset + c.utf8Size)
    else none

/-- The byte offset of a position, beginning at an offset and a line; that of a line after the last one is
the size of the text. -/
def walk? (size column : Nat) : List (List Char) → Nat → Nat → Option Nat
  | [], _, _ => some size
  | l :: _, 0, offset => walkLine? column (lineContent l) 0 offset
  | l :: ls, line + 1, offset => walk? size column ls line (offset + utf8Size l)

/-! ## The units of a column -/

/-- The units that are counted to find a column of a line. -/
def unitsCounted (l : List Char) (column : Nat) : Nat :=
  units16 ((lineContent l).take (charsBefore (lineContent l) column))

theorem units16_take_charsBefore_le (cs : List Char) (column : Nat) :
    units16 (cs.take (charsBefore cs column)) ≤ column + 1 := by
  induction cs generalizing column with
  | nil => exact Nat.zero_le _
  | cons c cs ih =>
    rw [charsBefore]
    split
    · exact Nat.zero_le _
    · have wide : charUnits c ≤ 2 := by
        unfold charUnits
        split <;> omega
      rw [List.take_succ_cons, units16_cons]
      by_cases last : column ≤ charUnits c
      · rw [Nat.sub_eq_zero_of_le last, charsBefore_zero, List.take_zero, units16_nil]
        omega
      · have rest := ih (column - charUnits c)
        omega

theorem unitsCounted_le_units16 (l : List Char) (column : Nat) :
    unitsCounted l column ≤ units16 (stripReturn l) :=
  (units16_take_le _ _).trans (units16_lineContent_le l)

/-! ## Lines -/

theorem fedLines_of_feedless (feedless : ∀ c ∈ xs, isLineFeed c = false) :
    fedLines xs = if xs = [] then [] else [xs] := by
  induction xs with
  | nil => rfl
  | cons c xs ih =>
    obtain ⟨hc, rest⟩ := List.forall_mem_cons.1 feedless
    rw [fedLines, hc, ih rest]
    cases xs <;> rfl

theorem fedLines_append_lineFeed (feedless : ∀ c ∈ xs, isLineFeed c = false) (cs : List Char) :
    fedLines (xs ++ '\n' :: cs) = (xs ++ ['\n']) :: fedLines cs := by
  induction xs with
  | nil => rfl
  | cons c xs ih =>
    obtain ⟨hc, rest⟩ := List.forall_mem_cons.1 feedless
    rw [List.cons_append, fedLines, hc, ih rest]
    rfl

theorem take_lineContent {k : Nat} (h : k ≤ (lineContent l).length) :
    (lineContent l).take k = l.take k := by
  obtain ⟨ends, whole⟩ := prefix_lineContent l
  conv_rhs => rw [← whole]
  exact (List.take_append_of_le_length h).symm

/-! ## The walk -/

theorem walkLine?_eq_some
    (fits : units + units16 (cs.take (charsBefore cs (column - units))) < UInt32.size) :
    walkLine? column cs units offset =
      some (offset + utf8Size (cs.take (charsBefore cs (column - units)))) := by
  induction cs generalizing units offset with
  | nil => rfl
  | cons c cs ih =>
    rw [walkLine?]
    by_cases there : column ≤ units
    · rw [if_pos there, Nat.sub_eq_zero_of_le there, charsBefore_zero]
      rfl
    · have further : charsBefore (c :: cs) (column - units) =
          charsBefore cs (column - (units + charUnits c)) + 1 := by
        rw [charsBefore, if_neg (by omega), Nat.sub_sub]
      rw [further, List.take_succ_cons, units16_cons, ← Nat.add_assoc] at fits
      rw [if_neg there, if_pos (by omega), ih fits, further, List.take_succ_cons, utf8Size,
        Nat.add_assoc]

theorem walkLine?_lineContent (fits : unitsCounted l column < UInt32.size) (offset : Nat) :
    walkLine? column (lineContent l) 0 offset =
      some (offset + utf8Size (l.take (charsBefore (lineContent l) column))) := by
  rw [walkLine?_eq_some (by simpa [unitsCounted] using fits), Nat.sub_zero,
    take_lineContent (charsBefore_le_length _ _)]

theorem walk?_eq_some (whole : size = offset + utf8Size cs)
    (fits : ∀ l ∈ pieces isLineFeed cs, unitsCounted l column < UInt32.size) :
    walk? size column (fedLines cs) line offset =
      some (offset + utf8Size (cs.take (offsetAt cs ⟨line, column⟩))) := by
  -- The text is walked line by line; `offset` is what the lines above take.
  induction cs using cut_induction isLineFeed generalizing line offset with
  | whole cs feedless =>
    have alone : pieces isLineFeed cs = [cs] := pieces_of_none feedless
    by_cases empty : cs = []
    · subst empty
      rw [offsetAt_nil, whole]
      rfl
    · rw [fedLines_of_feedless feedless, if_neg empty]
      cases line with
      | zero =>
        rw [walk?, walkLine?_lineContent (fits cs (by simp [alone])), offsetAt_zero, alone,
          List.headD_cons]
      | succ line =>
        rw [walk?, walk?, offsetAt_of_length_le (by simp [alone]), List.take_length, whole]
  | cut first c rest feedless hc ih =>
    obtain rfl : c = '\n' := by simpa [isLineFeed] using hc
    have lines : pieces isLineFeed (first ++ '\n' :: rest) = first :: pieces isLineFeed rest := by
      rw [pieces_append_cons hc, pieces_of_none feedless]
      rfl
    rw [fedLines_append_lineFeed feedless]
    cases line with
    | zero =>
      have upTo : charsBefore (lineContent first) column ≤ first.length :=
        (charsBefore_le_length _ _).trans (prefix_lineContent first).length_le
      have content : lineContent (first ++ ['\n']) = lineContent first :=
        lineContent_append (by simp [isTerminator])
      have counted : unitsCounted (first ++ ['\n']) column < UInt32.size := by
        rw [unitsCounted, content]
        exact fits first (lines ▸ List.mem_cons_self)
      rw [walk?, walkLine?_lineContent counted, content, offsetAt_zero, lines, List.headD_cons,
        List.take_append_of_le_length upTo, List.take_append_of_le_length upTo]
    | succ line =>
      have split : first ++ '\n' :: rest = first ++ ['\n'] ++ rest := by simp
      have below : size = offset + utf8Size (first ++ ['\n']) + utf8Size rest := by
        rw [whole, split, utf8Size_append (first ++ ['\n']), Nat.add_assoc]
      have upTo (k : Nat) : (first ++ '\n' :: rest).take (first.length + 1 + k) =
          first ++ ['\n'] ++ rest.take k := by
        have long : first.length + 1 = (first ++ ['\n']).length := by simp
        rw [split, long, List.take_length_add_append]
      rw [walk?, ih below fun l hl => fits l (lines ▸ List.mem_cons_of_mem _ hl),
        offsetAt_append_lineFeed feedless, upTo, utf8Size_append (first ++ ['\n']), Nat.add_assoc]

end Text

open Text

namespace Document

variable {d : Document} {p : Position}

/-- The byte offset of a position, as the text is walked through. -/
def walk? (d : Document) (p : Position) : Option Nat :=
  Text.walk? d.text.utf8ByteSize p.character (fedLines d.chars) p.line 0

theorem walk?_eq_some (fits : d.IsNarrow ∨ p.character + 1 < UInt32.size) :
    d.walk? p = some (d.byteOffsetAt p) := by
  have bounded : ∀ l ∈ pieces isLineFeed d.chars, unitsCounted l p.character < UInt32.size := by
    intro l hl
    obtain narrow | bound := fits
    · exact (unitsCounted_le_units16 l _).trans_lt (narrow _ (List.mem_map_of_mem hl))
    · exact (units16_take_charsBefore_le _ _).trans_lt bound
  have whole : d.text.utf8ByteSize = 0 + utf8Size d.chars := by
    rw [utf8ByteSize_eq, Nat.zero_add]
    rfl
  rw [walk?, Text.walk?_eq_some whole bounded, Nat.zero_add]
  rfl

end Document

end SqlLint
