import SqlLint.Proofs.Report.Ranges

/-!
# Words that columns point at

A column points at the word character that stands there, or else at the one directly before it
(`PointsAt`).  The word at the column is the whole word around that character, and it does not
depend on where in the word one points, its end included (`wordAt?_of_isWholeWord`).  So every
UTF-16 column from the start of a range to its stop leads back to the same range, also a column
between the two units of a character.
-/

namespace SqlLint

namespace Text

variable {l before word after xs ys : List Char} {column i u : Nat}

/-- A column points at the word character with an index: the one there, or else the one directly
before. -/
def PointsAt (l : List Char) (column i : Nat) : Prop :=
  (∃ c, l[i]? = some c ∧ isWordChar c = true) ∧
    (i = column ∨ i + 1 = column ∧ ∀ c, l[column]? = some c → isWordChar c = false)

theorem touchesWord_iff_exists_pointsAt :
    TouchesWord l column ↔ ∃ i, PointsAt l column i := by
  constructor
  · rintro ⟨i, c, hc, isWord, rfl | directly⟩
    · exact ⟨i, ⟨c, hc, isWord⟩, .inl rfl⟩
    · by_cases here : ∃ e, l[column]? = some e ∧ isWordChar e = true
      · exact ⟨column, here, .inl rfl⟩
      · refine ⟨i, ⟨c, hc, isWord⟩, .inr ⟨directly, fun e he => ?_⟩⟩
        exact Bool.eq_false_iff.2 fun isWord => here ⟨e, he, isWord⟩
  · rintro ⟨i, ⟨c, hc, isWord⟩, rfl | ⟨directly, -⟩⟩
    · exact ⟨i, c, hc, isWord, .inl rfl⟩
    · exact ⟨i, c, hc, isWord, .inr directly⟩

namespace IsWholeWord

/-- What a column in a word or at its end points at is in the word. -/
theorem pointsAt (whole : IsWholeWord before word after) (first : before.length ≤ column)
    (last : column ≤ (before ++ word).length)
    (points : PointsAt (before ++ word ++ after) column i) :
    before.length ≤ i ∧ i < (before ++ word).length := by
  obtain ⟨⟨c, hc, isWord⟩, rfl | ⟨directly, noWord⟩⟩ := points
  · -- The end of the word holds no word character, so that the column comes before it.
    refine ⟨first, Nat.lt_of_le_of_ne last ?_⟩
    rintro rfl
    rw [getElem?_append_length] at hc
    rw [whole.right c hc] at isWord
    cases isWord
  · -- The word begins with a word character, so that the column comes after its beginning.
    have later : column ≠ before.length := by
      rintro rfl
      obtain ⟨e, rest, rfl⟩ := List.exists_cons_of_ne_nil whole.ne_nil
      have here : (before ++ e :: rest ++ after)[before.length]? = some e := by
        rw [List.append_assoc, getElem?_append_length]
        rfl
      have isWord := whole.isWordChar e List.mem_cons_self
      rw [noWord e here] at isWord
      cases isWord
    omega

end IsWholeWord

theorem rtakeWhile_of_isWholeWord (whole : IsWholeWord before (xs ++ ys) after) :
    (before ++ xs).rtakeWhile isWordChar = xs := by
  have outside : before.rtakeWhile isWordChar = [] := by
    refine not_not.1 (mt rtakeWhile_ne_nil.1 ?_)
    rintro ⟨c, hc, isWord⟩
    rw [whole.left c hc] at isWord
    cases isWord
  have inside : ∀ c ∈ xs.reverse, isWordChar c = true := fun c hc =>
    whole.isWordChar c (List.mem_append_left _ (List.mem_reverse.1 hc))
  rw [List.rtakeWhile, List.reverse_append, List.takeWhile_append_of_pos inside,
    List.reverse_append, List.reverse_reverse, ← List.rtakeWhile, outside, List.nil_append]

theorem takeWhile_of_isWholeWord (whole : IsWholeWord before (xs ++ ys) after) :
    (ys ++ after).takeWhile isWordChar = ys := by
  have outside : after.takeWhile isWordChar = [] := by
    refine not_not.1 (mt takeWhile_ne_nil.1 ?_)
    rintro ⟨c, hc, isWord⟩
    rw [whole.right c hc] at isWord
    cases isWord
  rw [List.takeWhile_append_of_pos fun c hc => whole.isWordChar c (List.mem_append_right _ hc),
    outside, List.append_nil]

/-- The word at any column of a whole word, or at its end, is that word. -/
theorem wordAt?_of_isWholeWord (whole : IsWholeWord before word after)
    (first : before.length ≤ column) (last : column ≤ (before ++ word).length) :
    wordAt? (before ++ word ++ after) column =
      some (units16 before, units16 (before ++ word)) := by
  rw [List.length_append] at last
  obtain ⟨xs, ys, rfl, rfl⟩ : ∃ xs ys, word = xs ++ ys ∧ column = (before ++ xs).length :=
    ⟨word.take (column - before.length), word.drop (column - before.length),
      (List.take_append_drop _ _).symm, by rw [List.length_append, List.length_take]; omega⟩
  have cut : before ++ (xs ++ ys) ++ after = before ++ xs ++ (ys ++ after) := by
    simp only [List.append_assoc]
  have kept : (before ++ xs).rdropWhile isWordChar = before := by
    have split := List.rdropWhile_append_rtakeWhile (p := isWordChar) (l := before ++ xs)
    rw [rtakeWhile_of_isWholeWord whole] at split
    exact List.append_cancel_right split
  rw [cut, wordAt?_append, rtakeWhile_of_isWholeWord whole, takeWhile_of_isWholeWord whole,
    if_neg whole.ne_nil, kept, List.append_assoc]

/-- A UTF-16 column from the start of a part of a line to its end leads into the part, or to its
end. -/
theorem charsBefore_mem (after : List Char) (low : units16 before ≤ u)
    (high : u ≤ units16 (before ++ word)) :
    before.length ≤ charsBefore (before ++ word ++ after) u ∧
      charsBefore (before ++ word ++ after) u ≤ (before ++ word).length := by
  have start := charsBefore_mono (before ++ word ++ after) low
  have stop := charsBefore_mono (before ++ word ++ after) high
  rw [charsBefore_units16] at stop
  rw [List.append_assoc, charsBefore_units16] at start
  exact ⟨List.append_assoc .. ▸ start, stop⟩

end Text

open Text

namespace Document

variable {d : Document} {line column : Nat} {r : Range}

/-- A range is the whole word of a line around the character that a column points at. -/
structure IsWordAt (d : Document) (line column : Nat) (r : Range) : Prop where
  whole : ∃ before word after i, d.line? line = some (before ++ word ++ after) ∧
    IsWholeWord before word after ∧ PointsAt (before ++ word ++ after) column i ∧
    before.length ≤ i ∧ i < (before ++ word).length ∧
    r = .inLine line (units16 before) (units16 (before ++ word))
  reaches : r.reaches (d.positionAtChar line column) = true
  fits : d.IsNarrow → line < UInt32.size → r.start.Fits ∧ r.stop.Fits

/-- What the words at the columns of a document are like. -/
structure HasWords (d : Document) : Prop where
  isSome_iff : ∀ line column, (d.wordAt? line column).isSome = true ↔
    ∃ l i, d.line? line = some l ∧ PointsAt l column i
  isWordAt : ∀ line column r, d.wordAt? line column = some r → d.IsWordAt line column r
  stays : ∀ line column r, d.wordAt? line column = some r →
    ∀ u, r.start.character ≤ u → u ≤ r.stop.character → d.wordAtPosition? ⟨line, u⟩ = some r

theorem wordAt?_of_line {l : List Char} (h : d.line? line = some l) (column : Nat) :
    d.wordAt? line column =
      (Text.wordAt? l column).map fun (start, stop) => .inLine line start stop := by
  rw [wordAt?, h, Option.bind_eq_bind, Option.bind_some]
  cases Text.wordAt? l column <;> rfl

/-- The word at a column is the whole word that the column reaches. -/
theorem wordAt?_eq_some (h : d.wordAt? line column = some r) :
    ∃ before word after, d.line? line = some (before ++ word ++ after) ∧
      IsWholeWord before word after ∧ TouchesWord (before ++ word ++ after) column ∧
      before.length ≤ column ∧ column ≤ (before ++ word).length ∧
      r = .inLine line (units16 before) (units16 (before ++ word)) := by
  cases hline : d.line? line with
  | none => simp [wordAt?, hline] at h
  | some l =>
    rw [wordAt?_of_line hline] at h
    obtain ⟨⟨start, stop⟩, found, rfl⟩ := Option.map_eq_some_iff.1 h
    have touches : TouchesWord l column := by
      by_contra apart
      rw [wordAt?_eq_none apart] at found
      cases found
    obtain ⟨before, word, after, rfl, whole, first, last, same⟩ := exists_word touches
    obtain ⟨rfl, rfl⟩ := Prod.mk.inj (Option.some.inj (found.symm.trans same))
    exact ⟨before, word, after, rfl, whole, touches, first, last, rfl⟩

theorem isSome_wordAt?_iff (d : Document) (line column : Nat) :
    (d.wordAt? line column).isSome = true ↔
      ∃ l i, d.line? line = some l ∧ PointsAt l column i := by
  constructor
  · intro isSome
    obtain ⟨r, found⟩ := Option.isSome_iff_exists.1 isSome
    obtain ⟨before, word, after, hline, -, touches, -⟩ := wordAt?_eq_some found
    obtain ⟨i, points⟩ := touchesWord_iff_exists_pointsAt.1 touches
    exact ⟨_, i, hline, points⟩
  · rintro ⟨l, i, hline, points⟩
    obtain ⟨before, word, after, -, -, -, -, found⟩ :=
      exists_word (touchesWord_iff_exists_pointsAt.2 ⟨i, points⟩)
    rw [wordAt?_of_line hline, found]
    rfl

theorem isWordAt_of_wordAt? (h : d.wordAt? line column = some r) : d.IsWordAt line column r := by
  obtain ⟨before, word, after, hline, whole, touches, first, last, rfl⟩ := wordAt?_eq_some h
  obtain ⟨i, points⟩ := touchesWord_iff_exists_pointsAt.1 touches
  obtain ⟨low, high⟩ := whole.pointsAt first last points
  refine ⟨⟨before, word, after, i, hline, whole, points, low, high, rfl⟩,
    reaches_inLine hline first last, fun narrow hline32 => ?_⟩
  have wide := units16_lt_of_line? narrow hline
  have stop : units16 (before ++ word) ≤ units16 (before ++ word ++ after) :=
    units16_le_of_isPrefix (List.prefix_append _ _)
  have start : units16 before ≤ units16 (before ++ word) :=
    units16_le_of_isPrefix (List.prefix_append _ _)
  exact ⟨⟨hline32, (start.trans stop).trans_lt wide⟩, ⟨hline32, stop.trans_lt wide⟩⟩

theorem wordAtPosition?_of_wordAt? {u : Nat} (h : d.wordAt? line column = some r)
    (low : r.start.character ≤ u) (high : u ≤ r.stop.character) :
    d.wordAtPosition? ⟨line, u⟩ = some r := by
  obtain ⟨before, word, after, hline, whole, -, -, -, rfl⟩ := wordAt?_eq_some h
  obtain ⟨first, last⟩ := charsBefore_mem after low high
  show d.wordAt? line (d.charColumn line u) = _
  rw [wordAt?_of_line hline, charColumn_of_line hline, wordAt?_of_isWholeWord whole first last]
  rfl

/-- There is a word at a column if the column points at a character; it is the whole word around
that character, and all columns from its start to its stop lead back to it. -/
theorem hasWords (d : Document) : d.HasWords where
  isSome_iff := d.isSome_wordAt?_iff
  isWordAt _ _ _ := isWordAt_of_wordAt?
  stays _ _ _ h _ := wordAtPosition?_of_wordAt? h

end Document

end SqlLint
