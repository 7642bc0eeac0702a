import SqlLint.Report.Mapping
import SqlLint.Proofs.Document.Words

/-!
# Ranges of diagnostics

Whatever numbers a violation comes with, the range of its diagnostic begins before it ends, and in
a document that is at hand it stays within the lines that are there.  A violation of a single place
marks the word there, or the place itself (`Document.Marks`).
-/

namespace SqlLint

open Text

/-- The numbers of a position are 32-bit words. -/
def Position.Fits (p : Position) : Prop := p.line < UInt32.size ∧ p.character < UInt32.size

/-! ## Where violations are -/

theorem fromZero_lt (n : Option Int) : fromZero n < UInt32.size :=
  Nat.lt_of_le_of_lt (Nat.min_le_right _ _) (by decide)

namespace CharPosition

theorem before_self (p : CharPosition) : p.before p = false := by
  simp [before]

theorem before_eq_false_iff {p q : CharPosition} :
    q.before p = false ↔ p.line < q.line ∨ p.line = q.line ∧ p.column ≤ q.column := by
  simp only [before, Bool.or_eq_false_iff, Bool.and_eq_false_iff, decide_eq_false_iff_not,
    beq_eq_false_iff_ne, ne_eq]
  omega

end CharPosition

namespace Violation

variable {v : Violation}

/-- What holds where a violation begins, and of the place of an end that is given, holds where it ends. -/
theorem stop_cases {P : CharPosition → Prop} (start : P v.start)
    (given : ∀ line column, v.endLine = some line → v.endColumn = some column →
      (⟨fromZero (some line), fromZero (some column)⟩ : CharPosition).before v.start = false →
      P ⟨fromZero (some line), fromZero (some column)⟩) : P v.stop := by
  unfold stop
  split
  · next line column hline hcolumn =>
    dsimp only
    split
    · exact start
    · next order => exact given line column hline hcolumn (by simpa using order)
  · exact start

theorem not_stop_before_start (v : Violation) : v.stop.before v.start = false :=
  stop_cases (P := fun p => p.before v.start = false) (CharPosition.before_self _)
    fun _ _ _ _ order => order

theorem start_lt (v : Violation) : v.start.line < UInt32.size ∧ v.start.column < UInt32.size :=
  ⟨fromZero_lt _, fromZero_lt _⟩

theorem stop_lt (v : Violation) : v.stop.line < UInt32.size ∧ v.stop.column < UInt32.size :=
  stop_cases (P := fun p => p.line < UInt32.size ∧ p.column < UInt32.size) v.start_lt
    fun _ _ _ _ _ => ⟨fromZero_lt _, fromZero_lt _⟩

end Violation

/-! ## Where columns are -/

namespace Document

variable {d : Document} {p q : CharPosition} {line : Nat}

theorem fits_positionAtChar (narrow : d.IsNarrow) (hline : p.line < UInt32.size)
    (hcolumn : p.column < UInt32.size) : (d.positionAtChar p.line p.column).Fits := by
  refine ⟨hline, ?_⟩
  show d.utf16Column p.line p.column < UInt32.size
  cases hl : d.line? p.line with
  | none => rwa [utf16Column_of_none hl]
  | some l => exact Nat.lt_of_le_of_lt (utf16Column_le hl _) (units16_lt_of_line? narrow hl)

theorem positionAtChar_atMost (order : q.before p = false) :
    (d.positionAtChar p.line p.column).atMost (d.positionAtChar q.line q.column) = true := by
  refine Position.atMost_iff.2 ((CharPosition.before_eq_false_iff.1 order).imp_right ?_)
  rintro ⟨same, le⟩
  refine ⟨same, ?_⟩
  show d.utf16Column p.line p.column ≤ d.utf16Column q.line q.column
  rw [same]
  exact d.utf16Column_mono q.line le

/-- A word is where the characters before it say, and around what it holds. -/
theorem reaches_inLine {before word after : List Char} {column : Nat}
    (hline : d.line? line = some (before ++ word ++ after)) (first : before.length ≤ column)
    (last : column ≤ (before ++ word).length) :
    (Range.inLine line (units16 before) (units16 (before ++ word))).reaches
      (d.positionAtChar line column) = true := by
  have start : (before ++ word ++ after).take before.length = before := by simp
  have stop : (before ++ word ++ after).take (before ++ word).length = before ++ word :=
    List.take_left
  have low := units16_take_mono (before ++ word ++ after) first
  have high := units16_take_mono (before ++ word ++ after) last
  rw [start, ← utf16Column_of_line hline] at low
  rw [stop, ← utf16Column_of_line hline] at high
  rw [Range.reaches, Bool.and_eq_true, Position.atMost_iff, Position.atMost_iff]
  exact ⟨.inr ⟨rfl, low⟩, .inr ⟨rfl, high⟩⟩

/-- A range is the word at a place, or the place itself if there is no word. -/
structure Marks (d : Document) (p : CharPosition) (r : Range) : Prop where
  reaches : r.reaches (d.positionAtChar p.line p.column) = true
  word : ∀ l, d.line? p.line = some l → TouchesWord l p.column →
    ∃ before word after, l = before ++ word ++ after ∧ IsWholeWord before word after ∧
      before.length ≤ p.column ∧ p.column ≤ (before ++ word).length ∧
      r = .inLine p.line (units16 before) (units16 (before ++ word))
  place : (∀ l, d.line? p.line = some l → ¬ TouchesWord l p.column) →
    r = ⟨d.positionAtChar p.line p.column, d.positionAtChar p.line p.column⟩

theorem marks_wordAt? (d : Document) (p : CharPosition) :
    d.Marks p ((d.wordAt? p.line p.column).getD
      ⟨d.positionAtChar p.line p.column, d.positionAtChar p.line p.column⟩) := by
  by_cases touches : ∃ l, d.line? p.line = some l ∧ TouchesWord l p.column
  · obtain ⟨l, hline, touches⟩ := touches
    obtain ⟨before, word, after, rfl, isWhole, first, last, found⟩ := exists_word touches
    have whole : d.wordAt? p.line p.column =
        some (.inLine p.line (units16 before) (units16 (before ++ word))) := by
      rw [wordAt?, hline, Option.bind_eq_bind, Option.bind_some, found]
      rfl
    rw [whole, Option.getD_some]
    refine ⟨reaches_inLine hline first last, ?_,
      fun untouched => absurd touches (untouched _ hline)⟩
    intro l hl _
    obtain rfl := Option.some.inj (hline.symm.trans hl)
    exact ⟨before, word, after, rfl, isWhole, first, last, rfl⟩
  · have none_ : d.wordAt? p.line p.column = none := by
      cases hline : d.line? p.line with
      | none => simp [wordAt?, hline]
      | some l =>
        have apart : ¬ TouchesWord l p.column := fun h => touches ⟨l, hline, h⟩
        simp [wordAt?, hline, wordAt?_eq_none apart]
    rw [none_, Option.getD_none]
    refine ⟨?_, fun l hline h => absurd ⟨l, hline, h⟩ touches, fun _ => rfl⟩
    simp [Range.reaches, Position.atMost]

end Document

/-! ## The range of a diagnostic -/

namespace Violation

variable {v : Violation} {d : Document} {r : Range}

/-- Where a violation begins and ends, with the columns as they are in the document. -/
def exactRange (v : Violation) (d : Document) : Range :=
  ⟨d.positionAtChar v.start.line v.start.column, d.positionAtChar v.stop.line v.stop.column⟩

/-- What the range of the diagnostic of a violation is like, for a document that may be at hand.  Its
numbers are 32-bit words as long as the widths of lines are. -/
structure IsMarkedBy (v : Violation) (document : Option Document) (r : Range) : Prop where
  ordered : r.start.atMost r.stop = true
  lines : r.start.line = v.start.line ∧ r.stop.line = v.stop.line
  fits : (∀ d ∈ document, d.IsNarrow) → r.start.Fits ∧ r.stop.Fits
  start_le : ∀ d ∈ document, ∀ l, d.line? v.start.line = some l → r.start.character ≤ units16 l
  stop_le : ∀ d ∈ document, ∀ l, d.line? v.stop.line = some l → r.stop.character ≤ units16 l
  marks : ∀ d ∈ document, v.start = v.stop → d.Marks v.start r

theorem isMarkedBy_plainRange (v : Violation) : v.IsMarkedBy none v.plainRange where
  ordered := Position.atMost_iff.2 (CharPosition.before_eq_false_iff.1 v.not_stop_before_start)
  lines := ⟨rfl, rfl⟩
  fits _ := ⟨v.start_lt, v.stop_lt⟩
  start_le := by simp
  stop_le := by simp
  marks := by simp

theorem isMarkedBy_exact (marks : v.start = v.stop → d.Marks v.start (v.exactRange d)) :
    v.IsMarkedBy (some d) (v.exactRange d) where
  ordered := Document.positionAtChar_atMost v.not_stop_before_start
  lines := ⟨rfl, rfl⟩
  fits narrow :=
    ⟨Document.fits_positionAtChar (narrow d rfl) v.start_lt.1 v.start_lt.2,
      Document.fits_positionAtChar (narrow d rfl) v.stop_lt.1 v.stop_lt.2⟩
  start_le := by
    rintro _ ⟨⟩ l hl
    exact Document.utf16Column_le hl _
  stop_le := by
    rintro _ ⟨⟩ l hl
    exact Document.utf16Column_le hl _
  marks := by
    rintro _ ⟨⟩
    exact marks

/-- A violation of a single place is marked by a word there. -/
theorem isMarkedBy_word {before word after : List Char} (same : v.start = v.stop)
    (hline : d.line? v.start.line = some (before ++ word ++ after))
    (marks : d.Marks v.start (.inLine v.start.line (units16 before) (units16 (before ++ word)))) :
    v.IsMarkedBy (some d)
      (.inLine v.start.line (units16 before) (units16 (before ++ word))) := by
  have first : units16 before ≤ units16 (before ++ word) :=
    units16_le_of_isPrefix (List.prefix_append _ _)
  have last : units16 (before ++ word) ≤ units16 (before ++ word ++ after) :=
    units16_le_of_isPrefix (List.prefix_append _ _)
  refine ⟨?_, ⟨rfl, congrArg CharPosition.line same⟩, fun narrow => ?_, ?_, ?_, ?_⟩
  · exact Position.atMost_iff.2 (.inr ⟨rfl, first⟩)
  · have wide := Document.units16_lt_of_line? (narrow d rfl) hline
    exact ⟨⟨v.start_lt.1, (first.trans last).trans_lt wide⟩, ⟨v.start_lt.1, last.trans_lt wide⟩⟩
  · rintro _ ⟨⟩ l hl
    obtain rfl := Option.some.inj (hline.symm.trans hl)
    exact first.trans last
  · rintro _ ⟨⟩ l hl
    rw [← same] at hl
    obtain rfl := Option.some.inj (hline.symm.trans hl)
    exact last
  · rintro _ ⟨⟩ _
    exact marks

theorem isMarkedBy_of_marks (same : v.start = v.stop) (marks : d.Marks v.start r) :
    v.IsMarkedBy (some d) r := by
  by_cases touches : ∃ l, d.line? v.start.line = some l ∧ TouchesWord l v.start.column
  · obtain ⟨l, hline, touches⟩ := touches
    obtain ⟨before, word, after, rfl, -, -, -, rfl⟩ := marks.word l hline touches
    exact isMarkedBy_word same hline marks
  · have place : r = v.exactRange d := by
      rw [exactRange, ← same]
      exact marks.place fun l hline h => touches ⟨l, hline, h⟩
    subst place
    exact isMarkedBy_exact fun _ => marks

/-- The range of a diagnostic. -/
theorem isMarkedBy_diagnostic (v : Violation) (document : Option Document) (s : Settings) :
    v.IsMarkedBy document (v.diagnostic document s).range := by
  cases document with
  | none => exact v.isMarkedBy_plainRange
  | some d =>
    show v.IsMarkedBy (some d) (v.rangeIn d)
    unfold rangeIn
    split
    · next same =>
      rw [← same]
      exact isMarkedBy_of_marks same (d.marks_wordAt? v.start)
    · next apart => exact isMarkedBy_exact fun same => absurd same apart

end Violation

end SqlLint
