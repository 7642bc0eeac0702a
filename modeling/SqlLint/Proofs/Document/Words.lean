import Mathlib.Data.List.DropRight
import SqlLint.Proofs.Document.Columns

/-!
# Words of a line

A word is a run of word characters that goes as far as it can on either side (`IsWholeWord`).  The
word at a column is the one that holds the column or ends there (`exists_word`), and there is none if
no word character stands at the column or directly before it.
-/

namespace SqlLint.Text

variable {line xs ys before word after : List Char} {column : Nat}

/-- The middle one of three parts of a line is a word, and all of it. -/
structure IsWholeWord (before word after : List Char) : Prop where
  ne_nil : word ≠ []
  isWordChar : ∀ c ∈ word, isWordChar c = true
  left : ∀ c, before.getLast? = some c → Text.isWordChar c = false
  right : ∀ c, after.head? = some c → Text.isWordChar c = false

/-- A word character stands at a column of a line or directly before it. -/
def TouchesWord (l : List Char) (column : Nat) : Prop :=
  ∃ i c, l[i]? = some c ∧ isWordChar c = true ∧ (i = column ∨ i + 1 = column)

theorem isWholeWord_around (nonempty : xs.rtakeWhile isWordChar ++ ys.takeWhile isWordChar ≠ []) :
    IsWholeWord (xs.rdropWhile isWordChar) (xs.rtakeWhile isWordChar ++ ys.takeWhile isWordChar)
      (ys.dropWhile isWordChar) where
  ne_nil := nonempty
  isWordChar c hc := by
    obtain hc | hc := List.mem_append.1 hc
    · exact List.mem_rtakeWhile_imp hc
    · exact List.mem_takeWhile_imp hc
  left c hc := by
    obtain ⟨init, hinit⟩ := List.getLast?_eq_some_iff.1 hc
    have last := List.rdropWhile_last_not isWordChar xs (by simp [hinit])
    simpa [hinit] using last
  right c hc := by
    have first := List.head?_dropWhile_not isWordChar ys
    simpa [hc] using first

theorem rtakeWhile_ne_nil {p : Char → Bool} :
    xs.rtakeWhile p ≠ [] ↔ ∃ c, xs.getLast? = some c ∧ p c = true := by
  obtain rfl | ⟨init, c, rfl⟩ := List.eq_nil_or_concat xs
  · simp
  · rw [List.concat_eq_append, List.rtakeWhile_concat, List.getLast?_concat]
    cases hc : p c <;> simp [hc]

theorem takeWhile_ne_nil {p : Char → Bool} :
    ys.takeWhile p ≠ [] ↔ ∃ c, ys.head? = some c ∧ p c = true := by
  cases ys with
  | nil => simp
  | cons c ys => cases hc : p c <;> simp [hc]

theorem getElem?_append_length (xs ys : List Char) : (xs ++ ys)[xs.length]? = ys.head? := by
  rw [List.getElem?_append_right (Nat.le_refl _), Nat.sub_self, List.head?_eq_getElem?]

theorem touchesWord_iff : TouchesWord (xs ++ ys) xs.length ↔
    xs.rtakeWhile isWordChar ++ ys.takeWhile isWordChar ≠ [] := by
  have either : xs.rtakeWhile isWordChar ++ ys.takeWhile isWordChar ≠ [] ↔
      xs.rtakeWhile isWordChar ≠ [] ∨ ys.takeWhile isWordChar ≠ [] := by
    rw [ne_eq, List.append_eq_nil_iff, not_and_or]
  rw [either, rtakeWhile_ne_nil, takeWhile_ne_nil]
  constructor
  · rintro ⟨i, c, hc, word, rfl | directly⟩
    · exact .inr ⟨c, getElem?_append_length xs ys ▸ hc, word⟩
    · rw [List.getElem?_append_left (by omega)] at hc
      refine .inl ⟨c, ?_, word⟩
      rw [List.getLast?_eq_getElem?, ← directly]
      exact hc
  · rintro (⟨c, hc, word⟩ | ⟨c, hc, word⟩)
    · obtain ⟨init, rfl⟩ := List.getLast?_eq_some_iff.1 hc
      exact ⟨init.length, c, by simp, word, .inr (by simp)⟩
    · exact ⟨xs.length, c, (getElem?_append_length xs ys).trans hc, word, .inl rfl⟩

theorem wordAt?_append (xs ys : List Char) : wordAt? (xs ++ ys) xs.length =
    if xs.rtakeWhile isWordChar ++ ys.takeWhile isWordChar = [] then none
    else some (units16 (xs.rdropWhile isWordChar), units16 (xs ++ ys.takeWhile isWordChar)) := by
  have left : (xs.reverse.takeWhile isWordChar).length = (xs.rtakeWhile isWordChar).length := by
    simp [List.rtakeWhile]
  have split : xs.rdropWhile isWordChar ++ xs.rtakeWhile isWordChar = xs :=
    List.rdropWhile_append_rtakeWhile
  have first : (xs ++ ys).take (xs.length - (xs.rtakeWhile isWordChar).length) =
      xs.rdropWhile isWordChar := by
    have long := congrArg List.length split
    rw [List.length_append] at long
    conv_lhs => rw [← split, List.append_assoc]
    exact List.take_left' (by rw [split]; omega)
  have last : (xs ++ ys).take (xs.length + (ys.takeWhile isWordChar).length) =
      xs ++ ys.takeWhile isWordChar := by
    rw [List.take_length_add_append]
    exact congrArg _ (List.prefix_iff_eq_take.1 (List.takeWhile_prefix isWordChar)).symm
  have none_ : (xs.rtakeWhile isWordChar).length + (ys.takeWhile isWordChar).length = 0 ↔
      xs.rtakeWhile isWordChar ++ ys.takeWhile isWordChar = [] := by
    rw [← List.length_append, List.length_eq_zero_iff]
  have inside : ¬ (xs ++ ys).length < xs.length := by simp
  simp only [wordAt?, List.take_left, List.drop_left, left, first, last, none_, inside, false_or]

/-- The word at a column is the one that holds the column or ends there. -/
theorem exists_word (touches : TouchesWord line column) :
    ∃ before word after, line = before ++ word ++ after ∧ IsWholeWord before word after ∧
      before.length ≤ column ∧ column ≤ (before ++ word).length ∧
      wordAt? line column = some (units16 before, units16 (before ++ word)) := by
  have inside : column ≤ line.length := by
    obtain ⟨i, c, hc, -, h⟩ := touches
    have := (List.getElem?_eq_some_iff.1 hc).1
    omega
  obtain ⟨xs, ys, rfl, rfl⟩ : ∃ xs ys, line = xs ++ ys ∧ column = xs.length :=
    ⟨line.take column, line.drop column, (List.take_append_drop _ _).symm, by simp [inside]⟩
  have left : xs.rdropWhile isWordChar ++ xs.rtakeWhile isWordChar = xs :=
    List.rdropWhile_append_rtakeWhile
  have right : ys.takeWhile isWordChar ++ ys.dropWhile isWordChar = ys :=
    List.takeWhile_append_dropWhile
  have nonempty := touchesWord_iff.1 touches
  have upTo : xs.rdropWhile isWordChar ++
      (xs.rtakeWhile isWordChar ++ ys.takeWhile isWordChar) = xs ++ ys.takeWhile isWordChar := by
    rw [← List.append_assoc, left]
  refine ⟨_, _, _, ?_, isWholeWord_around nonempty, ?_, ?_, ?_⟩
  · rw [upTo, List.append_assoc, right]
  · exact (List.rdropWhile_prefix isWordChar xs).length_le
  · rw [upTo, List.length_append]
    exact Nat.le_add_right _ _
  · rw [wordAt?_append, if_neg nonempty, upTo]

theorem wordAt?_eq_none (h : ¬ TouchesWord line column) : wordAt? line column = none := by
  by_cases inside : column ≤ line.length
  · obtain ⟨xs, ys, rfl, rfl⟩ : ∃ xs ys, line = xs ++ ys ∧ column = xs.length :=
      ⟨line.take column, line.drop column, (List.take_append_drop _ _).symm, by simp [inside]⟩
    rw [wordAt?_append, if_pos (not_not.1 (mt touchesWord_iff.2 h))]
  · rw [wordAt?, if_pos (.inl (Nat.not_le.1 inside))]

end SqlLint.Text
