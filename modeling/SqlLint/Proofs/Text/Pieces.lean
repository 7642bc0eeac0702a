import Mathlib.Data.List.Basic
import SqlLint.Text.Lines

/-!
# Texts cut into pieces

How `pieces` behaves on a text that goes on (`pieces_append`), on one with a separator in it
(`pieces_append_cons`), and which elements its pieces hold.  `cut_induction` takes a text apart at its
separators, first piece first.
-/

namespace SqlLint.Text

variable {α : Type} {p : α → Bool} {xs : List α}

theorem pieces_of_none (h : ∀ x ∈ xs, p x = false) : pieces p xs = [xs] := by
  induction xs with
  | nil => rfl
  | cons x xs ih =>
    obtain ⟨hx, hxs⟩ := List.forall_mem_cons.1 h
    simp [pieces, hx, ih hxs]

/-- More of a text goes on with its last piece. -/
theorem pieces_append (p : α → Bool) (xs ys : List α) :
    pieces p (xs ++ ys) =
      (pieces p xs).dropLast ++ pieces p ((pieces p xs).getLastD [] ++ ys) := by
  induction xs with
  | nil => simp [pieces]
  | cons x xs ih =>
    obtain ⟨l, ls, hl⟩ := List.exists_cons_of_ne_nil (pieces_ne_nil p xs)
    rw [hl] at ih
    cases hx : p x with
    | true => simp [pieces, hx, hl, ih]
    | false =>
      -- The element joins the first piece, which may also be the last one.
      cases ls with
      | nil => simp [pieces, hx, hl, ih]
      | cons m ms => simp [pieces, hx, hl, ih]

theorem getLastD_pieces (p : α → Bool) (xs : List α) :
    ∀ x ∈ (pieces p xs).getLastD [], p x = false := by
  induction xs with
  | nil => simp [pieces]
  | cons x xs ih =>
    obtain ⟨l, ls, hl⟩ := List.exists_cons_of_ne_nil (pieces_ne_nil p xs)
    rw [hl] at ih
    cases hx : p x with
    | true => simpa [pieces, hx, hl] using ih
    | false =>
      cases ls with
      | nil => simpa [pieces, hx, hl] using ih
      | cons m ms => simpa [pieces, hx, hl] using ih

theorem pieces_append_cons {c : α} (hc : p c = true) (xs ys : List α) :
    pieces p (xs ++ c :: ys) = pieces p xs ++ pieces p ys := by
  induction xs with
  | nil => simp [pieces, hc]
  | cons x xs ih =>
    obtain ⟨l, ls, hl⟩ := List.exists_cons_of_ne_nil (pieces_ne_nil p xs)
    cases hx : p x <;> simp [pieces, hx, ih, hl]

theorem of_mem_pieces {l : List α} (hl : l ∈ pieces p xs) : ∀ x ∈ l, x ∈ xs ∧ p x = false := by
  induction xs generalizing l with
  | nil =>
    obtain rfl : l = [] := by simpa [pieces] using hl
    simp
  | cons c xs ih =>
    obtain ⟨m, ms, hm⟩ := List.exists_cons_of_ne_nil (pieces_ne_nil p xs)
    rw [hm] at ih
    intro x hx
    cases hc : p c with
    | true =>
      simp only [pieces, hc, if_true, hm] at hl
      obtain rfl | hl := List.mem_cons.1 hl
      · cases hx
      · obtain ⟨mem, out⟩ := ih hl x hx
        exact ⟨List.mem_cons_of_mem _ mem, out⟩
    | false =>
      simp only [pieces, hc, hm] at hl
      obtain rfl | hl := List.mem_cons.1 hl
      · obtain rfl | hx := List.mem_cons.1 hx
        · exact ⟨List.mem_cons_self .., hc⟩
        · obtain ⟨mem, out⟩ := ih (List.mem_cons_self ..) x hx
          exact ⟨List.mem_cons_of_mem _ mem, out⟩
      · obtain ⟨mem, out⟩ := ih (List.mem_cons_of_mem _ hl) x hx
        exact ⟨List.mem_cons_of_mem _ mem, out⟩

/-- What holds of a text without separators, and of one that a separator cuts in two if it holds of
what follows, holds of every text. -/
theorem cut_induction {P : List α → Prop} (p : α → Bool)
    (whole : ∀ l, (∀ x ∈ l, p x = false) → P l)
    (cut : ∀ l c rest, (∀ x ∈ l, p x = false) → p c = true → P rest → P (l ++ c :: rest))
    (xs : List α) : P xs := by
  have unmet : ∀ x ∈ xs.takeWhile (! p ·), p x = false := by
    intro x hx
    simpa using List.all_eq_true.1 List.all_takeWhile x hx
  have split := List.takeWhile_append_dropWhile (p := (! p ·)) (l := xs)
  cases h : xs.dropWhile (! p ·) with
  | nil =>
    rw [h, List.append_nil] at split
    exact split ▸ whole _ unmet
  | cons c rest =>
    have hc : p c = true := by
      have := List.head?_dropWhile_not (! p ·) xs
      simpa [h] using this
    rw [h] at split
    have shorter : rest.length < xs.length := by
      have := congrArg List.length split
      simp at this
      omega
    exact split ▸ cut _ c rest unmet hc (cut_induction p whole cut rest)
termination_by xs.length

end SqlLint.Text
