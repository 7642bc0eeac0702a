import Mathlib.Data.List.Infix
import SqlLint.Text.Lines

/-!
# Texts as lines

`LinesOf` says which lines a text has: each ends at `\r\n`, at a lone `\r` or at `\n`, and the last one
at the end of the text.  `anyLines` finds them (`linesOf_iff`), and lines without terminators, joined
by line feeds, are the lines of what comes of it (`linesOf_join`).
-/

namespace SqlLint.Text

/-- No line ends within the characters. -/
def Unended (line : List Char) : Prop := ∀ c ∈ line, isTerminator c = false

/-- The lines of a text. -/
inductive LinesOf : List Char → List (List Char) → Prop where
  | last {line : List Char} : Unended line → LinesOf line [line]
  | lineFeed {line rest : List Char} {lines : List (List Char)} : Unended line →
      LinesOf rest lines → LinesOf (line ++ '\n' :: rest) (line :: lines)
  | both {line rest : List Char} {lines : List (List Char)} : Unended line →
      LinesOf rest lines → LinesOf (line ++ '\r' :: '\n' :: rest) (line :: lines)
  | carriageReturn {line rest : List Char} {lines : List (List Char)} : Unended line →
      rest.head? ≠ some '\n' → LinesOf rest lines → LinesOf (line ++ '\r' :: rest) (line :: lines)

variable {c : Char} {cs line rest : List Char} {ls : List (List Char)}

theorem unended_nil : Unended [] := by simp [Unended]

theorem unended_cons : Unended (c :: line) ↔ isTerminator c = false ∧ Unended line :=
  List.forall_mem_cons

/-! ## The lines that are found -/

theorem anyLines_append (h : Unended line) (rest : List Char) :
    anyLines (line ++ rest) = (anyLines rest).modifyHead (line ++ ·) := by
  induction line with
  | nil =>
    rw [List.nil_append]
    cases anyLines rest <;> rfl
  | cons c line ih =>
    obtain ⟨hc, hline⟩ := unended_cons.1 h
    rw [List.cons_append, anyLines_cons hc, ih hline]
    cases anyLines rest <;> rfl

theorem anyLines_of_unended (h : Unended line) : anyLines line = [line] := by
  have whole := anyLines_append h []
  rwa [List.append_nil, anyLines, List.modifyHead_cons, List.append_nil] at whole

theorem LinesOf.anyLines_eq (h : LinesOf cs ls) : anyLines cs = ls := by
  induction h with
  | last hline => exact anyLines_of_unended hline
  | lineFeed hline _ ih =>
    rw [anyLines_append hline, anyLines_lineFeed, ih, List.modifyHead_cons, List.append_nil]
  | both hline _ ih =>
    rw [anyLines_append hline, anyLines, ih, List.modifyHead_cons, List.append_nil]
  | carriageReturn hline apart _ ih =>
    rw [anyLines_append hline, anyLines_return apart, ih, List.modifyHead_cons, List.append_nil]

theorem LinesOf.cons (hc : isTerminator c = false) (h : LinesOf cs (line :: ls)) :
    LinesOf (c :: cs) ((c :: line) :: ls) := by
  cases h with
  | last hline => exact .last (unended_cons.2 ⟨hc, hline⟩)
  | lineFeed hline h => exact .lineFeed (unended_cons.2 ⟨hc, hline⟩) h
  | both hline h => exact .both (unended_cons.2 ⟨hc, hline⟩) h
  | carriageReturn hline apart h => exact .carriageReturn (unended_cons.2 ⟨hc, hline⟩) apart h

theorem linesOf_anyLines (cs : List Char) : LinesOf cs (anyLines cs) := by
  fun_induction anyLines cs with
  | case1 => exact .last unended_nil
  | case2 cs ih => exact .both unended_nil ih
  | case3 c cs apart hc ih =>
    by_cases feed : c = '\n'
    · subst feed
      exact .lineFeed unended_nil ih
    · obtain rfl : c = '\r' := by simpa [isTerminator, feed] using hc
      refine .carriageReturn unended_nil (fun head => ?_) ih
      obtain ⟨rest, rfl⟩ := List.head?_eq_some_iff.1 head
      exact apart rest rfl rfl
  | case4 c cs apart hc empty ih => exact absurd empty (anyLines_ne_nil cs)
  | case5 c cs apart hc l ls found ih =>
    rw [found] at ih
    exact ih.cons (Bool.not_eq_true _ ▸ hc)

/-- Every text has its lines, and no others. -/
theorem linesOf_iff : LinesOf cs ls ↔ anyLines cs = ls :=
  ⟨LinesOf.anyLines_eq, fun h => h ▸ linesOf_anyLines cs⟩

theorem LinesOf.unended (h : LinesOf cs ls) : ∀ line ∈ ls, Unended line := by
  induction h with
  | last hline => simpa using hline
  | lineFeed hline _ ih => exact List.forall_mem_cons.2 ⟨hline, ih⟩
  | both hline _ ih => exact List.forall_mem_cons.2 ⟨hline, ih⟩
  | carriageReturn hline _ _ ih => exact List.forall_mem_cons.2 ⟨hline, ih⟩

/-- Lines that are joined are found again. -/
theorem linesOf_join (hls : ∀ line ∈ ls, Unended line) (nonempty : ls ≠ []) :
    LinesOf (join ['\n'] ls) ls := by
  induction ls with
  | nil => exact absurd rfl nonempty
  | cons line ls ih =>
    obtain ⟨hline, hls⟩ := List.forall_mem_cons.1 hls
    cases ls with
    | nil => exact .last hline
    | cons next ls =>
      rw [join, List.append_assoc]
      · exact .lineFeed hline (ih hls (List.cons_ne_nil _ _))
      · exact List.cons_ne_nil _ _

/-- Without carriage returns, lines end at line feeds. -/
theorem anyLines_eq_pieces (h : '\r' ∉ cs) : anyLines cs = pieces isLineFeed cs := by
  induction cs with
  | nil => rfl
  | cons c cs ih =>
    rw [List.mem_cons, not_or] at h
    have rest := ih h.2
    by_cases feed : c = '\n'
    · subst feed
      rw [anyLines_lineFeed, rest]
      rfl
    · have inner : isTerminator c = false := by simp [isTerminator, feed, Ne.symm h.1]
      obtain ⟨l, ls, hl⟩ := List.exists_cons_of_ne_nil (pieces_ne_nil isLineFeed cs)
      rw [anyLines_cons inner, rest, hl]
      simp [pieces, isLineFeed, feed, hl]

/-! ## Texts in lines -/

theorem isSome_cutAt_iff (needle cs : List Char) :
    (cutAt needle cs).isSome = true ↔ needle <:+: cs := by
  induction cs with
  | nil => by_cases h : needle = [] <;> simp [cutAt, h]
  | cons c cs ih =>
    rw [cutAt, List.infix_cons_iff]
    split
    · next h => simp [List.isPrefixOf_iff_prefix.1 h]
    · next h =>
      rw [List.isPrefixOf_iff_prefix] at h
      simp [ih, h]

end SqlLint.Text
