import SqlLint.Proofs.Document.Selecting

/-!
# Edits at the ends of lines

What is put at the end of a line, at the position that an editor counts, comes before whatever
terminates the line (`pieces_edit_lineEnd`).  All other lines stay as they are, with their
terminators.
-/

namespace SqlLint

namespace Text

variable {cs l xs ends : List Char} {n : Nat}

/-- A line stands between two parts of the text, and another line in its place changes nothing else. -/
theorem exists_around (h : (pieces isLineFeed cs)[n]? = some l) :
    ∃ before after, cs = before ++ l ++ after ∧ before.length = lineStart cs n ∧
      ∀ l', (∀ c ∈ l', isLineFeed c = false) →
        pieces isLineFeed (before ++ l' ++ after) = (pieces isLineFeed cs).set n l' := by
  induction cs using cut_induction isLineFeed generalizing n l with
  | whole cs feedless =>
    rw [pieces_of_none feedless] at h ⊢
    cases n with
    | zero =>
      obtain rfl := Option.some.inj h
      refine ⟨[], [], (List.append_nil _).symm, rfl, fun l' feedless' => ?_⟩
      rw [List.nil_append, List.append_nil, pieces_of_none feedless']
      rfl
    | succ n => cases h
  | cut first c rest feedless hc ih =>
    have lines : pieces isLineFeed (first ++ c :: rest) = first :: pieces isLineFeed rest := by
      rw [pieces_append_cons hc, pieces_of_none feedless]
      rfl
    rw [lines] at h ⊢
    cases n with
    | zero =>
      obtain rfl := Option.some.inj h
      refine ⟨[], c :: rest, rfl, rfl, fun l' feedless' => ?_⟩
      rw [List.nil_append, pieces_append_cons hc, pieces_of_none feedless']
      rfl
    | succ n =>
      obtain ⟨before, after, rfl, start, set⟩ := ih h
      refine ⟨first ++ c :: before, after, by simp, ?_, fun l' feedless' => ?_⟩
      · rw [lineStart_eq, lines, List.take_succ_cons, extent, ← lineStart_eq, ← start]
        simp
        omega
      · have split : first ++ c :: before ++ l' ++ after = first ++ c :: (before ++ l' ++ after) := by
          simp
        rw [split, pieces_append_cons hc, pieces_of_none feedless, set l' feedless']
        rfl

theorem lineContent_append (hends : ∀ c ∈ ends, isTerminator c = true) :
    lineContent (xs ++ ends) = lineContent xs := by
  rw [lineContent, List.reverse_append, List.dropWhile_append_of_pos]
  · rfl
  · exact fun c hc => hends c (List.mem_reverse.1 hc)

theorem stripReturn_append (hxs : xs.getLast? ≠ some '\r') (hends : ∀ c ∈ ends, c = '\r') :
    stripReturn (xs ++ ends) = xs ++ ends.dropLast := by
  obtain rfl | ⟨init, c, rfl⟩ := List.eq_nil_or_concat ends
  · rw [stripReturn, List.append_nil, if_neg hxs]
    exact (List.append_nil _).symm
  · rw [List.concat_eq_append] at hends ⊢
    obtain rfl := hends c (by simp)
    rw [← List.append_assoc, stripReturn, List.getLast?_concat, if_pos rfl, List.dropLast_concat,
      List.dropLast_concat]

/-- A line is its content and carriage returns; of these, one is not seen. -/
theorem exists_returns (h : (pieces isLineFeed cs)[n]? = some l) :
    ∃ ends, l = lineContent l ++ ends ∧ (∀ c ∈ ends, c = '\r') ∧
      stripReturn l = lineContent l ++ ends.dropLast := by
  obtain ⟨ends, whole, terminate⟩ := exists_ends l
  have returns : ∀ c ∈ ends, c = '\r' := fun c hc =>
    eq_return_of_isTerminator h (whole ▸ List.mem_append_right _ hc) (terminate c hc)
  refine ⟨ends, whole, returns, ?_⟩
  have last : (lineContent l).getLast? ≠ some '\r' := by
    intro return_
    have same : lineContent (lineContent l) = lineContent l := List.rdropWhile_idempotent _ _
    obtain ⟨init, hinit⟩ := List.getLast?_eq_some_iff.1 return_
    rw [hinit] at same
    have shorter : lineContent (init ++ ['\r']) = lineContent init :=
      lineContent_append (by simp [isTerminator])
    have long : (lineContent init).length ≤ init.length :=
      (List.rdropWhile_prefix isTerminator (l := init)).length_le
    rw [← shorter, same, List.length_append, List.length_singleton] at long
    omega
  conv_lhs => rw [whole]
  exact stripReturn_append last returns

end Text

open Text

namespace Document

variable {d : Document} {n : Nat} {l ends : List Char}

/-- A text without line feeds that is put at the end of a line comes before what terminates the line,
and no other line changes. -/
theorem pieces_edit_lineEnd (h : (pieces isLineFeed d.chars)[n]? = some l)
    (whole : l = lineContent l ++ ends) {new : String} (noFeed : ∀ c ∈ new.toList, isLineFeed c = false) :
    pieces isLineFeed
        (d.edit ⟨.inLine n (units16 (stripReturn l)) (units16 (stripReturn l)), new⟩).chars =
      (pieces isLineFeed d.chars).set n (lineContent l ++ new.toList ++ ends) := by
  obtain ⟨before, after, hcs, start, set⟩ := exists_around h
  have place : d.offsetAt ⟨n, units16 (stripReturn l)⟩ = (before ++ lineContent l).length := by
    rw [List.length_append, start]
    exact (offsetAt_lineEnd h).trans (lineEnd_eq h)
  have split : d.chars = before ++ lineContent l ++ (ends ++ after) := by
    rw [hcs]
    conv_lhs => rw [whole]
    simp only [List.append_assoc]
  have edited : (d.edit ⟨.inLine n (units16 (stripReturn l)) (units16 (stripReturn l)), new⟩).chars =
      before ++ (lineContent l ++ new.toList ++ ends) ++ after := by
    show (String.ofList (replace d.chars _ new.toList)).toList = _
    rw [String.toList_ofList]
    simp only [replace, span, Range.inLine]
    rw [Nat.max_self, show Text.offsetAt d.chars _ = _ from place, split, List.take_left,
      List.drop_left]
    simp only [List.append_assoc]
  rw [edited]
  refine set _ fun c hc => ?_
  obtain hc | hc := List.mem_append.1 hc
  · obtain hc | hc := List.mem_append.1 hc
    · exact (of_mem_pieces (List.mem_of_getElem? h) c (whole ▸ List.mem_append_left _ hc)).2
    · exact noFeed c hc
  · exact (of_mem_pieces (List.mem_of_getElem? h) c (whole ▸ List.mem_append_right _ hc)).2

end Document

end SqlLint
