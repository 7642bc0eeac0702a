import Mathlib.Data.List.Chain
import SqlLint.Document.Basic

/-!
# Places in a text

`place?` is where a position is for an editor: a line ends at a line feed, at a carriage return
with a line feed or at a lone carriage return, a column past the end of its line stands for that end,
and the middle of a character is no place.  `offsetAt` looks for line feeds only.  The two agree as long
as no carriage return stands alone before more text (`offsetAt_eq_of_place?`), and where one does,
they disagree about the beginning of the line after it (`exists_place?_ne`).
-/

namespace SqlLint.Text

variable {c : Char} {cs xs before after : List Char} {line column o : Nat}

/-- The offset of a column of the first line. -/
def columnPlace? : List Char → Nat → Option Nat
  | [], _ => some 0
  | c :: cs, column =>
    if column = 0 ∨ isTerminator c then some 0
    else if column < charUnits c then none
    else (columnPlace? cs (column - charUnits c)).map (· + 1)

/-- The offset of a position as an editor counts, none if there is no such line or the column is in
the middle of a character. -/
def place? : List Char → Nat → Nat → Option Nat
  | cs, 0, column => columnPlace? cs column
  | [], _ + 1, _ => none
  | '\r' :: '\n' :: cs, line + 1, column => (place? cs line column).map (· + 2)
  | c :: cs, line + 1, column =>
    (place? cs (if isTerminator c then line else line + 1) column).map (· + 1)

/-- Every carriage return is followed by a line feed or by nothing. -/
def Paired (cs : List Char) : Prop := cs.IsChain fun a b => a = '\r' → b = '\n'

instance (cs : List Char) : Decidable (Paired cs) :=
  inferInstanceAs (Decidable (cs.IsChain fun a b => a = '\r' → b = '\n'))

theorem Paired.tail (h : Paired (c :: cs)) : Paired cs := List.IsChain.tail h

theorem not_paired_iff :
    ¬ Paired cs ↔ ∃ before c after, cs = before ++ '\r' :: c :: after ∧ c ≠ '\n' := by
  rw [Paired, List.isChain_iff_forall_rel_of_append_cons_cons]
  push Not
  constructor
  · rintro ⟨_, c, before, after, h, rfl, hc⟩
    exact ⟨before, c, after, h, hc⟩
  · rintro ⟨before, c, after, h, hc⟩
    exact ⟨_, c, before, after, h, rfl, hc⟩

/-! ## An editor's places -/

theorem place?_zero (cs : List Char) (column : Nat) : place? cs 0 column = columnPlace? cs column := by
  unfold place?
  rfl

theorem place?_pair (cs : List Char) (line column : Nat) :
    place? ('\r' :: '\n' :: cs) (line + 1) column = (place? cs line column).map (· + 2) := by
  rw [place?]

theorem place?_cons (h : c = '\r' → cs.head? ≠ some '\n') :
    place? (c :: cs) (line + 1) column =
      (place? cs (if isTerminator c then line else line + 1) column).map (· + 1) := by
  rw [place?]
  rintro cs rfl rfl
  exact h rfl rfl

/-! ## Offsets -/

/-- The number of characters of some lines, each with its terminator. -/
def extent : List (List Char) → Nat
  | [] => 0
  | l :: ls => l.length + 1 + extent ls

theorem foldl_eq_extent (ls : List (List Char)) (n : Nat) :
    ls.foldl (fun n l => n + l.length + 1) n = n + extent ls := by
  induction ls generalizing n with
  | nil => rfl
  | cons l ls ih =>
    rw [List.foldl_cons, ih, extent]
    omega

theorem lineStart_eq (cs : List Char) (line : Nat) :
    lineStart cs line = extent ((pieces isLineFeed cs).take line) := by
  rw [lineStart, foldl_eq_extent, Nat.zero_add]

theorem offsetAt_nil (p : Position) : offsetAt [] p = 0 := by
  obtain ⟨line, column⟩ := p
  cases line <;> rfl

theorem offsetAt_lineFeed (cs : List Char) (line column : Nat) :
    offsetAt ('\n' :: cs) ⟨line + 1, column⟩ = offsetAt cs ⟨line, column⟩ + 1 := by
  have first : pieces isLineFeed ('\n' :: cs) = [] :: pieces isLineFeed cs := rfl
  simp only [offsetAt, lineStart_eq, first, List.getElem?_cons_succ, List.take_succ_cons,
    extent, List.length_nil, List.length_cons]
  split <;> omega

theorem offsetAt_cons_succ (hc : c ≠ '\n') (cs : List Char) (line column : Nat) :
    offsetAt (c :: cs) ⟨line + 1, column⟩ = offsetAt cs ⟨line + 1, column⟩ + 1 := by
  obtain ⟨l, ls, hl⟩ := List.exists_cons_of_ne_nil (pieces_ne_nil isLineFeed cs)
  have first : pieces isLineFeed (c :: cs) = (c :: l) :: ls := by
    simp [pieces, isLineFeed, hc, hl]
  simp only [offsetAt, lineStart_eq, first, hl, List.getElem?_cons_succ, List.take_succ_cons,
    extent, List.length_cons]
  split <;> omega

theorem offsetAt_append_lineFeed (feedless : ∀ c ∈ xs, isLineFeed c = false) (cs : List Char)
    (n k : Nat) :
    offsetAt (xs ++ '\n' :: cs) ⟨n + 1, k⟩ = xs.length + 1 + offsetAt cs ⟨n, k⟩ := by
  induction xs with
  | nil => rw [List.nil_append, offsetAt_lineFeed, List.length_nil, Nat.zero_add, Nat.add_comm]
  | cons c xs ih =>
    obtain ⟨first, rest⟩ := List.forall_mem_cons.1 feedless
    have feed : c ≠ '\n' := by simpa [isLineFeed] using first
    rw [List.cons_append, offsetAt_cons_succ feed, ih rest, List.length_cons]
    omega

theorem lineContent_cons (c : Char) (l : List Char) :
    lineContent (c :: l) =
      if isTerminator c ∧ lineContent l = [] then [] else c :: lineContent l := by
  simp only [lineContent, List.reverse_cons, List.dropWhile_append]
  by_cases h : l.reverse.dropWhile isTerminator = []
  · cases hc : isTerminator c <;> simp [hc, h]
  · simp [h]

theorem offsetAt_zero (cs : List Char) (column : Nat) :
    offsetAt cs ⟨0, column⟩ =
      charsBefore (lineContent ((pieces isLineFeed cs).headD [])) column := by
  obtain ⟨l, ls, hl⟩ := List.exists_cons_of_ne_nil (pieces_ne_nil isLineFeed cs)
  simp [offsetAt, lineStart, hl]

theorem headD_pieces_cons (hc : c ≠ '\n') (cs : List Char) :
    (pieces isLineFeed (c :: cs)).headD [] = c :: (pieces isLineFeed cs).headD [] := by
  obtain ⟨l, ls, hl⟩ := List.exists_cons_of_ne_nil (pieces_ne_nil isLineFeed cs)
  simp [pieces, isLineFeed, hc, hl]

/-! ## Agreement -/

theorem not_isTerminator (h : isTerminator c = false) : c ≠ '\n' ∧ c ≠ '\r' := by
  simpa [isTerminator] using h

theorem offsetAt_cons_zero (hc : isTerminator c = false) (cs : List Char) (column : Nat) :
    offsetAt (c :: cs) ⟨0, column⟩ =
      if column = 0 then 0 else offsetAt cs ⟨0, column - charUnits c⟩ + 1 := by
  rw [offsetAt_zero, headD_pieces_cons (not_isTerminator hc).1, lineContent_cons, offsetAt_zero]
  simp [hc, charsBefore]

/-- The first line ends where it has its terminator, unless that is a carriage return with text
after it. -/
theorem offsetAt_terminator_zero (hc : isTerminator c = true) (paired : Paired (c :: cs))
    (column : Nat) : offsetAt (c :: cs) ⟨0, column⟩ = 0 := by
  rw [offsetAt_zero]
  by_cases feed : c = '\n'
  · subst feed
    rfl
  · obtain rfl : c = '\r' := by simpa [isTerminator, feed] using hc
    have rest : (pieces isLineFeed cs).headD [] = [] := by
      cases cs with
      | nil => rfl
      | cons d cs =>
        obtain rfl : d = '\n' := (List.isChain_cons_cons.1 paired).1 rfl
        rfl
    rw [headD_pieces_cons feed, rest]
    rfl

theorem offsetAt_zero_of_columnPlace? (paired : Paired cs) (h : columnPlace? cs column = some o) :
    offsetAt cs ⟨0, column⟩ = o := by
  induction cs generalizing column o with
  | nil =>
    cases h
    rfl
  | cons c cs ih =>
    rw [columnPlace?] at h
    cases hc : isTerminator c with
    | true =>
      rw [offsetAt_terminator_zero hc paired]
      simpa [hc] using h
    | false =>
      rw [offsetAt_cons_zero hc]
      split
      · next zero => simpa [zero] using h
      · next nonzero =>
        rw [if_neg (by simp [nonzero, hc])] at h
        split at h
        · cases h
        · obtain ⟨o, hcs, rfl⟩ := Option.map_eq_some_iff.1 h
          rw [ih paired.tail hcs]

/-- Where no carriage return stands alone before more text, a position is where an editor sees it. -/
theorem offsetAt_eq_of_place? (paired : Paired cs) (h : place? cs line column = some o) :
    offsetAt cs ⟨line, column⟩ = o := by
  -- The text is read as an editor reads it; `Paired` is what keeps the last case in step.
  fun_induction place? cs line column generalizing o with
  | case1 cs column => exact offsetAt_zero_of_columnPlace? paired h
  | case2 => cases h
  | case3 cs line column ih =>
    obtain ⟨o, hcs, rfl⟩ := Option.map_eq_some_iff.1 h
    rw [offsetAt_cons_succ (by decide), offsetAt_lineFeed, ih paired.tail.tail hcs]
  | case4 c cs line column apart ih =>
    obtain ⟨o, hcs, rfl⟩ := Option.map_eq_some_iff.1 h
    have rest := ih paired.tail hcs
    by_cases feed : c = '\n'
    · subst feed
      rw [offsetAt_lineFeed]
      exact congrArg (· + 1) rest
    · rw [offsetAt_cons_succ feed]
      cases hc : isTerminator c with
      | false => simpa [hc] using rest
      | true =>
        obtain rfl : c = '\r' := by simpa [isTerminator, feed] using hc
        cases cs with
        | nil =>
          rw [offsetAt_nil] at rest ⊢
          rw [rest]
        | cons d cs =>
          obtain rfl : d = '\n' := (List.isChain_cons_cons.1 paired).1 rfl
          exact absurd rfl (apart cs rfl)

/-! ## Disagreement -/

theorem offsetAt_line (cs : List Char) (line : Nat) :
    offsetAt cs ⟨line + 1, 0⟩ = cs.length ∨
      ∃ before after, cs = before ++ '\n' :: after ∧ offsetAt cs ⟨line + 1, 0⟩ = before.length + 1 := by
  induction cs generalizing line with
  | nil => exact .inl (offsetAt_nil _)
  | cons c cs ih =>
    by_cases feed : c = '\n'
    · subst feed
      rw [offsetAt_lineFeed]
      cases line with
      | zero =>
        refine .inr ⟨[], cs, rfl, ?_⟩
        rw [offsetAt_zero, charsBefore_zero]
        rfl
      | succ line =>
        obtain all | ⟨before, after, rfl, h⟩ := ih line
        · exact .inl (by rw [all, List.length_cons])
        · exact .inr ⟨'\n' :: before, after, rfl, by rw [h, List.length_cons]⟩
    · rw [offsetAt_cons_succ feed]
      obtain all | ⟨before, after, rfl, h⟩ := ih line
      · exact .inl (by rw [all, List.length_cons])
      · exact .inr ⟨c :: before, after, rfl, by rw [h, List.length_cons]⟩

/-- After a lone carriage return a line begins for an editor. -/
theorem exists_place? (hc : c ≠ '\n') (before after : List Char) :
    ∃ line, place? (before ++ '\r' :: c :: after) (line + 1) 0 = some (before.length + 1) := by
  induction before with
  | nil =>
    refine ⟨0, ?_⟩
    rw [List.nil_append, place?_cons (by simpa using hc)]
    simp [isTerminator, place?_zero, columnPlace?]
  | cons d before ih =>
    obtain ⟨line, h⟩ := ih
    rw [List.cons_append, List.length_cons]
    generalize before ++ '\r' :: c :: after = rest at h ⊢
    by_cases pair : d = '\r' ∧ rest.head? = some '\n'
    · -- The line feed ends the line together with the carriage return, as it would alone.
      obtain ⟨rfl, head⟩ := pair
      obtain ⟨rest, rfl⟩ := List.head?_eq_some_iff.1 head
      have feed : isTerminator '\n' = true := rfl
      rw [place?_cons (fun e => by cases e), if_pos feed] at h
      obtain ⟨o, place, ho⟩ := Option.map_eq_some_iff.1 h
      exact ⟨line, by rw [place?_pair, place, Option.map_some, ← ho]⟩
    · rw [not_and] at pair
      cases hd : isTerminator d with
      | true => exact ⟨line + 1, by simp [place?_cons pair, hd, h]⟩
      | false => exact ⟨line, by simp [place?_cons pair, hd, h]⟩

/-- There is no such line otherwise: each begins after a line feed or at the end of the text. -/
theorem exists_place?_ne (h : ¬ Paired cs) :
    ∃ before c after line, cs = before ++ '\r' :: c :: after ∧ c ≠ '\n' ∧
      place? cs (line + 1) 0 = some (before.length + 1) ∧
      offsetAt cs ⟨line + 1, 0⟩ ≠ before.length + 1 := by
  obtain ⟨before, c, after, rfl, hc⟩ := not_paired_iff.1 h
  obtain ⟨line, place⟩ := exists_place? hc before after
  refine ⟨before, c, after, line, rfl, hc, place, ?_⟩
  obtain all | ⟨before', after', split, offset⟩ := offsetAt_line (before ++ '\r' :: c :: after) line
  · rw [all]
    simp
  · intro same
    have same : before'.length = before.length := by omega
    -- One character stands before the line, and it is not both of the two.
    have : '\r' :: c :: after = '\n' :: after' := (List.append_inj split same.symm).2
    cases this

/-! ## Texts without lone carriage returns -/

/-- Every carriage return is followed by a line feed. -/
structure NoLoneReturn (cs : List Char) : Prop where
  paired : Paired cs
  getLast?_ne : cs.getLast? ≠ some '\r'

namespace NoLoneReturn

variable {ys : List Char}

theorem tail (h : NoLoneReturn (c :: cs)) : NoLoneReturn cs := by
  refine ⟨h.paired.tail, fun last => h.getLast?_ne ?_⟩
  rw [List.getLast?_cons, last]
  rfl

theorem append (hx : NoLoneReturn xs) (hy : NoLoneReturn ys) : NoLoneReturn (xs ++ ys) := by
  refine ⟨List.isChain_append.2 ⟨hx.paired, hy.paired, ?_⟩, ?_⟩
  · rintro a ha b - rfl
    exact absurd ha hx.getLast?_ne
  · rw [List.getLast?_append]
    intro last
    obtain h | ⟨-, h⟩ := Option.or_eq_some_iff.1 last
    · exact hy.getLast?_ne h
    · exact hx.getLast?_ne h

theorem drop (h : NoLoneReturn cs) (n : Nat) : NoLoneReturn (cs.drop n) := by
  induction n generalizing cs with
  | zero => exact h
  | succ n ih =>
    cases cs with
    | nil => exact h
    | cons c cs => exact ih h.tail

theorem take (h : NoLoneReturn cs) (n : Nat) (last : (cs.take n).getLast? ≠ some '\r') :
    NoLoneReturn (cs.take n) := ⟨h.paired.take n, last⟩

end NoLoneReturn

theorem not_mem_take_of_columnPlace? (h : columnPlace? cs column = some o) : '\r' ∉ cs.take o := by
  induction cs generalizing column o with
  | nil => simp
  | cons c cs ih =>
    rw [columnPlace?] at h
    split at h
    · cases h
      simp
    · next goesOn =>
      split at h
      · cases h
      · obtain ⟨o, hcs, rfl⟩ := Option.map_eq_some_iff.1 h
        have hc : c ≠ '\r' := by
          rintro rfl
          exact goesOn (.inr rfl)
        rw [List.take_succ_cons, List.mem_cons, not_or]
        exact ⟨hc.symm, ih hcs⟩

theorem getLast?_cons_ne (hc : c ≠ '\r') (h : cs.getLast? ≠ some '\r') :
    (c :: cs).getLast? ≠ some '\r' := by
  rw [List.getLast?_cons]
  cases hl : cs.getLast? with
  | none => simpa using hc
  | some d => simpa [hl] using h

/-- A place is never between a carriage return and its line feed. -/
theorem getLast?_take_of_place? (hcs : NoLoneReturn cs) (h : place? cs line column = some o) :
    (cs.take o).getLast? ≠ some '\r' := by
  fun_induction place? cs line column generalizing o with
  | case1 cs column =>
    intro last
    exact not_mem_take_of_columnPlace? h (List.mem_of_getLast? last)
  | case2 => cases h
  | case3 cs line column ih =>
    obtain ⟨o, place, rfl⟩ := Option.map_eq_some_iff.1 h
    have rest := getLast?_cons_ne (c := '\n') (by decide) (ih hcs.tail.tail place)
    rw [List.take_succ_cons, List.take_succ_cons, List.getLast?_cons_cons]
    exact rest
  | case4 c cs line column apart ih =>
    obtain ⟨o, place, rfl⟩ := Option.map_eq_some_iff.1 h
    rw [List.take_succ_cons]
    refine getLast?_cons_ne ?_ (ih hcs.tail place)
    rintro rfl
    cases cs with
    | nil => exact hcs.getLast?_ne rfl
    | cons d cs =>
      obtain rfl : d = '\n' := (List.isChain_cons_cons.1 hcs.paired).1 rfl
      exact apart cs rfl rfl

end SqlLint.Text
