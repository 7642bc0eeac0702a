import Mathlib.Data.List.DropRight
import SqlLint.Fix.Selection
import SqlLint.Proofs.Document.Places
import SqlLint.Proofs.Text.Pieces

/-!
# Selections of whole lines

A range is widened to the lines it touches, without a blank last one (`Document.wholeLines`).  The range
that comes of it begins and ends with a line of the document, and of the characters of the first range
it misses blank ones at most (`wholeLines_widens`).  What is put in its place leaves everything around
it as it was (`chars_edit`).
-/

namespace SqlLint

namespace Text

variable {cs l : List Char} {ls : List (List Char)} {c : Char} {n m k i j : Nat}

/-! ## Where lines begin -/

theorem extent_append (xs ys : List (List Char)) : extent (xs ++ ys) = extent xs + extent ys := by
  induction xs with
  | nil => simp [extent]
  | cons l xs ih =>
    simp only [List.cons_append, extent, ih]
    omega

theorem extent_eq_length_join (nonempty : ls ≠ []) : extent ls = (join ['\n'] ls).length + 1 := by
  induction ls with
  | nil => exact absurd rfl nonempty
  | cons l ls ih =>
    cases ls with
    | nil => simp [extent, join]
    | cons m ls =>
      rw [extent, ih (by simp)]
      simp [join]
      omega

theorem drop_join (h : n < ls.length) :
    (join ['\n'] ls).drop (extent (ls.take n)) = join ['\n'] (ls.drop n) := by
  induction n generalizing ls with
  | zero => simp [extent]
  | succ n ih =>
    cases ls with
    | nil => cases h
    | cons l ls =>
      have shorter : n < ls.length := Nat.lt_of_succ_lt_succ h
      have here : (join ['\n'] (l :: ls)).drop (l.length + 1) = join ['\n'] ls := by
        rw [join, List.append_assoc, ← List.drop_drop, List.drop_left]
        · rfl
        · exact List.ne_nil_of_length_pos (by omega)
      rw [List.take_succ_cons, List.drop_succ_cons, extent, ← List.drop_drop, here]
      exact ih shorter

theorem join_pieces_lineFeed (cs : List Char) : join ['\n'] (pieces isLineFeed cs) = cs :=
  join_pieces '\n' cs

theorem lineStart_succ (h : (pieces isLineFeed cs)[n]? = some l) :
    lineStart cs (n + 1) = lineStart cs n + l.length + 1 := by
  rw [lineStart_eq, lineStart_eq, List.take_add_one, extent_append, h]
  simp [extent]
  omega

theorem lineStart_mono (h : n ≤ m) : lineStart cs n ≤ lineStart cs m := by
  have split : (pieces isLineFeed cs).take m =
      (pieces isLineFeed cs).take n ++ ((pieces isLineFeed cs).drop n).take (m - n) := by
    rw [← List.take_add, Nat.add_sub_cancel' h]
  rw [lineStart_eq, lineStart_eq, split, extent_append]
  omega

theorem lineStart_length : lineStart cs (pieces isLineFeed cs).length = cs.length + 1 := by
  rw [lineStart_eq, List.take_length, extent_eq_length_join (pieces_ne_nil _ _),
    join_pieces_lineFeed]

theorem drop_lineStart (h : (pieces isLineFeed cs)[n]? = some l) :
    ∃ rest, cs.drop (lineStart cs n) = l ++ rest ∧ (rest = [] ∨ rest.head? = some '\n') := by
  obtain ⟨hn, hl⟩ := List.getElem?_eq_some_iff.1 h
  have tail := drop_join hn
  rw [join_pieces_lineFeed, ← lineStart_eq, List.drop_eq_getElem_cons hn, hl] at tail
  cases hls : (pieces isLineFeed cs).drop (n + 1) with
  | nil => exact ⟨[], by rw [tail, hls]; simp [join], .inl rfl⟩
  | cons m ls =>
    refine ⟨'\n' :: join ['\n'] (m :: ls), ?_, .inr rfl⟩
    rw [tail, hls, join]
    · simp
    · simp

/-! ## Where lines end -/

/-- The offset at which a line ends, not counting what terminates it. -/
def lineEnd (cs : List Char) (line : Nat) : Nat :=
  lineStart cs line + (lineContent ((pieces isLineFeed cs).getD line [])).length

theorem lineEnd_eq (h : (pieces isLineFeed cs)[n]? = some l) :
    lineEnd cs n = lineStart cs n + (lineContent l).length := by
  rw [lineEnd, List.getD_eq_getElem?_getD, h]
  rfl

theorem exists_ends (l : List Char) : ∃ ends, l = lineContent l ++ ends ∧
    ∀ c ∈ ends, isTerminator c = true :=
  ⟨l.rtakeWhile isTerminator, (List.rdropWhile_append_rtakeWhile).symm,
    fun _ => List.mem_rtakeWhile_imp⟩

theorem prefix_lineContent (l : List Char) : lineContent l <+: l :=
  List.rdropWhile_prefix isTerminator l

theorem offsetAt_of_line (h : (pieces isLineFeed cs)[n]? = some l) (k : Nat) :
    offsetAt cs ⟨n, k⟩ = lineStart cs n + charsBefore (lineContent l) k := by
  simp [offsetAt, h]

theorem offsetAt_lineStart (h : n < (pieces isLineFeed cs).length) :
    offsetAt cs ⟨n, 0⟩ = lineStart cs n := by
  rw [offsetAt_of_line (List.getElem?_eq_getElem h), charsBefore_zero, Nat.add_zero]

theorem offsetAt_of_length_le (h : (pieces isLineFeed cs).length ≤ n) (k : Nat) :
    offsetAt cs ⟨n, k⟩ = cs.length := by
  simp [offsetAt, List.getElem?_eq_none h]

theorem lineEnd_lt_lineStart (h : (pieces isLineFeed cs)[n]? = some l) :
    lineEnd cs n < lineStart cs (n + 1) := by
  obtain ⟨ends, whole, -⟩ := exists_ends l
  have long := congrArg List.length whole
  rw [List.length_append] at long
  rw [lineEnd_eq h, lineStart_succ h]
  omega

theorem lineEnd_le_length (h : n < (pieces isLineFeed cs).length) : lineEnd cs n ≤ cs.length := by
  have next := lineEnd_lt_lineStart (List.getElem?_eq_getElem h)
  have later : lineStart cs (n + 1) ≤ lineStart cs (pieces isLineFeed cs).length := lineStart_mono h
  rw [lineStart_length] at later
  omega

theorem lineStart_le_offsetAt (h : n < (pieces isLineFeed cs).length) (below : n ≤ m) (k : Nat) :
    lineStart cs n ≤ offsetAt cs ⟨m, k⟩ := by
  by_cases inside : m < (pieces isLineFeed cs).length
  · have starts : lineStart cs n ≤ lineStart cs m := lineStart_mono below
    rw [offsetAt_of_line (List.getElem?_eq_getElem inside)]
    omega
  · have ends := lineEnd_le_length h
    rw [lineEnd] at ends
    rw [offsetAt_of_length_le (Nat.le_of_not_lt inside)]
    omega

theorem offsetAt_le_lineEnd (h : n < (pieces isLineFeed cs).length) (k : Nat) :
    offsetAt cs ⟨n, k⟩ ≤ lineEnd cs n := by
  have line := List.getElem?_eq_getElem h
  have short := charsBefore_le_length (lineContent (pieces isLineFeed cs)[n]) k
  rw [offsetAt_of_line line, lineEnd_eq line]
  omega

theorem charsBefore_of_units16_le {xs : List Char} (h : units16 xs ≤ k) :
    charsBefore xs k = xs.length := by
  induction xs generalizing k with
  | nil => rfl
  | cons c xs ih =>
    have wide := charUnits_pos c
    rw [units16_cons] at h
    rw [charsBefore, if_neg (by omega), ih (by omega), List.length_cons]

theorem units16_lineContent_le (l : List Char) :
    units16 (lineContent l) ≤ units16 (stripReturn l) := by
  have short (l : List Char) : units16 (lineContent l) ≤ units16 l := by
    obtain ⟨ends, whole, -⟩ := exists_ends l
    conv_rhs => rw [whole, units16_append]
    omega
  unfold stripReturn
  split
  · next last =>
    -- The carriage return that is stripped terminates the line as well.
    obtain ⟨l, rfl⟩ := List.getLast?_eq_some_iff.1 last
    have same : lineContent (l ++ ['\r']) = lineContent l := List.rdropWhile_concat_pos _ _ _ rfl
    rw [same, List.dropLast_concat]
    exact short l
  · exact short l

theorem offsetAt_lineEnd (h : (pieces isLineFeed cs)[n]? = some l) :
    offsetAt cs ⟨n, units16 (stripReturn l)⟩ = lineEnd cs n := by
  rw [offsetAt_of_line h, lineEnd_eq h, charsBefore_of_units16_le (units16_lineContent_le l)]

/-! ## The characters of a line -/

theorem getElem?_line (h : (pieces isLineFeed cs)[n]? = some l) (hc : cs[i]? = some c)
    (first : lineStart cs n ≤ i) (last : i < lineStart cs (n + 1)) :
    l[i - lineStart cs n]? = some c ∨ c = '\n' := by
  obtain ⟨rest, tail, next⟩ := drop_lineStart h
  have place : (l ++ rest)[i - lineStart cs n]? = some c := by
    rw [← tail, List.getElem?_drop, Nat.add_sub_cancel' first, hc]
  by_cases inside : i - lineStart cs n < l.length
  · rw [List.getElem?_append_left inside] at place
    exact .inl place
  · have after := lineStart_succ h
    have feed : i - lineStart cs n - l.length = 0 := by omega
    rw [List.getElem?_append_right (by omega), feed, ← List.head?_eq_getElem?] at place
    obtain rfl | next := next
    · cases place
    · rw [next] at place
      exact .inr (Option.some.inj place).symm

/-- Between the end of a line and the next line stands what terminates the line. -/
theorem lt_lineEnd (hn : n < (pieces isLineFeed cs).length) (hc : cs[i]? = some c)
    (inner : isTerminator c = false) (last : i < lineStart cs (n + 1)) : i < lineEnd cs n := by
  have line := List.getElem?_eq_getElem hn
  rw [lineEnd_eq line]
  by_contra! beyond
  obtain ⟨ends, whole, terminate⟩ := exists_ends (pieces isLineFeed cs)[n]
  obtain place | rfl := getElem?_line line hc (by omega) last
  · rw [whole, List.getElem?_append_right (by omega)] at place
    have ending := terminate c (List.mem_of_getElem? place)
    rw [inner] at ending
    cases ending
  · cases inner

theorem isBlank_of_isTerminator (h : isTerminator c = true) : isBlank c = true := by
  have cases_ : c = '\n' ∨ c = '\r' := by simpa [isTerminator] using h
  obtain rfl | rfl := cases_ <;> rfl

theorem isBlankText_stripReturn (h : isBlankText (stripReturn l) = true) : isBlankText l = true := by
  unfold stripReturn at h
  split at h
  · next last =>
    obtain ⟨l', rfl⟩ := List.getLast?_eq_some_iff.1 last
    rw [List.dropLast_concat] at h
    rw [isBlankText, List.all_append, ← isBlankText, h]
    rfl
  · exact h

theorem lt_lineStart (h : (pieces isLineFeed cs)[n]? = some l)
    (blank : isBlankText (stripReturn l) = true) (hc : cs[i]? = some c)
    (seen : isBlank c = false) (last : i < lineStart cs (n + 1)) : i < lineStart cs n := by
  by_contra! inside
  obtain place | rfl := getElem?_line h hc inside last
  · have all := List.all_eq_true.1 (isBlankText_stripReturn blank) c (List.mem_of_getElem? place)
    rw [seen] at all
    cases all
  · cases seen

theorem isTerminator_eq_false (h : isBlank c = false) : isTerminator c = false :=
  Bool.eq_false_iff.2 fun ending => by simp [isBlank_of_isTerminator ending] at h

/-- What is seen up to the end of a blank line is there up to the end of the line above. -/
theorem lt_lineEnd_of_blank (below : (pieces isLineFeed cs)[n + 1]? = some l)
    (blank : isBlankText (stripReturn l) = true) (hc : cs[i]? = some c) (seen : isBlank c = false)
    (before : i < lineEnd cs (n + 1)) : i < lineEnd cs n := by
  have inside := (List.getElem?_eq_some_iff.1 below).1
  have above : i < lineStart cs (n + 1) :=
    lt_lineStart below blank hc seen (before.trans (lineEnd_lt_lineStart below))
  exact lt_lineEnd (by omega) hc (isTerminator_eq_false seen) above

/-- What a range holds, besides blanks, ends with the last line that the range touches. -/
theorem lt_lineEnd_of_lt_offsetAt {p : Position}
    (hn : n = min p.line ((pieces isLineFeed cs).length - 1)) (hc : cs[i]? = some c)
    (seen : isBlank c = false) (before : i < offsetAt cs p) : i < lineEnd cs n := by
  obtain ⟨m, k⟩ := p
  dsimp only at hn
  have filled : 0 < (pieces isLineFeed cs).length :=
    List.length_pos_of_ne_nil (pieces_ne_nil _ _)
  by_cases inside : m < (pieces isLineFeed cs).length
  · obtain rfl : n = m := by omega
    exact before.trans_le (offsetAt_le_lineEnd inside k)
  · have short : i < cs.length := (List.getElem?_eq_some_iff.1 hc).1
    have after : n + 1 = (pieces isLineFeed cs).length := by omega
    refine lt_lineEnd (by omega) hc (isTerminator_eq_false seen) ?_
    rw [after, lineStart_length]
    omega

theorem getLast?_take_lineStart (h : n < (pieces isLineFeed cs).length) :
    cs.take (lineStart cs n) = [] ∨ (cs.take (lineStart cs n)).getLast? = some '\n' := by
  cases n with
  | zero =>
    refine .inl ?_
    rw [lineStart_eq]
    rfl
  | succ n =>
    have line := List.getElem?_eq_getElem (Nat.lt_of_succ_lt h)
    obtain ⟨rest, tail, next⟩ := drop_lineStart line
    have start := lineStart_succ line
    have inside := lineEnd_le_length h
    rw [lineEnd] at inside
    have long := congrArg List.length tail
    rw [List.length_drop, List.length_append] at long
    have nonempty : rest ≠ [] := by
      rintro rfl
      rw [List.length_nil] at long
      omega
    obtain ⟨rest, rfl⟩ := List.head?_eq_some_iff.1 (next.resolve_left nonempty)
    have upTo : cs.take (lineStart cs (n + 1)) =
        cs.take (lineStart cs n) ++ ((pieces isLineFeed cs)[n] ++ ['\n']) := by
      rw [start, Nat.add_assoc, List.take_add, tail, List.take_length_add_append]
      rfl
    rw [upTo, ← List.append_assoc, List.getLast?_concat]
    exact .inr rfl

/-- What terminates a line, besides its line feed, is a carriage return. -/
theorem eq_return_of_isTerminator (h : (pieces isLineFeed cs)[n]? = some l) (hc : c ∈ l)
    (ending : isTerminator c = true) : c = '\r' := by
  have feedless := (of_mem_pieces (List.mem_of_getElem? h) c hc).2
  simp only [isLineFeed, isTerminator, Bool.or_eq_true, beq_iff_eq, beq_eq_false_iff_ne]
    at feedless ending
  exact ending.resolve_left feedless

theorem drop_lineEnd (h : (pieces isLineFeed cs)[n]? = some l) :
    ∃ returns rest, cs.drop (lineEnd cs n) = returns ++ rest ∧ (∀ c ∈ returns, c = '\r') ∧
      (rest = [] ∨ rest.head? = some '\n') := by
  obtain ⟨ends, whole, terminate⟩ := exists_ends l
  obtain ⟨rest, tail, next⟩ := drop_lineStart h
  refine ⟨ends, rest, ?_, ?_, next⟩
  · have split : l ++ rest = lineContent l ++ (ends ++ rest) := by
      rw [← List.append_assoc, ← whole]
    rw [lineEnd_eq h, ← List.drop_drop, tail, split, List.drop_left]
  · intro c hc
    exact eq_return_of_isTerminator h (whole ▸ List.mem_append_right _ hc) (terminate c hc)

/-! ## Texts without carriage returns -/

theorem returnless_line (noReturn : '\r' ∉ cs) (h : (pieces isLineFeed cs)[n]? = some l) :
    lineContent l = l ∧ stripReturn l = l := by
  have held := of_mem_pieces (List.mem_of_getElem? h)
  have absent : '\r' ∉ l := fun hr => noReturn (held _ hr).1
  constructor
  · refine List.rdropWhile_eq_self_iff.2 fun ne ending => ?_
    have member := List.getLast_mem ne
    have cases_ : l.getLast ne = '\n' ∨ l.getLast ne = '\r' := by simpa [isTerminator] using ending
    obtain feed | return_ := cases_
    · have inner := (held _ member).2
      rw [feed] at inner
      cases inner
    · exact absent (return_ ▸ member)
  · rw [stripReturn, if_neg fun last => absent (List.mem_of_getLast? last)]

theorem lineEnd_of_returnless (noReturn : '\r' ∉ cs) (h : (pieces isLineFeed cs)[n]? = some l) :
    lineEnd cs n = lineStart cs n + l.length := by
  rw [lineEnd_eq h, (returnless_line noReturn h).1]

/-! ## The whole text -/

theorem fullRange_stop_of_feedless (feedless : ∀ c ∈ cs, isLineFeed c = false) :
    (fullRange cs).stop = ⟨0, units16 (stripReturn cs)⟩ := by
  simp [fullRange, lines, pieces_of_none feedless]

theorem fullRange_stop_append_lineFeed (feedless : ∀ c ∈ l, isLineFeed c = false) (cs : List Char) :
    (fullRange (l ++ '\n' :: cs)).stop =
      ⟨(fullRange cs).stop.line + 1, (fullRange cs).stop.character⟩ := by
  obtain ⟨m, ms, rest⟩ := List.exists_cons_of_ne_nil (pieces_ne_nil isLineFeed cs)
  have cut : pieces isLineFeed (l ++ '\n' :: cs) = l :: m :: ms := by
    rw [pieces_append_cons (by rfl), pieces_of_none feedless, rest]
    rfl
  simp [fullRange, lines, cut, rest]

theorem lineContent_of_feedless (feedless : ∀ c ∈ cs, isLineFeed c = false) :
    lineContent cs = cs.rdropWhile (· = '\r') := by
  show cs.rdropWhile isTerminator = _
  induction cs using List.reverseRecOn with
  | nil => rfl
  | append_singleton cs c ih =>
    obtain ⟨init, last⟩ := List.forall_mem_append.1 feedless
    have feed : c ≠ '\n' := by simpa [isLineFeed] using last
    have same : isTerminator c = decide (c = '\r') := by
      rw [isTerminator, beq_false_of_ne feed]
      rfl
    rw [List.rdropWhile_concat, List.rdropWhile_concat, same, ih init]

theorem rdropWhile_append_lineFeed (xs cs : List Char) :
    (xs ++ '\n' :: cs).rdropWhile (· = '\r') = xs ++ '\n' :: cs.rdropWhile (· = '\r') := by
  induction cs using List.reverseRecOn with
  | nil => exact List.rdropWhile_concat_neg _ _ _ (by simp)
  | append_singleton cs c ih =>
    have split : xs ++ '\n' :: (cs ++ [c]) = xs ++ '\n' :: cs ++ [c] := by simp
    rw [split, List.rdropWhile_concat, List.rdropWhile_concat, ih]
    split <;> simp

theorem rdropWhile_return_eq_iff :
    cs.rdropWhile (· = '\r') = cs ↔ cs.getLast? ≠ some '\r' := by
  refine List.rdropWhile_eq_self_iff.trans ⟨fun clean last => ?_, fun last nonempty ending => ?_⟩
  · obtain ⟨init, rfl⟩ := List.getLast?_eq_some_iff.1 last
    exact clean (by simp) (by simp)
  · rw [List.getLast?_eq_some_getLast nonempty, of_decide_eq_true ending] at last
    exact last rfl

theorem rtakeWhile_return_eq_nil_iff :
    cs.rtakeWhile (· = '\r') = [] ↔ cs.getLast? ≠ some '\r' :=
  List.rtakeWhile_eq_nil_iff.trans (List.rdropWhile_eq_self_iff.symm.trans rdropWhile_return_eq_iff)

/-- The range of the whole text ends before the carriage returns that the text ends in. -/
theorem offsetAt_fullRange_stop (cs : List Char) :
    offsetAt cs (fullRange cs).stop = (cs.rdropWhile (· = '\r')).length := by
  induction cs using cut_induction isLineFeed with
  | whole cs feedless =>
    have line : (pieces isLineFeed cs)[0]? = some cs := by
      rw [pieces_of_none feedless]
      rfl
    rw [fullRange_stop_of_feedless feedless, offsetAt_lineEnd line, lineEnd_eq line,
      lineContent_of_feedless feedless]
    exact Nat.zero_add _
  | cut first c rest feedless hc ih =>
    obtain rfl : c = '\n' := by simpa [isLineFeed] using hc
    rw [fullRange_stop_append_lineFeed feedless, offsetAt_append_lineFeed feedless,
      rdropWhile_append_lineFeed, List.length_append, List.length_cons]
    show _ + 1 + offsetAt rest (fullRange rest).stop = _
    omega

theorem offsetAt_fullRange_start (cs : List Char) : offsetAt cs (fullRange cs).start = 0 := by
  show offsetAt cs ⟨0, 0⟩ = 0
  rw [offsetAt_zero, charsBefore_zero]

theorem span_fullRange (cs : List Char) :
    span cs (fullRange cs) = (0, (cs.rdropWhile (· = '\r')).length) := by
  rw [span, offsetAt_fullRange_start, offsetAt_fullRange_stop, Nat.max_zero]

theorem slice_fullRange (cs : List Char) :
    slice cs (fullRange cs) = cs.rdropWhile (· = '\r') := by
  rw [slice, span_fullRange]
  exact (List.prefix_iff_eq_take.1 (List.rdropWhile_prefix _ cs)).symm

/-- The carriage returns at the end of a text stay when the range of the whole is replaced. -/
theorem replace_fullRange (cs new : List Char) :
    replace cs (fullRange cs) new = new ++ cs.rtakeWhile (· = '\r') := by
  have rest : cs.drop (cs.rdropWhile (· = '\r')).length = cs.rtakeWhile (· = '\r') := by
    have whole : cs.rdropWhile (· = '\r') ++ cs.rtakeWhile (· = '\r') = cs :=
      List.rdropWhile_append_rtakeWhile
    conv_lhs => arg 2; rw [← whole]
    exact List.drop_left
  rw [replace, span_fullRange]
  show cs.take 0 ++ new ++ cs.drop _ = _
  rw [List.take_zero, List.nil_append, rest]

/-! ## Slices -/

theorem offsetAt_le_length (cs : List Char) (p : Position) : offsetAt cs p ≤ cs.length := by
  obtain ⟨n, k⟩ := p
  by_cases inside : n < (pieces isLineFeed cs).length
  · exact (offsetAt_le_lineEnd inside k).trans (lineEnd_le_length inside)
  · rw [offsetAt_of_length_le (Nat.le_of_not_lt inside)]

theorem take_append_slice (cs : List Char) (r : Range) :
    cs.take (offsetAt cs r.start) ++ slice cs r = cs.take (span cs r).2 := by
  have order : offsetAt cs r.start ≤ (span cs r).2 := Nat.le_max_right _ _
  have first : cs.take (offsetAt cs r.start) =
      (cs.take (span cs r).2).take (offsetAt cs r.start) := by
    rw [List.take_take, Nat.min_eq_left order]
  rw [first]
  exact List.take_append_drop _ _

theorem eq_slice (cs : List Char) (r : Range) :
    cs = cs.take (offsetAt cs r.start) ++ slice cs r ++ cs.drop (span cs r).2 := by
  rw [take_append_slice, List.take_append_drop]

theorem getElem?_slice {r : Range} : (slice cs r)[i]? = some c ↔
    offsetAt cs r.start + i < offsetAt cs r.stop ∧ cs[offsetAt cs r.start + i]? = some c := by
  show ((cs.take (max (offsetAt cs r.stop) (offsetAt cs r.start))).drop (offsetAt cs r.start))[i]? =
    some c ↔ _
  rw [List.getElem?_drop, List.getElem?_take]
  by_cases inside : offsetAt cs r.start + i < offsetAt cs r.stop
  · rw [if_pos (by omega)]
    exact (and_iff_right inside).symm
  · rw [if_neg (by omega)]
    exact iff_of_false nofun fun h => inside h.1

theorem getElem?_slice_of_wider {r wide : Range} (hc : (slice cs r)[i]? = some c)
    (first : offsetAt cs wide.start ≤ offsetAt cs r.start)
    (last : offsetAt cs r.start + i < offsetAt cs wide.stop) :
    (slice cs wide)[offsetAt cs r.start + i - offsetAt cs wide.start]? = some c := by
  have later := first.trans (Nat.le_add_right _ i)
  rw [getElem?_slice, Nat.add_sub_cancel' later]
  exact ⟨last, (getElem?_slice.1 hc).2⟩

end Text

open Text

namespace Document

variable {d : Document} {n : Nat} {l : List Char}

theorem lineCount_eq (d : Document) : d.lineCount = (pieces isLineFeed d.chars).length := by
  simp [lineCount, lines, Text.lines]

theorem line?_eq (d : Document) (n : Nat) :
    d.line? n = (pieces isLineFeed d.chars)[n]?.map stripReturn := by
  simp [line?, lines, Text.lines]

/-- A range that whole lines make up, in place of a selection.  It has all the characters of the
selection that are not blank, each in its place. -/
structure Widens (d : Document) (selection range : Range) : Prop where
  character_eq : range.start.character = 0
  line_le : range.start.line ≤ range.stop.line
  line_lt : range.stop.line < d.lineCount
  units16_line : (d.line? range.stop.line).map units16 = some range.stop.character
  start_line : range.start.line = selection.start.line ∨ range.start.line = range.stop.line
  stop_line : range.stop.line ≤ selection.stop.line
  starts : d.chars.take (d.offsetAt range.start) = [] ∨
    (d.chars.take (d.offsetAt range.start)).getLast? = some '\n'
  ends : ∃ returns rest, d.chars.drop (d.offsetAt range.stop) = returns ++ rest ∧
    (∀ c ∈ returns, c = '\r') ∧ (rest = [] ∨ rest.head? = some '\n')
  covers : ∀ i c, (d.slice selection).toList[i]? = some c → isBlank c = false →
    d.offsetAt range.start ≤ d.offsetAt selection.start + i ∧
    (d.slice range).toList[d.offsetAt selection.start + i - d.offsetAt range.start]? = some c

theorem exists_wholeLines (d : Document) (selection : Range) :
    ∃ top last bottom, d.wholeLines selection =
        ⟨⟨top, 0⟩, ⟨last, units16 ((d.line? last).getD [])⟩⟩ ∧
      bottom = min selection.stop.line (d.lineCount - 1) ∧ top = min selection.start.line bottom ∧
      (last = bottom ∨
        top ≤ last ∧ last + 1 = bottom ∧ (d.line? bottom).any isBlankText = true) := by
  refine ⟨_, _, _, rfl, rfl, rfl, ?_⟩
  split
  · next h => exact .inr ⟨by omega, by omega, h.2⟩
  · exact .inl rfl

theorem wholeLines_widens (d : Document) (selection : Range) :
    d.Widens selection (d.wholeLines selection) := by
  have count := d.lineCount_eq
  have filled : 0 < (pieces isLineFeed d.chars).length :=
    List.length_pos_of_ne_nil (pieces_ne_nil _ _)
  obtain ⟨top, last, bottom, whole, hbottom, htop, choice⟩ := d.exists_wholeLines selection
  rw [whole]
  have order : top ≤ last := by omega
  have inside : last < (pieces isLineFeed d.chars).length := by omega
  have line := List.getElem?_eq_getElem inside
  have stops : d.offsetAt ⟨last, units16 ((d.line? last).getD [])⟩ = lineEnd d.chars last := by
    rw [line?_eq, line]
    exact offsetAt_lineEnd line
  have begins : d.offsetAt ⟨top, 0⟩ = lineStart d.chars top := offsetAt_lineStart (by omega)
  refine ⟨rfl, order, by rw [count]; exact inside, ?_, ?_, ?_, ?_, ?_, ?_⟩
  · show (d.line? last).map units16 = _
    rw [line?_eq, line]
    rfl
  · show top = _ ∨ top = last
    omega
  · show last ≤ _
    omega
  · rw [begins]
    exact getLast?_take_lineStart (by omega)
  · show ∃ returns rest, d.chars.drop (d.offsetAt ⟨last, _⟩) = _ ∧ _
    rw [stops]
    exact drop_lineEnd line
  · intro i c hc seen
    rw [slice, String.toList_ofList] at hc
    obtain ⟨before, place⟩ := getElem?_slice.1 hc
    have first : lineStart d.chars top ≤ d.offsetAt selection.start :=
      lineStart_le_offsetAt (by omega) (show top ≤ selection.start.line by omega) _
    have touched : d.offsetAt selection.start + i < lineEnd d.chars bottom :=
      lt_lineEnd_of_lt_offsetAt (by omega) place seen before
    have inRange : d.offsetAt selection.start + i < lineEnd d.chars last := by
      -- A last line that is left out is blank.
      obtain rfl | ⟨-, rfl, blank⟩ := choice
      · exact touched
      · obtain ⟨l, below⟩ : ∃ l, (pieces isLineFeed d.chars)[last + 1]? = some l :=
          ⟨_, List.getElem?_eq_getElem (by omega)⟩
        rw [line?_eq, below] at blank
        exact lt_lineEnd_of_blank below blank place seen touched
    rw [← begins] at first
    rw [← stops] at inRange
    rw [slice, String.toList_ofList]
    exact ⟨first.trans (Nat.le_add_right _ _), getElem?_slice_of_wider hc first inRange⟩

/-- An edit puts a text in place of the slice of its range and leaves what is around it as it was. -/
theorem chars_edit (d : Document) (range : Range) (new : String) :
    ∃ before after, d.chars = before ++ (d.slice range).toList ++ after ∧
      before.length = d.offsetAt range.start ∧
      (d.edit ⟨range, new⟩).chars = before ++ new.toList ++ after := by
  refine ⟨d.chars.take (d.offsetAt range.start), d.chars.drop (span d.chars range).2, ?_, ?_, ?_⟩
  · rw [slice, String.toList_ofList]
    exact eq_slice d.chars range
  · exact List.length_take_of_le (offsetAt_le_length d.chars range.start)
  · show (String.ofList (replace d.chars range new.toList)).toList = _
    rw [String.toList_ofList]
    rfl

theorem text_edit_fullRange_append (d : Document) (new : String) :
    (d.edit ⟨d.fullRange, new⟩).text = new ++ String.ofList (d.chars.rtakeWhile (· = '\r')) := by
  show String.ofList (replace d.chars (Text.fullRange d.chars) new.toList) = _
  rw [replace_fullRange, String.ofList_append, String.ofList_toList]

theorem text_edit_fullRange (noReturn : '\r' ∉ d.chars) (new : String) :
    (d.edit ⟨d.fullRange, new⟩).text = new := by
  have noReturns : d.chars.rtakeWhile (· = '\r') = [] :=
    rtakeWhile_return_eq_nil_iff.2 fun last => noReturn (List.mem_of_getLast? last)
  rw [text_edit_fullRange_append, noReturns]
  exact String.append_empty

theorem Widens.offsetAt_start {selection range : Range} (h : d.Widens selection range) :
    d.offsetAt range.start = lineStart d.chars range.start.line := by
  have inside := h.line_le.trans_lt h.line_lt
  rw [lineCount_eq] at inside
  rw [← offsetAt_lineStart inside, ← h.character_eq]
  rfl

theorem Widens.offsetAt_stop {selection range : Range} (h : d.Widens selection range) :
    d.offsetAt range.stop = lineEnd d.chars range.stop.line := by
  have units := h.units16_line
  rw [line?_eq, Option.map_map] at units
  obtain ⟨l, line, character⟩ := Option.map_eq_some_iff.1 units
  rw [← offsetAt_lineEnd line]
  show Text.offsetAt d.chars ⟨range.stop.line, range.stop.character⟩ = _
  rw [← character]
  rfl

/-- The text of whole lines begins with the first of them. -/
theorem Widens.slice_eq {selection range : Range} (h : d.Widens selection range)
    (noReturn : '\r' ∉ d.chars) : ∃ line rest, d.line? range.start.line = some line ∧
      '\n' ∉ line ∧ (d.slice range).toList = line ++ rest ∧ (rest = [] ∨ rest.head? = some '\n') := by
  have inside := h.line_lt
  rw [lineCount_eq] at inside
  have order := h.line_le
  obtain ⟨l, line⟩ : ∃ l, (pieces isLineFeed d.chars)[range.start.line]? = some l :=
    ⟨_, List.getElem?_eq_getElem (by omega)⟩
  obtain ⟨rest, tail, next⟩ := drop_lineStart line
  have long : d.offsetAt range.start + l.length ≤ d.offsetAt range.stop := by
    have first := lineEnd_of_returnless noReturn line
    have upTo : lineEnd d.chars range.start.line ≤ lineEnd d.chars range.stop.line := by
      obtain same | before := order.eq_or_lt
      · rw [same]
      · have next := lineEnd_lt_lineStart line
        have later : lineStart d.chars (range.start.line + 1) ≤ lineStart d.chars range.stop.line :=
          lineStart_mono before
        rw [lineEnd.eq_def d.chars range.stop.line]
        omega
    rw [h.offsetAt_start, h.offsetAt_stop]
    omega
  refine ⟨l, rest.take (d.offsetAt range.stop - d.offsetAt range.start - l.length), ?_, ?_, ?_, ?_⟩
  · rw [line?_eq, line, Option.map_some, (returnless_line noReturn line).2]
  · intro feed
    cases (of_mem_pieces (List.mem_of_getElem? line) _ feed).2
  · rw [← h.offsetAt_start] at tail
    have ordered : max (d.offsetAt range.stop) (d.offsetAt range.start) = d.offsetAt range.stop :=
      Nat.max_eq_left (by omega)
    show (String.ofList ((d.chars.take (max (d.offsetAt range.stop) (d.offsetAt range.start))).drop
      (d.offsetAt range.start))).toList = _
    rw [String.toList_ofList, ordered, List.drop_take, tail, List.take_append,
      List.take_of_length_le (by omega)]
  · obtain rfl | next := next
    · exact .inl List.take_nil
    · obtain ⟨rest, rfl⟩ := List.head?_eq_some_iff.1 next
      cases d.offsetAt range.stop - d.offsetAt range.start - l.length with
      | zero => exact .inl rfl
      | succ n => exact .inr rfl

end Document

end SqlLint
