import SqlLint.Proofs.Document.Walking

/-!
# Offsets in bytes

`bytes?` is the text between two byte offsets, for which they must be in order and characters have to
begin there.  The offsets of positions are like that whatever the positions are: they grow with them, stay
within the text and are never inside a character, so that every range has a text and can be replaced.
And every place of a document has a position, except among the carriage returns that end a line
(`Document.hasOffsets`).
-/

namespace SqlLint

namespace Text

/-! ## Bytes of a text -/

/-- The text between two byte offsets, none unless they are in order and a character begins at each, or
the text ends there. -/
def bytes? (s : String) (start stop : Nat) : Option String := do
  let slice ← s.slice? (← s.pos? ⟨start⟩) (← s.pos? ⟨stop⟩)
  return slice.copy

/-- A text with another one in place of the bytes between two offsets. -/
def replaceBytes? (s : String) (start stop : Nat) (new : String) : Option String := do
  let _ ← bytes? s start stop
  return (← bytes? s 0 start) ++ new ++ (← bytes? s stop s.utf8ByteSize)

section Bytes

variable {s xs ys zs : String} {cs : List Char} {i j : Nat}

theorem isValid_utf8ByteSize (h : s = xs ++ ys) : String.Pos.Raw.IsValid s ⟨xs.utf8ByteSize⟩ :=
  String.Pos.Raw.isValid_iff_exists_append.2 ⟨xs, ys, h, rfl⟩

theorem exists_pos? (h : s = xs ++ ys) :
    ∃ p : s.Pos, s.pos? ⟨xs.utf8ByteSize⟩ = some p ∧ p.offset = ⟨xs.utf8ByteSize⟩ := by
  have valid := String.Pos.Raw.isValidForSlice_eq_true_iff.2 (isValid_utf8ByteSize h).toSlice
  refine ⟨s.pos ⟨xs.utf8ByteSize⟩ (isValid_utf8ByteSize h), ?_, rfl⟩
  rw [String.pos?, String.Slice.pos?, dif_pos valid]
  rfl

theorem bytes?_eq_some (h : s = xs ++ ys ++ zs) :
    bytes? s xs.utf8ByteSize (xs ++ ys).utf8ByteSize = some ys := by
  obtain ⟨p, hp, pAt⟩ := exists_pos? (h.trans (String.append_assoc ..))
  obtain ⟨q, hq, qAt⟩ := exists_pos? h
  have order : p ≤ q := by
    rw [String.Pos.le_iff, String.Pos.Raw.le_iff, pAt, qAt]
    simp
  have cut : (s.slice p q order).copy = ys := by
    have skipped := ByteArray.extract_append_size_add (a := xs.toByteArray)
      (b := ys.toByteArray ++ zs.toByteArray) (i := 0) (j := ys.utf8ByteSize)
    have kept : (ys.toByteArray ++ zs.toByteArray).extract 0 ys.utf8ByteSize = ys.toByteArray :=
      ByteArray.extract_append_eq_left String.size_toByteArray.symm
    rw [← String.toByteArray_inj, String.toByteArray_copy_slice, pAt, qAt, h, String.append_assoc]
    simpa [kept] using skipped
  rw [bytes?, hp, hq]
  simp [String.slice?, order, cut]

theorem replaceBytes?_eq_some (h : s = xs ++ ys ++ zs) (new : String) :
    replaceBytes? s xs.utf8ByteSize (xs ++ ys).utf8ByteSize new = some (xs ++ new ++ zs) := by
  have before : bytes? s 0 xs.utf8ByteSize = some xs := by
    have first : s = "" ++ xs ++ (ys ++ zs) := by simp [h, String.append_assoc]
    simpa using bytes?_eq_some first
  have after : bytes? s (xs ++ ys).utf8ByteSize s.utf8ByteSize = some zs := by
    have last : s = xs ++ ys ++ zs ++ "" := by simp [h]
    simpa [h] using bytes?_eq_some last
  rw [replaceBytes?, bytes?_eq_some h, before, after]
  rfl

theorem utf8Size_take_mono (cs : List Char) (h : i ≤ j) :
    utf8Size (cs.take i) ≤ utf8Size (cs.take j) := by
  obtain ⟨rest, hrest⟩ := List.take_prefix_take_left (l := cs) h
  rw [← hrest, utf8Size_append]
  exact Nat.le_add_right _ _

theorem utf8Size_take_lt (h : i < j) (inside : j ≤ cs.length) :
    utf8Size (cs.take i) < utf8Size (cs.take j) := by
  have one : cs.take (i + 1) = cs.take i ++ [cs[i]] := by
    rw [List.take_add_one, List.getElem?_eq_getElem (by omega)]
    rfl
  have wide := Char.utf8Size_pos cs[i]
  have later := utf8Size_take_mono cs (Nat.succ_le_of_lt h)
  simp only [Nat.succ_eq_add_one, one, utf8Size_append, utf8Size] at later
  omega

theorem utf8Size_take_inj (hi : i ≤ cs.length) (hj : j ≤ cs.length) :
    utf8Size (cs.take i) = utf8Size (cs.take j) ↔ i = j := by
  refine ⟨fun same => ?_, fun same => by rw [same]⟩
  obtain lt | same_ | lt := Nat.lt_trichotomy i j
  · exact absurd same (utf8Size_take_lt lt hj).ne
  · exact same_
  · exact absurd same (utf8Size_take_lt lt hi).ne'

theorem max_utf8Size_take (cs : List Char) (i j : Nat) :
    max (utf8Size (cs.take i)) (utf8Size (cs.take j)) = utf8Size (cs.take (max i j)) := by
  obtain le | le := Nat.le_total i j
  · rw [Nat.max_eq_right le, Nat.max_eq_right (utf8Size_take_mono cs le)]
  · rw [Nat.max_eq_left le, Nat.max_eq_left (utf8Size_take_mono cs le)]

end Bytes

/-! ## Positions in order -/

variable {xs ys : List Char}

theorem offsetAt_mono (cs : List Char) {p q : Position} (h : p.atMost q = true) :
    offsetAt cs p ≤ offsetAt cs q := by
  obtain ⟨n, i⟩ := p
  obtain ⟨m, j⟩ := q
  have order : n < m ∨ n = m ∧ i ≤ j := Position.atMost_iff.1 h
  by_cases inside : m < (pieces isLineFeed cs).length
  · obtain below | ⟨rfl, le⟩ := order
    · have line := List.getElem?_eq_getElem (below.trans inside)
      have next := lineEnd_lt_lineStart line
      have later : lineStart cs (n + 1) ≤ lineStart cs m := lineStart_mono below
      have ends := offsetAt_le_lineEnd (below.trans inside) i
      have starts := lineStart_le_offsetAt inside (Nat.le_refl m) j
      omega
    · have line := List.getElem?_eq_getElem inside
      rw [offsetAt_of_line line, offsetAt_of_line line]
      exact Nat.add_le_add_left (charsBefore_mono _ le) _
  · rw [offsetAt_of_length_le (n := m) (Nat.le_of_not_lt inside)]
    exact offsetAt_le_length cs _

/-! ## Positions of places -/

/-- The position of what follows a text: how many lines the text ends, and the UTF-16 units of the one
that it does not end. -/
def endOf (before : List Char) : Position :=
  ⟨before.count '\n', units16 (before.rtakeWhile (· ≠ '\n'))⟩

/-- A text is cut in two behind a carriage return, and only carriage returns follow on the line. -/
def CutsReturns (before after : List Char) : Prop :=
  before.getLast? = some '\r' ∧ ∀ c ∈ after.takeWhile (· ≠ '\n'), c = '\r'

theorem headD_pieces (cs : List Char) :
    (pieces isLineFeed cs).headD [] = cs.takeWhile (· ≠ '\n') := by
  induction cs with
  | nil => rfl
  | cons c cs ih =>
    by_cases feed : c = '\n'
    · subst feed
      rfl
    · rw [headD_pieces_cons feed, ih, List.takeWhile_cons_of_pos (by simpa using feed)]

theorem lineContent_append_of_ne_nil (h : lineContent ys ≠ []) (xs : List Char) :
    lineContent (xs ++ ys) = xs ++ lineContent ys := by
  have nonempty : ys.reverse.dropWhile isTerminator ≠ [] := by simpa [lineContent] using h
  simp [lineContent, List.dropWhile_append, nonempty]

theorem lineContent_eq_nil_iff : lineContent xs = [] ↔ ∀ c ∈ xs, isTerminator c = true := by
  simp [lineContent]

theorem length_lineContent_eq_iff (feedless : ∀ c ∈ xs, isLineFeed c = false) :
    (lineContent xs).length = xs.length ↔ xs.getLast? ≠ some '\r' := by
  rw [← rdropWhile_return_eq_iff, ← lineContent_of_feedless feedless]
  exact ⟨(prefix_lineContent xs).eq_of_length, congrArg List.length⟩

/-- On the first line, a place has its position if it is not among the carriage returns at the end. -/
theorem offsetAt_zero_units16 (feedless : ∀ c ∈ xs, isLineFeed c = false) :
    offsetAt (xs ++ ys) ⟨0, units16 xs⟩ = xs.length ↔ ¬ CutsReturns xs ys := by
  have first : (xs ++ ys).takeWhile (· ≠ '\n') = xs ++ ys.takeWhile (· ≠ '\n') :=
    List.takeWhile_append_of_pos fun c hc => by simpa [isLineFeed] using feedless c hc
  have rest : ∀ c ∈ ys.takeWhile (· ≠ '\n'), isLineFeed c = false := fun c hc => by
    simpa [isLineFeed] using List.mem_takeWhile_imp hc
  have returns : (∀ c ∈ ys.takeWhile (· ≠ '\n'), c = '\r') ↔
      lineContent (ys.takeWhile (· ≠ '\n')) = [] := by
    rw [lineContent_of_feedless rest, List.rdropWhile_eq_nil_iff]
    simp only [decide_eq_true_eq]
  rw [offsetAt_zero, headD_pieces, first, CutsReturns, returns]
  -- If only carriage returns follow on the line, those that come before are cut off with them.
  by_cases blank : lineContent (ys.takeWhile (· ≠ '\n')) = []
  · rw [lineContent_append (lineContent_eq_nil_iff.1 blank),
      charsBefore_of_units16_le (units16_le_of_isPrefix (prefix_lineContent xs)),
      length_lineContent_eq_iff feedless, and_iff_left blank]
  · rw [lineContent_append_of_ne_nil blank, charsBefore_units16]
    exact iff_of_true rfl fun cuts => blank cuts.2

theorem count_of_feedless (feedless : ∀ c ∈ xs, isLineFeed c = false) : xs.count '\n' = 0 :=
  List.count_eq_zero.2 fun member => by cases feedless _ member

theorem endOf_of_feedless (feedless : ∀ c ∈ xs, isLineFeed c = false) :
    endOf xs = ⟨0, units16 xs⟩ := by
  have all : xs.rtakeWhile (· ≠ '\n') = xs :=
    List.rtakeWhile_eq_self_iff.2 fun c hc => by simpa [isLineFeed] using feedless c hc
  rw [endOf, count_of_feedless feedless, all]

theorem endOf_append_lineFeed (feedless : ∀ c ∈ xs, isLineFeed c = false) (ys : List Char) :
    endOf (xs ++ '\n' :: ys) = ⟨(endOf ys).line + 1, (endOf ys).character⟩ := by
  have last : (xs ++ '\n' :: ys).rtakeWhile (· ≠ '\n') = ys.rtakeWhile (· ≠ '\n') := by
    have short : (ys.reverse ++ '\n' :: xs.reverse).takeWhile (· ≠ '\n') =
        ys.reverse.takeWhile (· ≠ '\n') := by
      rw [List.takeWhile_append, List.takeWhile_cons_of_neg (by simp), List.append_nil]
      split
      · next all => exact ((List.takeWhile_prefix _).eq_of_length all).symm
      · rfl
    rw [List.rtakeWhile, List.rtakeWhile, List.reverse_append, List.reverse_cons, List.append_assoc,
      List.singleton_append, short]
  rw [endOf, endOf, last, List.count_append, List.count_cons_self, count_of_feedless feedless,
    Nat.zero_add]

theorem cutsReturns_append_lineFeed (xs ys after : List Char) :
    CutsReturns (xs ++ '\n' :: ys) after ↔ CutsReturns ys after := by
  have last : (xs ++ '\n' :: ys).getLast? = some '\r' ↔ ys.getLast? = some '\r' := by
    cases ys with
    | nil => simp
    | cons c ys => rw [List.getLast?_append_cons, List.getLast?_cons_cons]
  rw [CutsReturns, CutsReturns, last]

/-- A place has its position, unless it is among the carriage returns that end a line. -/
theorem offsetAt_endOf (before after : List Char) :
    offsetAt (before ++ after) (endOf before) = before.length ↔ ¬ CutsReturns before after := by
  induction before using cut_induction isLineFeed with
  | whole before feedless =>
    rw [endOf_of_feedless feedless]
    exact offsetAt_zero_units16 feedless
  | cut first c rest feedless hc ih =>
    obtain rfl : c = '\n' := by simpa [isLineFeed] using hc
    rw [endOf_append_lineFeed feedless, cutsReturns_append_lineFeed, ← ih, List.append_assoc,
      List.cons_append, offsetAt_append_lineFeed feedless, List.length_append, List.length_cons]
    show _ + 1 + offsetAt (rest ++ after) (endOf rest) = _ ↔ _
    omega

end Text

open Text

namespace Document

variable {d : Document}

/-- The byte offsets of a range; one that ends before it begins is empty. -/
def byteSpan (d : Document) (r : Range) : Nat × Nat :=
  let start := d.byteOffsetAt r.start
  (start, max (d.byteOffsetAt r.stop) start)

/-- What the byte offsets of positions are good for, whatever the positions are. -/
structure HasOffsets (d : Document) : Prop where
  mono : ∀ p q : Position, p.atMost q = true → d.byteOffsetAt p ≤ d.byteOffsetAt q
  le : ∀ p, d.byteOffsetAt p ≤ d.text.utf8ByteSize
  isValid : ∀ p, String.Pos.Raw.IsValid d.text ⟨d.byteOffsetAt p⟩
  walked : ∀ p, d.IsNarrow ∨ p.character + 1 < UInt32.size → d.walk? p = some (d.byteOffsetAt p)
  slice : ∀ r, bytes? d.text (d.byteSpan r).1 (d.byteSpan r).2 = some (d.slice r)
  edit : ∀ r new,
    replaceBytes? d.text (d.byteSpan r).1 (d.byteSpan r).2 new = some (d.edit ⟨r, new⟩).text
  place : ∀ (o : d.text.Pos) (before after : String), o.Splits before after →
    (d.byteOffsetAt (endOf before.toList) = o.offset.byteIdx ↔
      ¬ CutsReturns before.toList after.toList)

theorem text_eq_append (d : Document) (i : Nat) :
    d.text = String.ofList (d.chars.take i) ++ String.ofList (d.chars.drop i) := by
  rw [← String.ofList_append, List.take_append_drop, chars, String.ofList_toList]

theorem byteOffsetAt_eq (d : Document) (p : Position) :
    d.byteOffsetAt p = (String.ofList (d.chars.take (d.offsetAt p))).utf8ByteSize := by
  rw [byteOffsetAt, utf8ByteSize_ofList]

theorem text_eq_slice (d : Document) (r : Range) :
    d.text = String.ofList (d.chars.take (d.offsetAt r.start)) ++ d.slice r ++
      String.ofList (d.chars.drop (span d.chars r).2) := by
  rw [slice, ← String.ofList_append, ← String.ofList_append]
  exact String.ofList_toList.symm.trans (congrArg String.ofList (eq_slice d.chars r))

theorem byteSpan_snd (d : Document) (r : Range) :
    (d.byteSpan r).2 =
      (String.ofList (d.chars.take (d.offsetAt r.start)) ++ d.slice r).utf8ByteSize := by
  have stop : (d.byteSpan r).2 = utf8Size (d.chars.take (span d.chars r).2) :=
    max_utf8Size_take d.chars _ _
  rw [stop, ← take_append_slice, slice, ← String.ofList_append, utf8ByteSize_ofList]
  rfl

theorem text_edit (d : Document) (r : Range) (new : String) :
    (d.edit ⟨r, new⟩).text = String.ofList (d.chars.take (d.offsetAt r.start)) ++ new ++
      String.ofList (d.chars.drop (span d.chars r).2) := by
  show String.ofList (replace d.chars r new.toList) = _
  rw [replace, String.ofList_append, String.ofList_append, String.ofList_toList]
  rfl

theorem byteOffsetAt_endOf {o : d.text.Pos} {before after : String} (h : o.Splits before after) :
    d.byteOffsetAt (endOf before.toList) = o.offset.byteIdx ↔
      ¬ CutsReturns before.toList after.toList := by
  have whole : d.chars = before.toList ++ after.toList := by
    rw [chars, h.eq_append, String.toList_append]
  have upTo : o.offset.byteIdx = utf8Size (d.chars.take before.toList.length) := by
    rw [whole, List.take_left, h.offset_eq_rawEndPos, ← utf8ByteSize_ofList, String.ofList_toList]
    rfl
  have inside : before.toList.length ≤ d.chars.length := by
    rw [whole, List.length_append]
    exact Nat.le_add_right _ _
  rw [upTo, byteOffsetAt, offsetAt, utf8Size_take_inj (offsetAt_le_length _ _) inside,
    ← offsetAt_endOf, ← whole]

/-- Every position has an offset in the text, in the order of the positions, and every place of the text is
the offset of its position, except among the carriage returns that end a line. -/
theorem hasOffsets (d : Document) : d.HasOffsets where
  mono p q h := utf8Size_take_mono d.chars (offsetAt_mono d.chars h)
  le p := by
    conv_rhs => rw [d.text_eq_append (d.offsetAt p), String.utf8ByteSize_append]
    rw [byteOffsetAt_eq]
    exact Nat.le_add_right _ _
  isValid p := by
    rw [byteOffsetAt_eq]
    exact isValid_utf8ByteSize (d.text_eq_append (d.offsetAt p))
  walked _ := walk?_eq_some
  slice r := by
    rw [byteSpan_snd, byteSpan, byteOffsetAt_eq]
    exact bytes?_eq_some (d.text_eq_slice r)
  edit r new := by
    rw [byteSpan_snd, byteSpan, byteOffsetAt_eq, text_edit]
    exact replaceBytes?_eq_some (d.text_eq_slice r) new
  place _ _ _ := byteOffsetAt_endOf

end Document

end SqlLint
