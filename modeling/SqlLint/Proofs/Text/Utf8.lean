import Mathlib.Data.List.Basic
import Mathlib.Tactic.SplitIfs
import SqlLint.Text.Utf8

/-!
# What the decoder of UTF-8 decodes

`Decodes` says which text a byte string stands for, without a word on how it is read: character by
character, as the encoding of characters has it, and where no character stands, the longest beginning
of one, or else a single byte, is U+FFFD.  Every byte string stands for exactly one text
(`Decodes.unique`, `decodes_lossy`), and the decoder finds it.

While more bytes may come, the end of those that are there may be the beginning of a character that is
not all of it.  `Reads` leaves these bytes, and so does the decoder (`reads_write`).

The decoder reads one byte at a time and holds back what it has of a character.  `Started.IsValid`
says what it knows then: which bytes complete a character, those that `Started.Awaits`.
-/

namespace SqlLint.Text.Utf8

open String (utf8EncodeChar)

/-- The bytes are the beginning of a character, or all of it. -/
def Begins (bytes : List UInt8) : Prop := ∃ c, bytes <+: utf8EncodeChar c

/-- The bytes `p` are the part of `p ++ bs` that stands for no character: no character stands at its
beginning, and `p` is the longest beginning of a character there, or a single byte if there is
none. -/
structure IsBroken (p bs : List UInt8) : Prop where
  ne_nil : p ≠ []
  unreadable : ∀ c, ¬ utf8EncodeChar c <+: p ++ bs
  begins : Begins p ∨ p.length = 1
  longest : ∀ q, q <+: p ++ bs → p.length < q.length → ¬ Begins q

/-- The text that bytes stand for. -/
inductive Decodes : List UInt8 → List Char → Prop where
  | nil : Decodes [] []
  | char (c : Char) {bs : List UInt8} {cs : List Char} : Decodes bs cs →
      Decodes (utf8EncodeChar c ++ bs) (c :: cs)
  | broken {p bs : List UInt8} {cs : List Char} : IsBroken p bs → Decodes bs cs →
      Decodes (p ++ bs) (replacement :: cs)

/-- The bytes are the beginning of a character, but not all of it. -/
def IsUnfinished (bytes : List UInt8) : Prop :=
  ∃ c, bytes <+: utf8EncodeChar c ∧ bytes ≠ utf8EncodeChar c

/-- The text that bytes stand for while more may come, and the bytes at their end that have to wait. -/
inductive Reads : List UInt8 → List Char → List UInt8 → Prop where
  | unfinished {rest : List UInt8} : IsUnfinished rest → Reads rest [] rest
  | char (c : Char) {bs rest : List UInt8} {cs : List Char} : Reads bs cs rest →
      Reads (utf8EncodeChar c ++ bs) (c :: cs) rest
  | broken {p bs rest : List UInt8} {cs : List Char} : IsBroken p bs → ¬ Begins (p ++ bs) →
      Reads bs cs rest → Reads (p ++ bs) (replacement :: cs) rest

variable {b : UInt8} {bs bs' p p' rest rest' t : List UInt8} {c c' : Char} {cs cs' : List Char}
  {s : Started} {d : Decoder}

/-! ## Every byte string stands for one text -/

theorem utf8EncodeChar_ne_nil (c : Char) : utf8EncodeChar c ≠ [] := by
  have := c.utf8Size_pos
  rw [← String.length_utf8EncodeChar] at this
  exact List.ne_nil_of_length_pos this

/-- No character begins with another one. -/
theorem utf8EncodeChar_append_inj (h : utf8EncodeChar c ++ bs = utf8EncodeChar c' ++ bs') :
    c = c' ∧ bs = bs' := by
  -- The character that is read off the beginning of the bytes is the one that was written there.
  have first (c : Char) (bs : List UInt8) :
      (utf8EncodeChar c ++ bs).toByteArray.utf8DecodeChar? 0 = some c := by
    rw [List.toByteArray_append]
    exact ByteArray.utf8DecodeChar?_utf8EncodeChar_append
  have same : some c = some c' := by rw [← first c bs, ← first c' bs', h]
  obtain rfl := Option.some.inj same
  exact ⟨rfl, List.append_cancel_left h⟩

theorem IsBroken.length_le (hp : IsBroken p bs) (hp' : IsBroken p' bs')
    (h : p ++ bs = p' ++ bs') : p'.length ≤ p.length := by
  refine Nat.le_of_not_lt fun shorter => ?_
  have longer := hp.longest p' (h ▸ List.prefix_append p' bs') shorter
  obtain begins | single := hp'.begins
  · exact longer begins
  · have pos := List.length_pos_iff.2 hp.ne_nil
    omega

theorem IsBroken.append_inj (hp : IsBroken p bs) (hp' : IsBroken p' bs')
    (h : p ++ bs = p' ++ bs') : p = p' ∧ bs = bs' := by
  have length : p.length = p'.length :=
    Nat.le_antisymm (hp'.length_le hp h.symm) (hp.length_le hp' h)
  exact List.append_inj h length

theorem IsUnfinished.begins (h : IsUnfinished bs) : Begins bs := by
  obtain ⟨c, hc, -⟩ := h
  exact ⟨c, hc⟩

theorem IsUnfinished.unreadable (h : IsUnfinished bs) (c : Char) : ¬ utf8EncodeChar c <+: bs := by
  rintro ⟨t, rfl⟩
  obtain ⟨c', ⟨u, hu⟩, proper⟩ := h
  have whole : utf8EncodeChar c ++ (t ++ u) = utf8EncodeChar c' ++ [] := by
    rw [← List.append_assoc, hu, List.append_nil]
  obtain ⟨rfl, empty⟩ := utf8EncodeChar_append_inj whole
  obtain ⟨rfl, -⟩ := List.append_eq_nil_iff.1 empty
  exact proper (List.append_nil _)

theorem isUnfinished_iff : IsUnfinished bs ↔ Begins bs ∧ ∀ c, ¬ utf8EncodeChar c <+: bs := by
  refine ⟨fun h => ⟨h.begins, h.unreadable⟩, ?_⟩
  rintro ⟨⟨c, hc⟩, unreadable⟩
  exact ⟨c, hc, fun whole => unreadable c (whole ▸ List.prefix_refl _)⟩

theorem isUnfinished_nil : IsUnfinished [] :=
  ⟨'a', List.nil_prefix, (utf8EncodeChar_ne_nil 'a').symm⟩

theorem Reads.unique (h : Reads bs cs rest) (h' : Reads bs cs' rest') :
    cs = cs' ∧ rest = rest' := by
  induction h generalizing cs' with
  | @unfinished rest unfinished =>
    generalize hbs : rest = bs at h'
    cases h' with
    | unfinished => exact ⟨rfl, rfl⟩
    | char c => exact absurd ⟨_, hbs.symm⟩ (unfinished.unreadable c)
    | broken _ ends => exact absurd (hbs ▸ unfinished.begins) ends
  | @char c bs rest cs _ ih =>
    generalize hbs : utf8EncodeChar c ++ bs = bs₁ at h'
    cases h' with
    | unfinished unfinished => exact absurd ⟨_, hbs⟩ (unfinished.unreadable c)
    | char c' h' =>
      obtain ⟨rfl, rfl⟩ := utf8EncodeChar_append_inj hbs
      exact (ih h').imp_left (congrArg (c :: ·))
    | broken hp => exact absurd ⟨bs, hbs⟩ (hp.unreadable c)
  | @broken p bs rest cs hp ends _ ih =>
    generalize hbs : p ++ bs = bs₁ at h'
    cases h' with
    | unfinished unfinished => exact absurd (hbs ▸ unfinished.begins) ends
    | char c' => exact absurd ⟨_, hbs.symm⟩ (hp.unreadable c')
    | broken hp' _ h' =>
      obtain ⟨rfl, rfl⟩ := hp.append_inj hp' hbs
      exact (ih h').imp_left (congrArg (replacement :: ·))

/-- Bytes that have to wait while more may come are broken if none come. -/
theorem isBroken_of_isUnfinished (h : IsUnfinished p) (ne_nil : p ≠ []) : IsBroken p [] where
  ne_nil := ne_nil
  unreadable c := by simpa using h.unreadable c
  begins := .inl h.begins
  longest q hq longer := by
    have short := hq.length_le
    rw [List.append_nil] at short
    exact absurd longer (Nat.not_lt.2 short)

theorem decodes_of_isUnfinished (h : IsUnfinished rest) :
    Decodes rest (if rest = [] then [] else [replacement]) := by
  split
  · next empty => exact empty ▸ .nil
  · next nonempty =>
    have alone := Decodes.broken (isBroken_of_isUnfinished h nonempty) .nil
    rwa [List.append_nil] at alone

theorem Reads.decodes (h : Reads bs cs rest) (h' : Decodes rest cs') : Decodes bs (cs ++ cs') := by
  induction h with
  | unfinished => exact h'
  | char c _ ih => exact .char c (ih h')
  | broken hp _ _ ih => exact .broken hp (ih h')

/-- The text of bytes is what is read while more may come, and what has to wait is broken. -/
theorem Decodes.exists_reads (h : Decodes bs cs) :
    ∃ text rest, Reads bs text rest ∧ cs = text ++ if rest = [] then [] else [replacement] := by
  induction h with
  | nil => exact ⟨[], [], .unfinished isUnfinished_nil, rfl⟩
  | char c _ ih =>
    obtain ⟨text, rest, reads, rfl⟩ := ih
    exact ⟨c :: text, rest, .char c reads, rfl⟩
  | @broken p bs cs hp _ ih =>
    obtain ⟨text, rest, reads, rfl⟩ := ih
    by_cases ends : Begins (p ++ bs)
    · -- Nothing comes after a beginning that goes to the end.
      have last : bs = [] := by
        refine List.length_eq_zero_iff.1 (Nat.eq_zero_of_not_pos fun pos => ?_)
        exact hp.longest _ (List.prefix_refl _) (by rw [List.length_append]; omega) ends
      subst last
      obtain ⟨rfl, rfl⟩ := reads.unique (.unfinished isUnfinished_nil)
      rw [List.append_nil] at ends ⊢
      have unfinished : IsUnfinished p :=
        isUnfinished_iff.2 ⟨ends, fun c hc => hp.unreadable c ((List.append_nil p).symm ▸ hc)⟩
      exact ⟨[], p, .unfinished unfinished, by rw [if_neg hp.ne_nil]; rfl⟩
    · exact ⟨replacement :: text, rest, .broken hp ends reads, rfl⟩

theorem Decodes.unique (h : Decodes bs cs) (h' : Decodes bs cs') : cs = cs' := by
  obtain ⟨text, rest, reads, rfl⟩ := h.exists_reads
  obtain ⟨text', rest', reads', rfl⟩ := h'.exists_reads
  obtain ⟨rfl, rfl⟩ := reads.unique reads'
  rfl

/-! ## The bytes of a character -/

/-- The bytes of a character with a number, as numbers. -/
def spelling (v : Nat) : List Nat :=
  if v ≤ 0x7F then [v]
  else if v ≤ 0x7FF then [0xC0 + v / 0x40, 0x80 + v % 0x40]
  else if v ≤ 0xFFFF then [0xE0 + v / 0x1000, 0x80 + v / 0x40 % 0x40, 0x80 + v % 0x40]
  else [0xF0 + v / 0x40000, 0x80 + v / 0x1000 % 0x40, 0x80 + v / 0x40 % 0x40, 0x80 + v % 0x40]

theorem map_toNat_utf8EncodeChar (c : Char) :
    (utf8EncodeChar c).map UInt8.toNat = spelling c.toNat := by
  have valid : c.val.toNat < 0xD800 ∨ 0xDFFF < c.val.toNat ∧ c.val.toNat < 0x110000 := c.valid
  show _ = spelling c.val.toNat
  simp only [utf8EncodeChar, spelling]
  generalize c.val.toNat = v at valid
  split_ifs <;> simp <;> omega

theorem utf8EncodeChar_eq_iff :
    utf8EncodeChar c = bs ↔ spelling c.toNat = bs.map UInt8.toNat := by
  rw [← map_toNat_utf8EncodeChar]
  exact (List.map_inj_right fun _ _ h => UInt8.toNat_inj.1 h).symm

/-! ## Beginnings of characters -/

/-- The bytes that a beginning of a character still needs. -/
def Started.Awaits (s : Started) : List UInt8 → Prop
  | [] => False
  | b :: t => (s.low ≤ b ∧ b ≤ s.high) ∧ t.length + 1 = s.missing ∧ ∀ x ∈ t, 0x80 ≤ x ∧ x ≤ 0xBF

/-- The number that some bits become with those of more bytes. -/
def valueAfter (value : Nat) (t : List UInt8) : Nat :=
  t.foldl (fun v b => 0x40 * v + b.toNat % 0x40) value

/-- The beginning of a character knows which bytes complete it, and what they make of it. -/
structure Started.IsValid (s : Started) : Prop where
  missing_pos : 0 < s.missing
  low_le : s.low ≤ s.high
  completes : ∀ t, s.Awaits t → ∃ c, utf8EncodeChar c = s.bytes ++ t ∧
    c.toNat = valueAfter s.value t
  only : ∀ t c, utf8EncodeChar c = s.bytes ++ t → s.Awaits t

/-- A number in the range of characters is that of a character with this spelling. -/
theorem exists_utf8EncodeChar {v : Nat} (valid : v < 0xD800 ∨ 0xDFFF < v ∧ v < 0x110000)
    (h : spelling v = bs.map UInt8.toNat) : ∃ c, utf8EncodeChar c = bs ∧ c.toNat = v := by
  have number : (Char.ofNat v).toNat = v := by
    rw [Char.ofNat, dif_pos valid]
    rfl
  exact ⟨Char.ofNat v, utf8EncodeChar_eq_iff.2 (number.symm ▸ h), number⟩

/-- The range of a byte that goes on with a character. -/
def IsTail (b : UInt8) : Prop := 0x80 ≤ b.toNat ∧ b.toNat ≤ 0xBF

/-- What the first byte of a character says about the others. -/
theorem cons_cases (h : utf8EncodeChar c = b :: t) :
    b.toNat ≤ 0x7F ∧ t = [] ∨
    (0xC2 ≤ b.toNat ∧ b.toNat ≤ 0xDF) ∧ (∃ x, t = [x] ∧ IsTail x) ∨
    (0xE0 ≤ b.toNat ∧ b.toNat ≤ 0xEF) ∧ (∃ x y, t = [x, y] ∧ IsTail x ∧ IsTail y ∧
      (b.toNat = 0xE0 → 0xA0 ≤ x.toNat) ∧ (b.toNat = 0xED → x.toNat ≤ 0x9F)) ∨
    (0xF0 ≤ b.toNat ∧ b.toNat ≤ 0xF4) ∧ (∃ x y z, t = [x, y, z] ∧ IsTail x ∧ IsTail y ∧ IsTail z ∧
      (b.toNat = 0xF0 → 0x90 ≤ x.toNat) ∧ (b.toNat = 0xF4 → x.toNat ≤ 0x8F)) := by
  have valid : c.toNat < 0xD800 ∨ 0xDFFF < c.toNat ∧ c.toNat < 0x110000 := c.valid
  rw [utf8EncodeChar_eq_iff, spelling] at h
  generalize c.toNat = v at h valid
  -- In each case of `spelling`, its length gives names to the other bytes; the rest is arithmetic.
  have length := congrArg List.length h
  split_ifs at h length with one two three
  · obtain rfl : t = [] := List.length_eq_zero_iff.1 (by simpa using length.symm)
    simp only [List.map_cons, List.map_nil, List.cons.injEq] at h
    exact .inl ⟨by omega, rfl⟩
  · obtain ⟨x, rfl⟩ := List.length_eq_one_iff.1 (by simpa using length.symm : t.length = 1)
    simp only [List.map_cons, List.map_nil, List.cons.injEq] at h
    refine .inr (.inl ⟨by omega, x, rfl, ?_⟩)
    unfold IsTail
    omega
  · obtain ⟨x, y, rfl⟩ := List.length_eq_two.1 (by simpa using length.symm : t.length = 2)
    simp only [List.map_cons, List.map_nil, List.cons.injEq] at h
    refine .inr (.inr (.inl ⟨by omega, x, y, rfl, ?_⟩))
    unfold IsTail
    omega
  · obtain ⟨x, y, z, rfl⟩ := List.length_eq_three.1 (by simpa using length.symm : t.length = 3)
    simp only [List.map_cons, List.map_nil, List.cons.injEq] at h
    refine .inr (.inr (.inr ⟨by omega, x, y, z, rfl, ?_⟩))
    unfold IsTail
    omega

/-- A byte that begins a character of two. -/
theorem isValid_of_two (h : 0xC2 ≤ b.toNat ∧ b.toNat ≤ 0xDF) :
    Started.IsValid ⟨[b], 1, 0x80, 0xBF, b.toNat % 0x20⟩ where
  missing_pos := Nat.one_pos
  low_le := of_decide_eq_true rfl
  completes t awaits := by
    match t, awaits with
    | [x], ⟨range, _, _⟩ =>
      simp only [UInt8.le_iff_toNat_le, UInt8.toNat_ofNat] at range
      simp only [valueAfter, List.foldl_cons, List.foldl_nil]
      apply exists_utf8EncodeChar
      · omega
      · rw [spelling, if_neg (by omega), if_pos (by omega)]
        simp only [List.singleton_append, List.map_cons, List.map_nil, List.cons.injEq, and_true]
        omega
  only t c htc := by
    obtain one | ⟨-, x, rfl, hx⟩ | three | four := cons_cases htc
    · omega
    · exact ⟨by simpa [IsTail, UInt8.le_iff_toNat_le] using hx, rfl, by simp⟩
    · omega
    · omega

/-- A byte that begins a character of three, and the range that it leaves for the second one. -/
theorem isValid_of_three (low high : UInt8) (h : 0xE0 ≤ b.toNat ∧ b.toNat ≤ 0xEF)
    (range : low.toNat = (if b.toNat = 0xE0 then 0xA0 else 0x80) ∧
      high.toNat = (if b.toNat = 0xED then 0x9F else 0xBF)) :
    Started.IsValid ⟨[b], 2, low, high, b.toNat % 0x10⟩ where
  missing_pos := Nat.two_pos
  low_le := by
    rw [UInt8.le_iff_toNat_le, range.1, range.2]
    split_ifs <;> omega
  completes t awaits := by
    match t, awaits with
    | [x, y], ⟨hx, _, hy⟩ =>
      have hy := hy y (List.mem_singleton_self y)
      simp only [UInt8.le_iff_toNat_le, UInt8.toNat_ofNat, range] at hx hy
      obtain ⟨tail, e0, ed⟩ : IsTail x ∧ (b.toNat = 0xE0 → 0xA0 ≤ x.toNat) ∧
          (b.toNat = 0xED → x.toNat ≤ 0x9F) := by
        unfold IsTail
        split_ifs at hx <;> omega
      clear hx range
      unfold IsTail at tail
      simp only [valueAfter, List.foldl_cons, List.foldl_nil]
      apply exists_utf8EncodeChar
      · omega
      · rw [spelling, if_neg (by omega), if_neg (by omega), if_pos (by omega)]
        simp only [List.singleton_append, List.map_cons, List.map_nil, List.cons.injEq, and_true]
        omega
  only t c htc := by
    obtain one | two | ⟨-, x, y, rfl, hx, hy, e0, ed⟩ | four := cons_cases htc
    · omega
    · omega
    · refine ⟨?_, rfl, by simpa [IsTail, UInt8.le_iff_toNat_le] using hy⟩
      simp only [UInt8.le_iff_toNat_le, range]
      unfold IsTail at hx
      split_ifs <;> omega
    · omega

/-- A byte that begins a character of four, and the range that it leaves for the second one. -/
theorem isValid_of_four (low high : UInt8) (h : 0xF0 ≤ b.toNat ∧ b.toNat ≤ 0xF4)
    (range : low.toNat = (if b.toNat = 0xF0 then 0x90 else 0x80) ∧
      high.toNat = (if b.toNat = 0xF4 then 0x8F else 0xBF)) :
    Started.IsValid ⟨[b], 3, low, high, b.toNat % 8⟩ where
  missing_pos := Nat.succ_pos 2
  low_le := by
    rw [UInt8.le_iff_toNat_le, range.1, range.2]
    split_ifs <;> omega
  completes t awaits := by
    match t, awaits with
    | [x, y, z], ⟨hx, _, hyz⟩ =>
      have hy := hyz y (by simp)
      have hz := hyz z (by simp)
      simp only [UInt8.le_iff_toNat_le, UInt8.toNat_ofNat, range] at hx hy hz
      obtain ⟨tail, f0, f4⟩ : IsTail x ∧ (b.toNat = 0xF0 → 0x90 ≤ x.toNat) ∧
          (b.toNat = 0xF4 → x.toNat ≤ 0x8F) := by
        unfold IsTail
        split_ifs at hx <;> omega
      clear hx range
      unfold IsTail at tail
      simp only [valueAfter, List.foldl_cons, List.foldl_nil]
      apply exists_utf8EncodeChar
      · omega
      · rw [spelling, if_neg (by omega), if_neg (by omega), if_neg (by omega)]
        simp only [List.singleton_append, List.map_cons, List.map_nil, List.cons.injEq, and_true]
        omega
  only t c htc := by
    obtain one | two | three | ⟨-, x, y, z, rfl, hx, hy, hz, f0, f4⟩ := cons_cases htc
    · omega
    · omega
    · omega
    · refine ⟨?_, rfl, by simpa [IsTail, UInt8.le_iff_toNat_le] using And.intro hy hz⟩
      simp only [UInt8.le_iff_toNat_le, range]
      unfold IsTail at hx
      split_ifs <;> omega

theorem isValid_of_open? (h : open? b = .ok s) : s.IsValid ∧ s.bytes = [b] := by
  simp only [open?] at h
  split_ifs at h with _ two e0 ed three f0 four f4 <;> obtain rfl := Except.ok.inj h
  · exact ⟨isValid_of_two two, rfl⟩
  · have valid := isValid_of_three (b := b) 0xA0 0xBF (by omega) (by simp [e0])
    exact ⟨by simpa only [e0] using valid, rfl⟩
  · have valid := isValid_of_three (b := b) 0x80 0x9F (by omega) (by simp [ed])
    exact ⟨by simpa only [ed] using valid, rfl⟩
  · exact ⟨isValid_of_three _ _ ⟨by omega, three.2⟩ (by simp [e0, ed]), rfl⟩
  · have valid := isValid_of_four (b := b) 0x90 0xBF (by omega) (by simp [f0])
    exact ⟨by simpa only [f0] using valid, rfl⟩
  · exact ⟨isValid_of_four _ _ (by omega) (by rw [if_neg f0, if_neg (by omega)]; simp), rfl⟩
  · have valid := isValid_of_four (b := b) 0x80 0x8F (by omega) (by simp [f4])
    exact ⟨by simpa only [f4] using valid, rfl⟩

/-- A byte that is no beginning is a character of its own, or none begins with it. -/
theorem of_open?_eq_error (h : open? b = .error c) :
    utf8EncodeChar c = [b] ∨ c = replacement ∧ ∀ c t, utf8EncodeChar c ≠ b :: t := by
  simp only [open?] at h
  split_ifs at h with one two e0 ed three f0 four f4 <;> obtain rfl := Except.error.inj h
  · obtain ⟨c, hc, number⟩ : ∃ c, utf8EncodeChar c = [b] ∧ c.toNat = b.toNat :=
      exists_utf8EncodeChar (by omega) (if_pos (by omega))
    rw [← number, Char.ofNat_toNat]
    exact .inl hc
  · refine .inr ⟨rfl, fun c t hc => ?_⟩
    have := cons_cases hc
    omega

theorem Started.IsValid.awaits_low (valid : s.IsValid) :
    s.Awaits (s.low :: List.replicate (s.missing - 1) 0x80) := by
  refine ⟨⟨UInt8.le_refl _, valid.low_le⟩, ?_, fun x hx => ?_⟩
  · rw [List.length_replicate]
    exact Nat.sub_add_cancel valid.missing_pos
  · obtain rfl := (List.mem_replicate.1 hx).2
    decide

theorem Started.IsValid.begins (valid : s.IsValid) : Begins s.bytes := by
  obtain ⟨c, hc, -⟩ := valid.completes _ valid.awaits_low
  exact ⟨c, _, hc.symm⟩

/-- A beginning of a character is not yet one. -/
theorem Started.IsValid.not_prefix (valid : s.IsValid) (c : Char) :
    ¬ utf8EncodeChar c <+: s.bytes := by
  rintro ⟨u, hu⟩
  -- The smallest bytes that it awaits would make it a character that begins with another one.
  obtain ⟨c', hc', -⟩ := valid.completes _ valid.awaits_low
  rw [← hu, List.append_assoc] at hc'
  have whole := (utf8EncodeChar_append_inj ((List.append_nil _).trans hc')).2
  exact List.cons_ne_nil _ _ (List.append_eq_nil_iff.1 whole.symm).2

/-- A byte out of range does not go on with the character. -/
theorem Started.IsValid.not_begins (valid : s.IsValid) (out : ¬ (s.low ≤ b ∧ b ≤ s.high)) :
    ¬ Begins (s.bytes ++ [b]) := by
  rintro ⟨c, t, hc⟩
  rw [List.append_assoc] at hc
  exact out (valid.only _ c hc.symm).1

/-- The last byte in range completes a character. -/
theorem Started.IsValid.complete (valid : s.IsValid) (inside : s.low ≤ b ∧ b ≤ s.high)
    (last : s.missing ≤ 1) :
    utf8EncodeChar (Char.ofNat (0x40 * s.value + b.toNat % 0x40)) = s.bytes ++ [b] := by
  have one : ([] : List UInt8).length + 1 = s.missing := Nat.le_antisymm valid.missing_pos last
  obtain ⟨c, hc, number⟩ := valid.completes [b] ⟨inside, one, by simp⟩
  replace number : c.toNat = 0x40 * s.value + b.toNat % 0x40 := number
  rw [← number, Char.ofNat_toNat, hc]

/-- Any other byte in range makes the beginning longer. -/
theorem Started.IsValid.extend (valid : s.IsValid) (inside : s.low ≤ b ∧ b ≤ s.high)
    (more : ¬ s.missing ≤ 1) :
    Started.IsValid ⟨s.bytes ++ [b], s.missing - 1, 0x80, 0xBF,
      0x40 * s.value + b.toNat % 0x40⟩ where
  missing_pos := by
    show 0 < s.missing - 1
    omega
  low_le := of_decide_eq_true rfl
  completes t awaits := by
    have longer : s.Awaits (b :: t) := by
      match t, awaits with
      | x :: t, ⟨hx, length, ht⟩ =>
        refine ⟨inside, ?_, List.forall_mem_cons.2 ⟨hx, ht⟩⟩
        replace length : t.length + 1 = s.missing - 1 := length
        rw [List.length_cons]
        omega
    obtain ⟨c, hc, number⟩ := valid.completes _ longer
    exact ⟨c, by rw [hc, List.append_assoc]; rfl, number⟩
  only t c hc := by
    rw [List.append_assoc, List.singleton_append] at hc
    obtain ⟨-, length, ht⟩ := valid.only _ c hc
    match t with
    | [] =>
      replace length : 1 = s.missing := length
      omega
    | x :: t =>
      obtain ⟨hx, ht⟩ := List.forall_mem_cons.1 ht
      refine ⟨hx, ?_, ht⟩
      rw [List.length_cons] at length
      show t.length + 1 = s.missing - 1
      omega

/-! ## Bytes that begin no character -/

theorem Begins.of_prefix (h : Begins bs) (hp : p <+: bs) : Begins p := by
  obtain ⟨c, hc⟩ := h
  exact ⟨c, hp.trans hc⟩

/-- Bytes that a longer beginning of `p ++ bs` adds to `p` are those of `bs`. -/
theorem exists_next (hq : bs' <+: p ++ bs) (longer : p.length < bs'.length) :
    ∃ b t, bs = b :: t ∧ p ++ [b] <+: bs' := by
  obtain ⟨u, rfl⟩ := List.prefix_of_prefix_length_le (List.prefix_append p bs) hq (Nat.le_of_lt longer)
  match u with
  | [] => simp at longer
  | b :: u =>
    obtain ⟨t, rfl⟩ := (List.prefix_append_right_inj p).1 hq
    exact ⟨b, u ++ t, rfl, u, by simp⟩

/-- Bytes that begin a character, or a single byte, are broken if they hold no character and do not
go on. -/
theorem isBroken_of_stuck (ne_nil : p ≠ []) (begins : Begins p ∨ p.length = 1)
    (unreadable : ∀ c, ¬ utf8EncodeChar c <+: p)
    (stuck : ∀ b t, bs = b :: t → ¬ Begins (p ++ [b])) : IsBroken p bs where
  ne_nil := ne_nil
  unreadable c hc := by
    obtain short | long := Nat.lt_or_ge p.length (utf8EncodeChar c).length
    · obtain ⟨b, t, hbs, hb⟩ := exists_next hc short
      exact stuck b t hbs ⟨c, hb⟩
    · exact unreadable c (List.prefix_of_prefix_length_le hc (List.prefix_append p bs) long)
  begins := begins
  longest q hq longer begun := by
    obtain ⟨b, t, hbs, hb⟩ := exists_next hq longer
    exact stuck b t hbs (begun.of_prefix hb)

theorem Started.IsValid.isBroken (valid : s.IsValid) (ne_nil : s.bytes ≠ [])
    (out : ∀ b t, bs = b :: t → ¬ (s.low ≤ b ∧ b ≤ s.high)) : IsBroken s.bytes bs :=
  isBroken_of_stuck ne_nil (.inl valid.begins) valid.not_prefix
    fun b t hbs => valid.not_begins (out b t hbs)

/-- A byte with which no character begins is broken. -/
theorem isBroken_singleton (unwritten : ∀ c t, utf8EncodeChar c ≠ b :: t) : IsBroken [b] bs := by
  refine isBroken_of_stuck (List.cons_ne_nil _ _) (.inr rfl) (fun c hc => ?_) ?_
  · obtain ⟨x, u, hx⟩ := List.exists_cons_of_ne_nil (utf8EncodeChar_ne_nil c)
    rw [hx, List.cons_prefix_cons] at hc
    exact unwritten c u (hc.1 ▸ hx)
  · rintro x t - ⟨c, u, hu⟩
    exact unwritten c _ hu.symm

/-! ## The decoder decodes -/

/-- What the decoder holds back is a beginning of a character. -/
def Decoder.IsValid (d : Decoder) : Prop := ∀ s, d = some s → s.IsValid ∧ s.bytes ≠ []

theorem Decoder.isValid_none : Decoder.IsValid none := by
  rintro s ⟨⟩

theorem Decoder.isValid_begin (b : UInt8) : (begin b).2.IsValid := by
  rw [begin]
  cases h : open? b with
  | error c => exact isValid_none
  | ok s =>
    obtain ⟨valid, bytes⟩ := isValid_of_open? h
    rintro _ ⟨⟩
    exact ⟨valid, bytes ▸ List.cons_ne_nil _ _⟩

theorem Decoder.IsValid.step (valid : d.IsValid) (b : UInt8) : (d.step b).2.IsValid := by
  cases d with
  | none => exact isValid_begin b
  | some s =>
    rw [Decoder.step]
    split
    · next inside =>
      rw [Started.extend]
      split
      · exact isValid_none
      · next more =>
        rintro _ ⟨⟩
        exact ⟨(valid s rfl).1.extend inside more, by simp⟩
    · exact isValid_begin b

theorem Decoder.IsValid.write (valid : d.IsValid) (bs : List UInt8) : (d.write bs).2.IsValid := by
  induction bs generalizing d with
  | nil => exact valid
  | cons b bs ih => exact ih (valid.step b)

theorem Decoder.IsValid.isUnfinished (valid : d.IsValid) : IsUnfinished d.held := by
  cases d with
  | none => exact isUnfinished_nil
  | some s =>
    obtain ⟨valid, -⟩ := valid s rfl
    exact isUnfinished_iff.2 ⟨valid.begins, fun c => valid.not_prefix c⟩

theorem Decoder.IsValid.finish_eq (valid : d.IsValid) :
    d.finish = if d.held = [] then [] else [replacement] := by
  cases d with
  | none => rfl
  | some s => exact (if_neg (valid s rfl).2).symm

/-- If what is held back is read together with the bytes to come, then so is a byte read between
characters. -/
theorem reads_begin (later : Reads ((begin b).2.held ++ bs) cs rest) :
    Reads (b :: bs) ((begin b).1 ++ cs) rest := by
  rw [begin] at later ⊢
  cases h : open? b with
  | error c =>
    rw [h] at later
    obtain whole | ⟨rfl, unwritten⟩ := of_open?_eq_error h
    · have first := Reads.char c later
      rwa [whole] at first
    · refine .broken (isBroken_singleton unwritten) ?_ later
      rintro ⟨c, u, hu⟩
      exact unwritten c _ hu.symm
  | ok s =>
    rw [h] at later
    rwa [Decoder.held, (isValid_of_open? h).2] at later

/-- What the decoder holds back is read together with a byte. -/
theorem reads_step (valid : d.IsValid) (later : Reads ((d.step b).2.held ++ bs) cs rest) :
    Reads (d.held ++ b :: bs) ((d.step b).1 ++ cs) rest := by
  cases d with
  | none => exact reads_begin later
  | some s =>
    obtain ⟨valid, ne_nil⟩ := valid s rfl
    rw [Decoder.step] at later ⊢
    split at later
    · next inside =>
      rw [if_pos inside]
      rw [Started.extend] at later ⊢
      split at later
      · next last =>
        -- The byte completes the character.
        have whole := Reads.char (Char.ofNat (0x40 * s.value + b.toNat % 0x40)) later
        rw [valid.complete inside last, List.append_assoc] at whole
        rw [if_pos last]
        exact whole
      · next more =>
        -- It is held back with the others.
        rw [if_neg more]
        simpa [Decoder.held] using later
    · next out =>
      -- It breaks the character off and is read once more, as the first of what follows.
      rw [if_neg out]
      refine .broken (valid.isBroken ne_nil ?_) (fun begun => ?_) (reads_begin later)
      · rintro _ _ ⟨⟩
        exact out
      · exact valid.not_begins out (begun.of_prefix ⟨bs, by simp [Decoder.held]⟩)

/-- The decoder reads what it holds back together with the bytes to come, and holds back what has to
wait. -/
theorem reads_write (valid : d.IsValid) (bs : List UInt8) :
    Reads (d.held ++ bs) (d.write bs).1 (d.write bs).2.held := by
  induction bs generalizing d with
  | nil =>
    rw [List.append_nil]
    exact .unfinished valid.isUnfinished
  | cons b bs ih => exact reads_step valid (ih (valid.step b))

/-- What the decoder holds back and the bytes that it reads until the end are decoded. -/
theorem decodes_write (valid : d.IsValid) (bs : List UInt8) :
    Decodes (d.held ++ bs) ((d.write bs).1 ++ (d.write bs).2.finish) := by
  rw [(valid.write bs).finish_eq]
  exact (reads_write valid bs).decodes (decodes_of_isUnfinished (valid.write bs).isUnfinished)

/-- The decoder finds the text that the bytes stand for. -/
theorem decodes_lossy (bs : List UInt8) : Decodes bs (lossy bs) :=
  decodes_write Decoder.isValid_none bs

theorem decodes_iff : Decodes bs cs ↔ cs = lossy bs :=
  ⟨fun h => h.unique (decodes_lossy bs), fun h => h ▸ decodes_lossy bs⟩

/-! ## Encoding and decoding -/

theorem toList_loop_eq (bytes : ByteArray) (i : Nat) (read : List UInt8) :
    ByteArray.toList.loop bytes i read = read.reverse ++ bytes.data.toList.drop i := by
  rw [ByteArray.toList.loop.eq_def]
  split
  · next h =>
    have get : bytes.get! i = bytes.data.toList[i] := getElem!_pos bytes.data i h
    rw [toList_loop_eq bytes (i + 1), get, List.reverse_cons, List.append_assoc,
      List.singleton_append, ← List.drop_eq_getElem_cons]
  · next h =>
    have short : bytes.data.toList.length ≤ i := Nat.le_of_not_lt h
    rw [List.drop_eq_nil_of_le short, List.append_nil]
termination_by bytes.size - i

/-- The bytes of a string are those of its characters, one after the other. -/
theorem encode_eq (s : String) : encode s = s.toList.flatMap utf8EncodeChar := by
  have bytes : s.toByteArray = (s.toList.flatMap utf8EncodeChar).toByteArray := by
    conv_lhs => rw [← String.ofList_toList (s := s), String.toByteArray_ofList]
    rfl
  rw [encode, String.toUTF8_eq_toByteArray, bytes, ByteArray.toList, toList_loop_eq,
    List.data_toByteArray]
  rfl

theorem encode_append (s t : String) : encode (s ++ t) = encode s ++ encode t := by
  simp only [encode_eq, String.toList_append, List.flatMap_append]

/-- An ASCII character has its own byte, and no other character has that in it. -/
theorem mem_encode_of_lt {s : String} (hb : b.toNat < 0x80) (h : b ∈ encode s) :
    Char.ofNat b.toNat ∈ s.toList := by
  rw [encode_eq] at h
  obtain ⟨c, hc, hbc⟩ := List.mem_flatMap.1 h
  have spelt : b.toNat ∈ spelling c.toNat := by
    rw [← map_toNat_utf8EncodeChar]
    exact List.mem_map_of_mem hbc
  have number : c.toNat = b.toNat := by
    unfold spelling at spelt
    split_ifs at spelt <;> simp at spelt <;> omega
  rwa [← number, Char.ofNat_toNat]

theorem decodes_flatMap (cs : List Char) : Decodes (cs.flatMap utf8EncodeChar) cs := by
  induction cs with
  | nil => exact .nil
  | cons c cs ih => exact .char c ih

theorem lossy_flatMap (cs : List Char) : lossy (cs.flatMap utf8EncodeChar) = cs :=
  (decodes_iff.1 (decodes_flatMap cs)).symm

/-- Bytes that are read without fault are those of the text that they write. -/
theorem strict?_eq_some_iff {s : String} : strict? bs = some s ↔ bs = encode s := by
  have same : bs = encode s ↔ (⟨bs.toArray⟩ : ByteArray) = s.toByteArray := by
    rw [encode, String.toUTF8_eq_toByteArray, ByteArray.toList, toList_loop_eq]
    constructor
    · rintro rfl
      rfl
    · intro h
      rw [← h]
      rfl
  rw [same, strict?, String.fromUTF8?]
  constructor
  · intro h
    split at h
    · obtain rfl := Option.some.inj h
      rfl
    · cases h
  · intro h
    rw [dif_pos (h ▸ s.isValidUTF8), Option.some.injEq, ← String.toByteArray_inj]
    exact h

end SqlLint.Text.Utf8
