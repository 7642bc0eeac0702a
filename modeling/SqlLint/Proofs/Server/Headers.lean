import Mathlib.Data.List.DropRight
import SqlLint.Proofs.Text.Utf8
import SqlLint.Server.Frame
import SqlLint.Text.Digit

/-!
# Headers of frames

What a stream begins with, said without reading it: lines (`IsLine`, `Leads`), headers and the
lengths they tell (`IsHead`), and blank lines.  A `Preamble` is any number of blank lines and then
of headers; `headers_bytes` says where its reader stands after it, and `exists_preamble` that every
stream begins with one, up to its end or to a line that is no header.
-/

namespace SqlLint.Frame

open Text

variable {α : Type} {n m : Nat} {bs line rest after : List UInt8} {cs content : List Char}
  {seen : Bool} {found told : Option Nat}

/-! ## Lines -/

/-- Bytes that do nothing but end lines. -/
def IsBreaks (bs : List UInt8) : Prop := ∀ b ∈ bs, b = 0x0D ∨ b = 0x0A

/-- A line that has its end: a line feed, the only one in it. -/
def IsLine (line : List UInt8) : Prop := ∃ bs, 0x0A ∉ bs ∧ line = bs ++ [0x0A]

/-- The line stands before the rest of a stream: it has its end, or else the stream is over. -/
def Leads (line rest : List UInt8) : Prop := IsLine line ∨ line ≠ [] ∧ 0x0A ∉ line ∧ rest = []

theorem firstLine_of_not_mem (h : 0x0A ∉ bs) : firstLine bs = (bs, []) := by
  induction bs with
  | nil => rfl
  | cons b bs ih =>
    obtain ⟨first, later⟩ := not_or.1 (List.mem_cons.not.1 h)
    rw [firstLine, if_neg (Ne.symm first), ih later]

theorem firstLine_line (h : 0x0A ∉ bs) (rest : List UInt8) :
    firstLine (bs ++ [0x0A] ++ rest) = (bs ++ [0x0A], rest) := by
  induction bs with
  | nil => rfl
  | cons b bs ih =>
    obtain ⟨first, later⟩ := not_or.1 (List.mem_cons.not.1 h)
    simp only [List.cons_append]
    rw [firstLine, if_neg (Ne.symm first), ih later]

theorem firstLine_of_leads (h : Leads line rest) : firstLine (line ++ rest) = (line, rest) := by
  rcases h with ⟨bs, hbs, rfl⟩ | ⟨-, h, rfl⟩
  · exact firstLine_line hbs rest
  · rw [List.append_nil]
    exact firstLine_of_not_mem h

theorem leads_firstLine (h : bs ≠ []) : Leads (firstLine bs).1 (firstLine bs).2 := by
  by_cases ends : 0x0A ∈ bs
  · obtain ⟨before, rest, rfl, first⟩ := List.eq_append_cons_of_mem ends
    have cut := firstLine_line first rest
    rw [List.append_assoc, List.singleton_append] at cut
    rw [cut]
    exact .inl ⟨before, first, rfl⟩
  · rw [firstLine_of_not_mem ends]
    exact .inr ⟨h, ends, rfl⟩

theorem Leads.ne_nil (h : Leads line rest) : line ≠ [] := by
  rcases h with ⟨bs, -, rfl⟩ | ⟨h, -, -⟩
  · simp
  · exact h

theorem Leads.eq_nil (h : Leads line rest) (unended : ¬ IsLine line) : rest = [] := by
  rcases h with h | ⟨-, -, h⟩
  · exact absurd h unended
  · exact h

/-- A stream begins with lines of a kind, up to its end or to a line that is not of the kind. -/
theorem exists_lines (P : List UInt8 → α → Prop) (bs : List UInt8) :
    ∃ (lines : List (List UInt8 × α)) (rest : List UInt8), bs = lines.flatMap Prod.fst ++ rest ∧
      (∀ x ∈ lines, IsLine x.1 ∧ P x.1 x.2) ∧
      (rest = [] ∨ ∃ line after, rest = line ++ after ∧ Leads line after ∧
        (IsLine line → ∀ a, ¬ P line a)) := by
  induction hn : bs.length using Nat.strongRecOn generalizing bs with
  | ind n ih =>
    by_cases empty : bs = []
    · exact ⟨[], bs, rfl, nofun, .inl empty⟩
    have leads := leads_firstLine empty
    by_cases fits : IsLine (firstLine bs).1 ∧ ∃ a, P (firstLine bs).1 a
    · obtain ⟨whole, a, ha⟩ := fits
      obtain ⟨lines, rest, cut, kind, stop⟩ :=
        ih (firstLine bs).2.length (hn ▸ length_firstLine_lt empty) (firstLine bs).2 rfl
      refine ⟨((firstLine bs).1, a) :: lines, rest, ?_, ?_, stop⟩
      · rw [List.flatMap_cons, List.append_assoc, ← cut, firstLine_append]
      · exact List.forall_mem_cons.2 ⟨⟨whole, ha⟩, kind⟩
    · refine ⟨[], bs, rfl, nofun, .inr ⟨_, _, (firstLine_append bs).symm, leads, ?_⟩⟩
      intro whole a ha
      exact fits ⟨whole, a, ha⟩

/-! ## Lengths -/

/-- The text writes a number: digits, after a plus sign or none. -/
def Writes (n : Nat) (cs : List Char) : Prop :=
  ∃ sign ds, cs = sign ++ ds ∧ (sign = [] ∨ sign = ['+']) ∧ ds ≠ [] ∧ (∀ c ∈ ds, c.isDigit) ∧
    decimalValue ds = n ∧ n < UInt64.size

/-- What a header says that tells a length: its name, and a number among blanks. -/
def TellsLength (n : Nat) (content : List Char) : Prop :=
  ∃ before number behind, content = lengthHeader ++ (before ++ number ++ behind) ∧
    (∀ c ∈ before, isBlank c) ∧ (∀ c ∈ behind, isBlank c) ∧ Writes n number

/-- Digits are read up to the end if the number that they write is small enough. -/
theorem digits_eq_ok_iff (small : n < UInt64.size) :
    digits n cs = .ok m ↔
      (∀ c ∈ cs, c.isDigit) ∧ Nat.ofDigitChars 10 cs n = m ∧ m < UInt64.size := by
  induction cs generalizing n with
  | nil =>
    simp only [digits, Nat.ofDigitChars, List.foldl_nil, Except.ok.injEq]
    constructor
    · rintro rfl
      exact ⟨nofun, rfl, small⟩
    · exact fun h => h.2.1
  | cons c cs ih =>
    by_cases digit : c.isDigit
    · by_cases large : UInt64.size ≤ 10 * n + (c.toNat - '0'.toNat)
      · have grows := le_ofDigitChars (10 * n + (c.toNat - '0'.toNat)) cs
        simp only [digits, digit, Bool.not_true, Bool.false_eq_true, if_false, if_pos large,
          reduceCtorEq, false_iff]
        rintro ⟨-, rfl, fits⟩
        exact absurd (Nat.lt_of_le_of_lt (Nat.le_trans large grows) fits) (Nat.lt_irrefl _)
      · simp only [digits, digit, Bool.not_true, Bool.false_eq_true, if_false, if_neg large]
        rw [ih (Nat.lt_of_not_le large)]
        simp [Nat.ofDigitChars, digit]
    · simp [digits, digit]

theorem length_eq_ok_iff : length cs = .ok n ↔ Writes n cs := by
  have zero : (0 : Nat) < UInt64.size := by decide
  have written (ds : List Char) (hds : ds ≠ []) : digits 0 ds = .ok n ↔
      ds ≠ [] ∧ (∀ c ∈ ds, c.isDigit) ∧ decimalValue ds = n ∧ n < UInt64.size := by
    rw [digits_eq_ok_iff zero]
    simp only [hds, ne_eq, not_false_eq_true, true_and]
    rfl
  constructor
  · intro h
    unfold length at h
    split at h
    · cases h
    · cases h
    · next cs some_ =>
      have filled : cs ≠ [] := by
        rintro rfl
        exact some_ rfl
      exact ⟨['+'], cs, rfl, .inr rfl, (written cs filled).1 h⟩
    · next filled _ _ =>
      exact ⟨[], cs, rfl, .inl rfl, (written cs fun e => filled e).1 h⟩
  · rintro ⟨sign, ds, rfl, rfl | rfl, number⟩
    · obtain ⟨d, ds, rfl⟩ := List.exists_cons_of_ne_nil number.1
      have plus : d ≠ '+' := by
        rintro rfl
        exact absurd (number.2.1 '+' (List.mem_cons_self ..)) (by decide)
      have same : length (d :: ds) = digits 0 (d :: ds) := by
        unfold length
        split <;> simp_all
      rw [List.nil_append, same]
      exact (written _ number.1).2 number
    · obtain ⟨d, ds, rfl⟩ := List.exists_cons_of_ne_nil number.1
      exact (written _ number.1).2 number

theorem isBlank_of_isDigit {c : Char} (h : c.isDigit = true) : isBlank c = false := by
  have range : 48 ≤ c.toNat ∧ c.toNat ≤ 57 := by
    simp only [Char.isDigit, Bool.and_eq_true, decide_eq_true_eq, ge_iff_le,
      UInt32.le_iff_toNat_le] at h
    exact h
  apply Bool.eq_false_iff.2
  intro blank
  simp only [isBlank, Bool.or_eq_true, Bool.and_eq_true, decide_eq_true_eq, beq_iff_eq] at blank
  omega

theorem Writes.not_isBlank {c : Char} (h : Writes n cs) (hc : c ∈ cs) : isBlank c = false := by
  obtain ⟨sign, ds, rfl, hsign, -, digit, -⟩ := h
  rcases List.mem_append.1 hc with hc | hc
  · rcases hsign with rfl | rfl
    · cases hc
    · obtain rfl := List.mem_singleton.1 hc
      decide
  · exact isBlank_of_isDigit (digit c hc)

theorem Writes.ne_nil (h : Writes n cs) : cs ≠ [] := by
  obtain ⟨sign, ds, rfl, -, filled, -⟩ := h
  simp [filled]

theorem trim_eq_of_isBlank {before behind : List Char} (hbefore : ∀ c ∈ before, isBlank c)
    (hbehind : ∀ c ∈ behind, isBlank c) (hcs : ∀ c ∈ cs, isBlank c = false) (filled : cs ≠ []) :
    trim (before ++ cs ++ behind) = cs := by
  have stays {l : List Char} (hl : ∀ c ∈ l, isBlank c = false) : l.dropWhile isBlank = l := by
    refine List.dropWhile_eq_self_iff.2 fun pos => ?_
    simp [hl _ (List.getElem_mem pos)]
  have start : trimStart (before ++ cs ++ behind) = cs ++ behind := by
    obtain ⟨c, cs, rfl⟩ := List.exists_cons_of_ne_nil filled
    rw [trimStart, List.append_assoc, List.dropWhile_append_of_pos hbefore, List.cons_append,
      List.dropWhile_cons_of_neg (by simp [hcs c (List.mem_cons_self ..)])]
  have hreverse : ∀ c ∈ behind.reverse, isBlank c := fun c hc => hbehind c (List.mem_reverse.1 hc)
  rw [trim, start, trimEnd, List.reverse_append, List.dropWhile_append_of_pos hreverse,
    stays fun c hc => hcs c (List.mem_reverse.1 hc), List.reverse_reverse]

theorem exists_trim (cs : List Char) : ∃ before behind, cs = before ++ trim cs ++ behind ∧
    (∀ c ∈ before, isBlank c) ∧ ∀ c ∈ behind, isBlank c := by
  refine ⟨leadingBlank cs, (trimStart cs).rtakeWhile isBlank, ?_, ?_, ?_⟩
  · conv_lhs => rw [← leadingBlank_append_trimStart cs,
      ← List.rdropWhile_append_rtakeWhile (p := isBlank) (l := trimStart cs)]
    rw [List.append_assoc]
    rfl
  · exact fun c hc => List.mem_takeWhile_imp hc
  · exact fun c hc => List.mem_rtakeWhile_imp hc

/-- What a header tells: a length, if it has the name for that, and nothing otherwise. -/
inductive Tells : List Char → Option Nat → Prop where
  | length {n : Nat} {content : List Char} : TellsLength n content → Tells content (some n)
  | other {content : List Char} : ¬ lengthHeader <+: content → Tells content none

theorem headerLength?_append {number : List Char} :
    headerLength? (lengthHeader ++ number) = (length (trim number)).map some := by
  rw [headerLength?, if_pos (List.isPrefixOf_iff_prefix.2 (List.prefix_append _ _)),
    List.drop_left]

theorem headerLength?_of_tells (h : Tells content told) : headerLength? content = .ok told := by
  rcases h with ⟨before, number, behind, rfl, hbefore, hbehind, writes⟩ | other
  · rw [headerLength?_append, trim_eq_of_isBlank hbefore hbehind
      (fun c hc => writes.not_isBlank hc) writes.ne_nil, length_eq_ok_iff.2 writes]
    rfl
  · rw [headerLength?, if_neg (List.isPrefixOf_iff_prefix.not.2 other)]

theorem tells_of_headerLength? (h : headerLength? content = .ok told) : Tells content told := by
  by_cases named : lengthHeader <+: content
  · obtain ⟨number, rfl⟩ := named
    rw [headerLength?_append] at h
    cases hn : length (trim number) with
    | error fault =>
      rw [hn] at h
      cases h
    | ok n =>
      rw [hn] at h
      obtain rfl := Except.ok.inj h
      obtain ⟨before, behind, cut, hbefore, hbehind⟩ := exists_trim number
      exact .length ⟨before, trim number, behind, congrArg _ cut, hbefore, hbehind,
        length_eq_ok_iff.1 hn⟩
  · rw [headerLength?, if_neg (List.isPrefixOf_iff_prefix.not.2 named)] at h
    obtain rfl := Except.ok.inj h
    exact .other named

/-! ## Headers -/

/-- The line holds a text, up to what ends it. -/
def Holds (line : List UInt8) (content : List Char) : Prop :=
  (∃ c, content.getLast? = some c ∧ c ≠ '\r' ∧ c ≠ '\n') ∧
  ∃ breaks, line = Utf8.encode (String.ofList (content ++ breaks)) ∧
    ∀ c ∈ breaks, c = '\r' ∨ c = '\n'

/-- The line is a header, and this is the length that it tells. -/
def IsHead (line : List UInt8) (told : Option Nat) : Prop :=
  ∃ content, Holds line content ∧ Tells content told

/-- The line has the name of the header that tells the length, and tells none. -/
def IsMalformed (line : List UInt8) : Prop :=
  ∃ content, Holds line content ∧ lengthHeader <+: content ∧ ∀ n, ¬ TellsLength n content

/-- The line is no text. -/
def IsNoText (line : List UInt8) : Prop := ∀ s, line ≠ Utf8.encode s

theorem headerText_append {breaks : List Char}
    (last : ∃ c, content.getLast? = some c ∧ c ≠ '\r' ∧ c ≠ '\n')
    (hbreaks : ∀ c ∈ breaks, c = '\r' ∨ c = '\n') : headerText (content ++ breaks) = content := by
  obtain ⟨c, hc, ne⟩ := last
  obtain ⟨front, rfl⟩ := List.getLast?_eq_some_iff.1 hc
  have dropped : ∀ c ∈ breaks.reverse, (c == '\n' || c == '\r') = true := by
    intro c hc
    rcases hbreaks c (List.mem_reverse.1 hc) with rfl | rfl <;> rfl
  rw [headerText, List.reverse_append, List.dropWhile_append_of_pos dropped, List.reverse_append,
    List.reverse_singleton, List.singleton_append, List.dropWhile_cons_of_neg (by simp [ne])]
  simp

theorem holds_headerText {s : String} (h : headerText s.toList ≠ []) :
    Holds (Utf8.encode s) (headerText s.toList) := by
  let p : Char → Bool := fun c => c == '\n' || c == '\r'
  have cut : headerText s.toList ++ s.toList.rtakeWhile p = s.toList :=
    List.rdropWhile_append_rtakeWhile
  refine ⟨⟨_, List.getLast?_eq_some_getLast h, ?_⟩, s.toList.rtakeWhile p, ?_, ?_⟩
  · have last := List.rdropWhile_last_not p s.toList h
    simp only [p, Bool.or_eq_true, beq_iff_eq, not_or] at last
    exact ⟨last.2, last.1⟩
  · rw [cut, String.ofList_toList]
  · intro c hc
    have breaks := List.mem_rtakeWhile_imp hc
    simp only [p, Bool.or_eq_true, beq_iff_eq] at breaks
    exact breaks.symm

theorem isBreaks_encode {s : String} (h : headerText s.toList = []) : IsBreaks (Utf8.encode s) := by
  have all := List.rdropWhile_eq_nil_iff.1 (show s.toList.rdropWhile _ = [] from h)
  intro b hb
  rw [Utf8.encode_eq] at hb
  obtain ⟨c, hc, hb⟩ := List.mem_flatMap.1 hb
  have ends := all c hc
  simp only [Bool.or_eq_true, beq_iff_eq] at ends
  rcases ends with rfl | rfl
  · exact .inr (List.mem_singleton.1 hb)
  · exact .inl (List.mem_singleton.1 hb)

theorem IsBreaks.exists_text (h : IsBreaks line) :
    ∃ s, line = Utf8.encode s ∧ headerText s.toList = [] := by
  have made : ∃ cs, line = Utf8.encode (String.ofList cs) ∧ ∀ c ∈ cs, c = '\n' ∨ c = '\r' := by
    induction line with
    | nil => exact ⟨[], by simp [Utf8.encode_eq], nofun⟩
    | cons b line ih =>
      obtain ⟨hb, hline⟩ := List.forall_mem_cons.1 h
      obtain ⟨cs, rfl, hcs⟩ := ih hline
      have put (c : Char) (hc : String.utf8EncodeChar c = [b]) :
          b :: Utf8.encode (String.ofList cs) = Utf8.encode (String.ofList (c :: cs)) := by
        simp only [Utf8.encode_eq, String.toList_ofList, List.flatMap_cons, hc]
        rfl
      rcases hb with rfl | rfl
      · exact ⟨'\r' :: cs, put '\r' rfl, List.forall_mem_cons.2 ⟨.inr rfl, hcs⟩⟩
      · exact ⟨'\n' :: cs, put '\n' rfl, List.forall_mem_cons.2 ⟨.inl rfl, hcs⟩⟩
  obtain ⟨cs, rfl, hcs⟩ := made
  refine ⟨String.ofList cs, rfl, List.rdropWhile_eq_nil_iff.2 ?_⟩
  intro c hc
  rw [String.toList_ofList] at hc
  simpa using hcs c hc

/-- What a line is. -/
theorem line_cases (line : List UInt8) :
    IsBreaks line ∨ (∃ told, IsHead line told) ∨ IsMalformed line ∨ IsNoText line := by
  cases hs : Utf8.strict? line with
  | none =>
    refine .inr (.inr (.inr fun s e => ?_))
    rw [Utf8.strict?_eq_some_iff.2 e] at hs
    cases hs
  | some s =>
    obtain rfl := Utf8.strict?_eq_some_iff.1 hs
    by_cases blank : headerText s.toList = []
    · exact .inl (isBreaks_encode blank)
    have holds := holds_headerText blank
    cases hn : headerLength? (headerText s.toList) with
    | ok told => exact .inr (.inl ⟨told, _, holds, tells_of_headerLength? hn⟩)
    | error fault =>
      refine .inr (.inr (.inl ⟨_, holds, ?_, fun n tells => ?_⟩))
      · by_contra other
        rw [headerLength?_of_tells (.other other)] at hn
        cases hn
      · rw [headerLength?_of_tells (.length tells)] at hn
        cases hn

/-! ## Reading line by line -/

theorem headers_line (h : Leads line rest) : headers seen found (line ++ rest) =
    match Utf8.strict? line with
    | none => .error (.headerNotText, rest)
    | some s =>
      if headerText s.toList = [] then if seen then .ok (some (found, rest))
        else headers false found rest
      else match headerLength? (headerText s.toList) with
        | .error fault => .error (.badLength fault, rest)
        | .ok told => headers true (told.or found) rest := by
  have more : line ++ rest ≠ [] := List.append_ne_nil_of_left_ne_nil h.ne_nil rest
  have reads := headers.eq_def seen found (line ++ rest)
  rw [dif_neg more, firstLine_of_leads h] at reads
  exact reads

theorem headers_breaks (h : Leads line rest) (hline : IsBreaks line) :
    headers seen found (line ++ rest) =
      if seen then .ok (some (found, rest)) else headers false found rest := by
  obtain ⟨s, hs, blank⟩ := hline.exists_text
  rw [headers_line h, Utf8.strict?_eq_some_iff.2 hs]
  exact if_pos blank

theorem Holds.exists_text (h : Holds line content) : ∃ s, Utf8.strict? line = some s ∧
    headerText s.toList = content ∧ content ≠ [] := by
  obtain ⟨last, breaks, rfl, hbreaks⟩ := h
  refine ⟨_, Utf8.strict?_eq_some_iff.2 rfl, ?_, ?_⟩
  · rw [String.toList_ofList, headerText_append last hbreaks]
  · rintro rfl
    obtain ⟨c, hc, -⟩ := last
    cases hc

theorem headers_head (h : Leads line rest) (hline : IsHead line told) :
    headers seen found (line ++ rest) = headers true (told.or found) rest := by
  obtain ⟨content, holds, tells⟩ := hline
  obtain ⟨s, hs, rfl, filled⟩ := holds.exists_text
  rw [headers_line h, hs]
  simp only [if_neg filled, headerLength?_of_tells tells]

theorem headers_malformed (seen : Bool) (found : Option Nat) (h : Leads line rest)
    (hline : IsMalformed line) :
    ∃ fault, headers seen found (line ++ rest) = .error (.badLength fault, rest) := by
  obtain ⟨content, holds, named, without⟩ := hline
  obtain ⟨s, hs, rfl, filled⟩ := holds.exists_text
  rw [headers_line h, hs]
  simp only [if_neg filled]
  cases hn : headerLength? (headerText s.toList) with
  | error fault => exact ⟨fault, rfl⟩
  | ok told =>
    cases tells_of_headerLength? hn with
    | length tells => exact absurd tells (without _)
    | other other => exact absurd named other

theorem headers_noText (h : Leads line rest) (hline : IsNoText line) :
    headers seen found (line ++ rest) = .error (.headerNotText, rest) := by
  have unreadable : Utf8.strict? line = none := by
    cases hs : Utf8.strict? line with
    | none => rfl
    | some s => exact absurd (Utf8.strict?_eq_some_iff.1 hs) (hline s)
  rw [headers_line h, unreadable]

/-! ## Preambles -/

/-- Blank lines, and then headers with what they tell. -/
structure Preamble where
  blanks : List (List UInt8)
  heads : List (List UInt8 × Option Nat)
  blank : ∀ line ∈ blanks, IsLine line ∧ IsBreaks line
  head : ∀ h ∈ heads, IsLine h.1 ∧ IsHead h.1 h.2

namespace Preamble

/-- The bytes of the lines. -/
def bytes (p : Preamble) : List UInt8 := p.blanks.flatten ++ p.heads.flatMap Prod.fst

/-- The last length that a header tells. -/
def told? (p : Preamble) : Option Nat := (p.heads.filterMap Prod.snd).getLast?

end Preamble

theorem headers_blanks {blanks : List (List UInt8)}
    (h : ∀ line ∈ blanks, IsLine line ∧ IsBreaks line) (rest : List UInt8) :
    headers false found (blanks.flatten ++ rest) = headers false found rest := by
  induction blanks with
  | nil => rfl
  | cons line blanks ih =>
    obtain ⟨⟨whole, breaks⟩, hblanks⟩ := List.forall_mem_cons.1 h
    rw [List.flatten_cons, List.append_assoc, headers_breaks (.inl whole) breaks]
    exact ih hblanks

theorem headers_heads {heads : List (List UInt8 × Option Nat)}
    (h : ∀ x ∈ heads, IsLine x.1 ∧ IsHead x.1 x.2) (rest : List UInt8) :
    headers seen found (heads.flatMap Prod.fst ++ rest) =
      headers (seen || ! heads.isEmpty) ((heads.filterMap Prod.snd).getLast?.or found) rest := by
  induction heads generalizing seen found with
  | nil => simp
  | cons x heads ih =>
    obtain ⟨⟨whole, head⟩, hheads⟩ := List.forall_mem_cons.1 h
    rw [List.flatMap_cons, List.append_assoc, headers_head (.inl whole) head, ih hheads]
    obtain ⟨line, told⟩ := x
    cases told with
    | none => simp
    | some n => cases hl : (heads.filterMap Prod.snd).getLast? <;> simp [List.getLast?_cons, hl]

/-- Where the reader of headers stands after a preamble. -/
theorem headers_bytes (p : Preamble) (rest : List UInt8) :
    headers false none (p.bytes ++ rest) = headers (! p.heads.isEmpty) p.told? rest := by
  rw [Preamble.bytes, List.append_assoc, headers_blanks p.blank, headers_heads p.head]
  simp [Preamble.told?]

/-- What a stream goes on with after a preamble, when that was as long as it can be. -/
theorem exists_preamble (bs : List UInt8) : ∃ (p : Preamble) (rest : List UInt8),
    bs = p.bytes ++ rest ∧
    (rest = [] ∨ ∃ line after, rest = line ++ after ∧ Leads line after ∧
      (IsLine line → ∀ told, ¬ IsHead line told) ∧
      (p.heads = [] → IsLine line → ¬ IsBreaks line)) := by
  obtain ⟨lines, later, rfl, blank, stop⟩ :=
    exists_lines (fun line (_ : Unit) => IsBreaks line) bs
  obtain ⟨heads, rest, rfl, head, stop'⟩ := exists_lines IsHead later
  have blank' : ∀ line ∈ lines.map Prod.fst, IsLine line ∧ IsBreaks line := by
    intro line hline
    obtain ⟨x, hx, rfl⟩ := List.mem_map.1 hline
    exact blank x hx
  refine ⟨⟨lines.map Prod.fst, heads, blank', head⟩, rest, ?_, ?_⟩
  · rw [Preamble.bytes, List.append_assoc, List.flatMap_def]
  · rcases stop' with ended | ⟨line, after, rfl, leads, other⟩
    · exact .inl ended
    · refine .inr ⟨line, after, rfl, leads, other, ?_⟩
      rintro rfl whole breaks
      rcases stop with ended | ⟨line', after', same, leads', other'⟩
      · simp [leads.ne_nil] at ended
      · rw [List.flatMap_nil, List.nil_append] at same
        have first := firstLine_of_leads leads
        rw [same, firstLine_of_leads leads'] at first
        obtain ⟨rfl, rfl⟩ := Prod.mk.inj first
        exact other' whole () breaks

end SqlLint.Frame
