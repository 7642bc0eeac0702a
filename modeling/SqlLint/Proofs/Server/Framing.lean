import SqlLint.Proofs.Server.Headers

/-!
# Frames in any stream

`Ends` says how reading a frame may end: with nothing, if nothing but blank lines was left; with a
body, if headers that tell its length were closed by a blank line; or with an error of one of two
kinds.  Whatever the stream, reading ends in one of these ways, unless the length that is told is
too large for any body to have it, or for the memory that can be had (`ends_read_iff`).
-/

namespace SqlLint.Frame

open Text

variable {n memory : Nat} {bs line rest after body : List UInt8} {told : Option Nat}

/-! ## Beginnings of streams -/

/-- The stream begins with headers that a blank line closes.  The last length that they tell is
`told`, and `after` follows. -/
def Opens (bs : List UInt8) (told : Option Nat) (after : List UInt8) : Prop :=
  ∃ (p : Preamble) (closing : List UInt8), bs = p.bytes ++ closing ++ after ∧ p.heads ≠ [] ∧
    p.told? = told ∧ IsBreaks closing ∧ Leads closing after

/-- After some headers comes a line that is no text, or one that should tell a length and does not.
-/
def Garbled (bs rest : List UInt8) : Prop :=
  ∃ (p : Preamble) (line : List UInt8), bs = p.bytes ++ line ++ rest ∧ Leads line rest ∧
    (IsNoText line ∨ IsMalformed line)

/-- The stream ends after a header, or with one that has no end. -/
def Breaks (bs : List UInt8) : Prop :=
  ∃ (p : Preamble) (line : List UInt8), bs = p.bytes ++ line ∧
    (p.heads ≠ [] ∧ line = [] ∨ 0x0A ∉ line ∧ ∃ told, IsHead line told)

/-- How reading a frame may end.  A fault tells that the stream ended too early (`isEnd`), or that
what was read is invalid. -/
inductive Ends (bs : List UInt8) : FrameRead → Prop where
  | clean : IsBreaks bs → Ends bs .over
  | body {body rest : List UInt8} : Opens bs (some body.length) (body ++ rest) →
      Ends bs (.body body rest)
  | invalid {f : FrameFault} {rest : List UInt8} : f.isEnd = false → f.isCrash = false →
      Garbled bs rest ∨ Opens bs none rest → Ends bs (.fault f rest)
  | early {f : FrameFault} : f.isEnd = true →
      Breaks bs ∨ (∃ n after, Opens bs (some n) after ∧ after.length < n) → Ends bs (.fault f [])

/-! ## What is read -/

theorem headers_nil {seen : Bool} {found : Option Nat} :
    headers seen found [] = if seen then .error (.endInHeaders, []) else .ok none := by
  rw [headers, dif_pos rfl]

theorem read_of_headers_eq_error {f : FrameFault} (h : headers false none bs = .error (f, rest)) :
    read bs memory = .fault f rest := by
  simp only [read, h]

theorem read_of_headers_eq_none (h : headers false none bs = .ok none) :
    read bs memory = .over := by
  simp only [read, h]

theorem headers_of_opens (h : Opens bs told after) :
    headers false none bs = .ok (some (told, after)) := by
  obtain ⟨p, closing, rfl, filled, rfl, blank, leads⟩ := h
  have seen : (! p.heads.isEmpty) = true := by simpa using filled
  rw [List.append_assoc, headers_bytes, headers_breaks leads blank, seen, if_pos rfl]

theorem read_of_opens_none (h : Opens bs none after) :
    read bs memory = .fault .noLength after := by
  simp only [read, headers_of_opens h]

theorem read_of_opens_some (h : Opens bs (some n) after) :
    read bs memory = if maxLength < n then .fault .unbounded after
      else if memory < n then .fault .noMemory after
      else if after.length < n then .fault .endInBody []
      else .body (after.take n) (after.drop n) := by
  have short : (after.take n).length < n ↔ after.length < n := by
    rw [List.length_take]
    omega
  simp only [read, headers_of_opens h, short]

/-- A buffer of some bytes can be had: it is not too long for any, and there is memory for it. -/
def HasRoom (memory n : Nat) : Prop := n ≤ maxLength ∧ n ≤ memory

/-- The body of a frame is read as it stands, and what follows it is left. -/
theorem read_of_opens (h : Opens bs (some body.length) (body ++ rest))
    (fits : HasRoom memory body.length) : read bs memory = .body body rest := by
  have enough : ¬ (body ++ rest).length < body.length := by simp
  rw [read_of_opens_some h, if_neg (Nat.not_lt.2 fits.1), if_neg (Nat.not_lt.2 fits.2),
    if_neg enough, List.take_left, List.drop_left]

/-- A length for which no buffer can be had breaks the reader off before the body. -/
theorem read_of_not_hasRoom (h : Opens bs (some n) after) (large : ¬ HasRoom memory n) :
    ∃ f, f.isCrash = true ∧ f.isEnd = false ∧ read bs memory = .fault f after := by
  rw [read_of_opens_some h]
  by_cases unbounded : maxLength < n
  · exact ⟨.unbounded, rfl, rfl, if_pos unbounded⟩
  · have noMemory : memory < n := by
      by_contra enough
      exact large ⟨Nat.le_of_not_lt unbounded, Nat.le_of_not_lt enough⟩
    exact ⟨.noMemory, rfl, rfl, by rw [if_neg unbounded, if_pos noMemory]⟩

theorem Opens.ends_read (h : Opens bs told after) (fits : ∀ n, told = some n → HasRoom memory n) :
    Ends bs (read bs memory) := by
  cases told with
  | none =>
    rw [read_of_opens_none h]
    exact .invalid rfl rfl (.inr h)
  | some n =>
    obtain ⟨bounded, room⟩ := fits n rfl
    rw [read_of_opens_some h, if_neg (Nat.not_lt.2 bounded), if_neg (Nat.not_lt.2 room)]
    split
    · next short => exact .early rfl (.inr ⟨n, after, h, short⟩)
    · next enough =>
      have length : (after.take n).length = n := by
        rw [List.length_take]
        omega
      exact .body (by rwa [length, List.take_append_drop])

/-! ## Announced lengths -/

theorem writes_toString (small : n < UInt64.size) : Writes n (toString n).toList := by
  rw [Nat.toString_eq_ofList_toDigits, String.toList_ofList]
  refine ⟨[], _, rfl, .inl rfl, Nat.toDigits_ne_nil, ?_, Nat.ofDigitChars_ten_toDigits, small⟩
  exact fun c hc => Nat.isDigit_of_mem_toDigits (by decide) (by decide) hc

theorem isHead_announcement (small : n < UInt64.size) :
    IsHead (Utf8.encode ("Content-Length: " ++ toString n ++ "\r\n")) (some n) := by
  have writes := writes_toString small
  have name : "Content-Length: ".toList = lengthHeader ++ [' '] := by decide
  refine ⟨"Content-Length: ".toList ++ (toString n).toList, ⟨?_, "\r\n".toList, ?_, by simp⟩, ?_⟩
  · refine ⟨(toString n).toList.getLast writes.ne_nil, ?_, ?_⟩
    · rw [List.getLast?_append_of_ne_nil _ writes.ne_nil, List.getLast?_eq_some_getLast]
    · have last := writes.not_isBlank (List.getLast_mem writes.ne_nil)
      constructor <;> rintro same <;> rw [same] at last <;> revert last <;> decide
  · simp only [← String.toList_append, String.ofList_toList]
  · refine .length ⟨[' '], (toString n).toList, [], ?_, by simp [isBlank], nofun, writes⟩
    rw [name, List.append_assoc, List.append_nil]

theorem isLine_announcement (small : n < UInt64.size) :
    IsLine (Utf8.encode ("Content-Length: " ++ toString n ++ "\r\n")) := by
  refine ⟨Utf8.encode ("Content-Length: " ++ toString n ++ "\r"), ?_, ?_⟩
  · intro h
    have feed : '\n' ∈ ("Content-Length: " ++ toString n ++ "\r").toList :=
      Utf8.mem_encode_of_lt (by decide) h
    simp only [String.toList_append, List.mem_append] at feed
    rcases feed with (feed | feed) | feed
    · revert feed
      decide
    · have blank := (writes_toString small).not_isBlank feed
      revert blank
      decide
    · revert feed
      decide
  · rw [show "\r\n" = "\r" ++ "\n" from rfl, ← String.append_assoc, Utf8.encode_append]
    exact congrArg _ (by decide +kernel)

/-- What stands before the body of a frame opens it. -/
theorem opens_announcement (small : n < UInt64.size) (after : List UInt8) :
    Opens (Utf8.encode ("Content-Length: " ++ toString n ++ "\r\n\r\n") ++ after) (some n)
      after := by
  have ending : Utf8.encode "\r\n" = [0x0D, 0x0A] := by decide +kernel
  have whole (s : String) : s ++ "\r\n\r\n" = s ++ "\r\n" ++ "\r\n" := by
    rw [String.append_assoc, show "\r\n" ++ "\r\n" = "\r\n\r\n" by decide]
  refine ⟨⟨[], [(Utf8.encode ("Content-Length: " ++ toString n ++ "\r\n"), some n)], nofun, ?_⟩,
    Utf8.encode "\r\n", ?_, List.cons_ne_nil _ _, rfl, ?_, ?_⟩
  · rintro head hhead
    obtain rfl := List.mem_singleton.1 hhead
    exact ⟨isLine_announcement small, isHead_announcement small⟩
  · rw [whole, Utf8.encode_append]
    simp [Preamble.bytes]
  · rw [ending]
    simp [IsBreaks]
  · exact .inl ⟨[0x0D], by decide, ending⟩

/-- The first frame of a stream is read as it was written, and no more than that is read. -/
theorem read_write (fits : body.length ≤ maxLength) (rest : List UInt8) :
    read (write body ++ rest) = .body body rest := by
  have small : body.length < UInt64.size := Nat.lt_of_le_of_lt fits (by decide)
  rw [write, List.append_assoc]
  exact read_of_opens (opens_announcement small (body ++ rest)) ⟨fits, fits⟩

/-- Frames one after the other are read as they were written. -/
theorem readAll_flatMap_write {bodies : List (List UInt8)}
    (fits : ∀ body ∈ bodies, body.length ≤ maxLength) :
    readAll (bodies.flatMap write) = (bodies, none, []) := by
  induction bodies with
  | nil =>
    have nothing : read [] = .over := read_of_headers_eq_none headers_nil
    rw [List.flatMap_nil, readAll]
    split <;> simp_all
  | cons body bodies ih =>
    obtain ⟨short, hbodies⟩ := List.forall_mem_cons.1 fits
    have first := read_write short (bodies.flatMap write)
    rw [List.flatMap_cons, readAll]
    split
    · next h => cases first.symm.trans h
    · next h => cases first.symm.trans h
    · next h =>
      obtain ⟨rfl, rfl⟩ := FrameRead.body.inj (first.symm.trans h)
      rw [ih hbodies]

/-! ## Any stream -/

/-- A preamble without headers is nothing but blank lines. -/
theorem Preamble.isBreaks_bytes {p : Preamble} (h : p.heads = []) : IsBreaks p.bytes := by
  intro b hb
  rw [Preamble.bytes, h, List.flatMap_nil, List.append_nil] at hb
  obtain ⟨line, hline, hb⟩ := List.mem_flatten.1 hb
  exact (p.blank line hline).2 b hb

/-- A stream that is read to the end of its lines holds nothing but blank lines, or ends among its
headers. -/
theorem ends_read_bytes (p : Preamble) : Ends p.bytes (read p.bytes memory) := by
  have goes := headers_bytes p []
  rw [List.append_nil, headers_nil] at goes
  by_cases filled : p.heads = []
  · rw [filled] at goes
    rw [read_of_headers_eq_none goes]
    exact .clean (Preamble.isBreaks_bytes filled)
  · rw [if_pos (by simpa using filled)] at goes
    rw [read_of_headers_eq_error goes]
    exact .early rfl (.inl ⟨p, [], (List.append_nil _).symm, .inl ⟨filled, rfl⟩⟩)

/-- How reading goes on when the line after a preamble is not one more line of it. -/
theorem ends_read_line (p : Preamble) (leads : Leads line rest)
    (noHead : IsLine line → ∀ told, ¬ IsHead line told)
    (noBlank : p.heads = [] → IsLine line → ¬ IsBreaks line)
    (fits : ∀ n after, Opens (p.bytes ++ (line ++ rest)) (some n) after → HasRoom memory n) :
    Ends (p.bytes ++ (line ++ rest)) (read (p.bytes ++ (line ++ rest)) memory) := by
  have goes := headers_bytes p (line ++ rest)
  have whole := (List.append_assoc p.bytes line rest).symm
  rcases line_cases line with blank | ⟨told, head⟩ | malformed | noText
  · by_cases filled : p.heads = []
    -- A blank line before all headers has no end, for it would be one of the preamble.
    · obtain rfl := leads.eq_nil fun ended => noBlank filled ended blank
      rw [headers_breaks leads blank, filled, headers_nil] at goes
      rw [read_of_headers_eq_none goes, List.append_nil]
      exact .clean (List.forall_mem_append.2 ⟨Preamble.isBreaks_bytes filled, blank⟩)
    · have opens : Opens (p.bytes ++ (line ++ rest)) p.told? rest :=
        ⟨p, line, whole, filled, rfl, blank, leads⟩
      exact opens.ends_read fun n hn => fits n rest (hn ▸ opens)
  · obtain rfl := leads.eq_nil fun ended => noHead ended told head
    rw [headers_head leads head, headers_nil, if_pos rfl] at goes
    have unended : 0x0A ∉ line := by
      rcases leads with ended | ⟨-, h, -⟩
      · exact absurd head (noHead ended told)
      · exact h
    rw [read_of_headers_eq_error goes, List.append_nil]
    exact .early rfl (.inl ⟨p, line, rfl, .inr ⟨unended, told, head⟩⟩)
  · obtain ⟨fault, broken⟩ :=
      headers_malformed (! p.heads.isEmpty) p.told? leads malformed
    rw [read_of_headers_eq_error (goes.trans broken)]
    exact .invalid rfl rfl (.inl ⟨p, line, whole, leads, .inr malformed⟩)
  · rw [read_of_headers_eq_error (goes.trans (headers_noText leads noText))]
    exact .invalid rfl rfl (.inl ⟨p, line, whole, leads, .inl noText⟩)

/-- Whatever memory can be had, reading a frame ends in one of the ways that it may if, and only if,
the headers at the start of the stream, should a blank line close them, tell a length for which a
buffer can be had, or none. -/
theorem ends_read_iff (bs : List UInt8) (memory : Nat) :
    Ends bs (read bs memory) ↔
      ∀ n after, Opens bs (some n) after → n ≤ maxLength ∧ n ≤ memory := by
  constructor
  · intro ends n after opens
    by_contra large
    obtain ⟨f, crash, goesOn, broken⟩ := read_of_not_hasRoom opens large
    rw [broken] at ends
    cases ends with
    | invalid _ returns => cases crash.symm.trans returns
    | early isEnd => cases goesOn.symm.trans isEnd
  · intro fits
    obtain ⟨p, rest, rfl, rfl | ⟨line, after, rfl, leads, noHead, noBlank⟩⟩ := exists_preamble bs
    · rw [List.append_nil]
      exact ends_read_bytes p
    · exact ends_read_line p leads noHead noBlank fits

/-- A length of 2 ^ 63 bytes: the reader asks for more than any buffer can hold. -/
theorem read_eq_unbounded :
    read (Utf8.encode "Content-Length: 9223372036854775808\r\n\r\n\x7b\x7d") =
      .fault .unbounded [0x7B, 0x7D] ∧
    ¬ Ends (Utf8.encode "Content-Length: 9223372036854775808\r\n\r\n\x7b\x7d")
      (read (Utf8.encode "Content-Length: 9223372036854775808\r\n\r\n\x7b\x7d")) := by
  have opens : Opens (Utf8.encode "Content-Length: 9223372036854775808\r\n\r\n\x7b\x7d")
      (some 9223372036854775808) [0x7B, 0x7D] := by
    have announced := opens_announcement (n := 9223372036854775808) (by decide) [0x7B, 0x7D]
    rwa [show Utf8.encode ("Content-Length: " ++ toString 9223372036854775808 ++ "\r\n\r\n") ++
      [0x7B, 0x7D] = Utf8.encode "Content-Length: 9223372036854775808\r\n\r\n\x7b\x7d" by
        decide +kernel] at announced
  have broken : read (Utf8.encode "Content-Length: 9223372036854775808\r\n\r\n\x7b\x7d") =
      .fault .unbounded [0x7B, 0x7D] := by
    rw [read_of_opens_some opens]
    rfl
  refine ⟨broken, fun ends => ?_⟩
  rw [broken] at ends
  cases ends with
  | invalid _ returns => cases returns

end SqlLint.Frame
