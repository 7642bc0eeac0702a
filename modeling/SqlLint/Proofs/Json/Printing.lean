import SqlLint.Json.Parse
import SqlLint.Json.Print

/-!
# Written values are read back

The reader makes of what `Json.compress` wrote the draft of the value, whatever strings it holds
and however deep it is, if it reads back the numbers in it (`parse?_compress`, `stream?_compress`).
Integers of 64 bits are read back (`readsBack_int`); of the other numbers this says that their
decimals are those of the numbers they stand for.

A value never stands alone inside an array or an object, so what is shown of every reader is what
it does with a written value and what follows it.
-/

namespace SqlLint

open Text

namespace JsonText

/-! ## What may follow a value -/

/-- What may follow a value: the end of the text, or a sign that parts or closes. -/
def Ends : List Char → Prop
  | [] => True
  | c :: _ => c = ',' ∨ c = ']' ∨ c = '}'

theorem ends_cons {c : Char} {rest : List Char} (h : c = ',' ∨ c = ']' ∨ c = '}') :
    Ends (c :: rest) := h

/-- What was read, with more text after it. -/
def before {α : Type} (rest : List Char) (read : α × List Char) : α × List Char :=
  (read.1, read.2 ++ rest)

theorem isDigit_of_ends {c : Char} {rest : List Char} (h : Ends (c :: rest)) :
    c.isDigit = false := by
  rcases h with rfl | rfl | rfl <;> rfl

theorem takeWhile_append_of_ends (cs : List Char) {rest : List Char} (h : Ends rest) :
    (cs ++ rest).takeWhile Char.isDigit = cs.takeWhile Char.isDigit := by
  induction cs with
  | nil =>
    cases rest with
    | nil => rfl
    | cons c rest => simp [isDigit_of_ends h]
  | cons c cs ih => simp only [List.cons_append, List.takeWhile_cons, ih]

theorem dropWhile_append_of_ends (cs : List Char) {rest : List Char} (h : Ends rest) :
    (cs ++ rest).dropWhile Char.isDigit = cs.dropWhile Char.isDigit ++ rest := by
  induction cs with
  | nil =>
    cases rest with
    | nil => rfl
    | cons c rest => simp [isDigit_of_ends h]
  | cons c cs ih =>
    simp only [List.cons_append, List.dropWhile_cons, ih]
    split <;> rfl

/-! ## Numbers -/

theorem readWhole?_append (cs : List Char) {rest : List Char} (h : Ends rest) :
    readWhole? (cs ++ rest) = (readWhole? cs).map (before rest) := by
  unfold readWhole?
  rw [takeWhile_append_of_ends cs h, dropWhile_append_of_ends cs h]
  dsimp only
  split <;> rfl

theorem readFraction?_append (cs : List Char) {rest : List Char} (h : Ends rest) :
    readFraction? (cs ++ rest) = (readFraction? cs).map (before rest) := by
  cases cs with
  | nil =>
    cases rest with
    | nil => rfl
    | cons c rest => rcases h with rfl | rfl | rfl <;> rfl
  | cons c cs =>
    by_cases point : c = '.'
    · subst point
      simp only [readFraction?, List.cons_append, takeWhile_append_of_ends cs h,
        dropWhile_append_of_ends cs h]
      split <;> rfl
    · unfold readFraction?
      split
      · next same => exact absurd (List.cons.inj same).1 point
      · split
        · next same => exact absurd (List.cons.inj same).1 point
        · rfl

/-- An exponent after its letter: a sign, if there is one, and digits. -/
def readPower? (cs : List Char) : Option (Option (Bool × List Char) × List Char) :=
  let (down, rest) := match cs with
    | '+' :: r => (false, r)
    | '-' :: r => (true, r)
    | r => (false, r)
  let ds := rest.takeWhile Char.isDigit
  if ds = [] then none else some (some (down, ds), rest.dropWhile Char.isDigit)

theorem readPower?_append (cs : List Char) {rest : List Char} (h : Ends rest) :
    readPower? (cs ++ rest) = (readPower? cs).map (before rest) := by
  have digits (down : Bool) (ds : List Char) :
      (if (ds ++ rest).takeWhile Char.isDigit = [] then none
        else some (some (down, (ds ++ rest).takeWhile Char.isDigit),
          (ds ++ rest).dropWhile Char.isDigit)) =
      (if ds.takeWhile Char.isDigit = [] then none
        else some (some (down, ds.takeWhile Char.isDigit), ds.dropWhile Char.isDigit)).map
          (before rest) := by
    rw [takeWhile_append_of_ends ds h, dropWhile_append_of_ends ds h]
    split <;> rfl
  cases cs with
  | nil =>
    cases rest with
    | nil => rfl
    | cons c rest => rcases h with rfl | rfl | rfl <;> rfl
  | cons c cs =>
    by_cases plus : c = '+'
    · subst plus
      exact digits false cs
    · by_cases minus : c = '-'
      · subst minus
        exact digits true cs
      · have unsigned (t : List Char) : readPower? (c :: t) =
            if (c :: t).takeWhile Char.isDigit = [] then none
            else some (some (false, (c :: t).takeWhile Char.isDigit),
              (c :: t).dropWhile Char.isDigit) := by
          unfold readPower?
          split
          next down r sign =>
            split at sign
            · next same => exact absurd (List.cons.inj same).1 plus
            · next same => exact absurd (List.cons.inj same).1 minus
            · obtain ⟨rfl, rfl⟩ := Prod.mk.inj sign
              rfl
        rw [List.cons_append, unsigned, unsigned]
        exact digits false (c :: cs)

theorem readExponent?_cons (c : Char) (cs : List Char) :
    readExponent? (c :: cs) = if c = 'e' ∨ c = 'E' then readPower? cs else some (none, c :: cs) :=
  rfl

theorem readExponent?_append (cs : List Char) {rest : List Char} (h : Ends rest) :
    readExponent? (cs ++ rest) = (readExponent? cs).map (before rest) := by
  cases cs with
  | nil =>
    cases rest with
    | nil => rfl
    | cons c rest => rcases h with rfl | rfl | rfl <;> rfl
  | cons c cs =>
    rw [List.cons_append, readExponent?_cons, readExponent?_cons, readPower?_append cs h]
    split <;> rfl

/-- A number without its sign. -/
def readUnsigned? (negative : Bool) (cs : List Char) : Option (Draft × List Char) := do
  let (whole, cs) ← readWhole? cs
  let (fraction, cs) ← readFraction? cs
  let (exponent, cs) ← readExponent? cs
  return (.num (number? negative whole fraction exponent), cs)

theorem readNumber?_minus (cs : List Char) :
    readNumber? ('-' :: cs) = readUnsigned? true cs := rfl

theorem readNumber?_of_ne {c : Char} (h : c ≠ '-') (cs : List Char) :
    readNumber? (c :: cs) = readUnsigned? false (c :: cs) := by
  unfold readNumber?
  split
  next negative r sign =>
    split at sign
    · next same => exact absurd (List.cons.inj same).1 h
    · obtain ⟨rfl, rfl⟩ := Prod.mk.inj sign
      rfl

theorem readUnsigned?_append (negative : Bool) (cs : List Char) {rest : List Char}
    (h : Ends rest) :
    readUnsigned? negative (cs ++ rest) = (readUnsigned? negative cs).map (before rest) := by
  simp only [readUnsigned?, readWhole?_append cs h]
  cases readWhole? cs with
  | none => rfl
  | some whole =>
    simp only [Option.map_some, before, Option.bind_eq_bind, Option.bind_some,
      readFraction?_append _ h]
    cases readFraction? whole.2 with
    | none => rfl
    | some fraction =>
      simp only [Option.map_some, before, Option.bind_some, readExponent?_append _ h]
      cases readExponent? fraction.2 <;> rfl

/-- The sign or the digit that a number begins with. -/
theorem exists_of_readNumber? {cs : List Char} {read : Draft × List Char}
    (h : readNumber? cs = some read) : ∃ c t, cs = c :: t ∧ (c = '-' ∨ c.isDigit = true) := by
  cases cs with
  | nil => cases h
  | cons c t =>
    refine ⟨c, t, rfl, Decidable.byContradiction fun neither => ?_⟩
    obtain ⟨unsigned, other⟩ := not_or.1 neither
    rw [readNumber?_of_ne unsigned, readUnsigned?, readWhole?,
      List.takeWhile_cons_of_neg other] at h
    cases h

theorem ne_of_first {c d : Char} (first : c = '-' ∨ c.isDigit = true) (unsigned : d ≠ '-')
    (other : d.isDigit = false) : c ≠ d := by
  rintro rfl
  rcases first with minus | digit
  · exact unsigned minus
  · rw [other] at digit
    cases digit

theorem isSpace_of_first {c : Char} (first : c = '-' ∨ c.isDigit = true) : isSpace c = false := by
  have apart {d : Char} (unsigned : d ≠ '-') (other : d.isDigit = false) : c ≠ d :=
    ne_of_first first unsigned other
  simp [isSpace, apart (d := ' ') (by decide) rfl, apart (d := '\n') (by decide) rfl,
    apart (d := '\t') (by decide) rfl, apart (d := '\r') (by decide) rfl]

theorem readNumber?_append {cs : List Char} {d : Draft} (read : readNumber? cs = some (d, []))
    {rest : List Char} (h : Ends rest) : readNumber? (cs ++ rest) = some (d, rest) := by
  obtain ⟨c, t, rfl, -⟩ := exists_of_readNumber? read
  by_cases minus : c = '-'
  · subst minus
    rw [readNumber?_minus] at read
    rw [List.cons_append, readNumber?_minus, readUnsigned?_append true t h, read]
    rfl
  · rw [readNumber?_of_ne minus] at read
    rw [List.cons_append, readNumber?_of_ne minus, ← List.cons_append,
      readUnsigned?_append false (c :: t) h, read]
    rfl

end JsonText

/-- What is written for the number is read as it. -/
def JsonNumber.ReadsBack (n : JsonNumber) : Prop :=
  JsonText.readNumber? n.chars = some (.num (some n), [])

namespace JsonText

/-! ## Integers -/

theorem takeDigits_of_lt {n : Nat} {ds : List Char}
    (small : Nat.ofDigitChars 10 ds n < UInt64.size) :
    takeDigits n ds = (Nat.ofDigitChars 10 ds n, []) := by
  induction ds generalizing n with
  | nil => rfl
  | cons d ds ih =>
    have fits := Nat.lt_of_le_of_lt (le_ofDigitChars (10 * n + digitValue d) ds) small
    rw [takeDigits, if_pos fits]
    exact ih small

/-- The digits of a number do not begin with a zero that could be left out. -/
theorem toDigits_cases (n : Nat) :
    Nat.toDigits 10 n = ['0'] ∨ ∃ c t, Nat.toDigits 10 n = c :: t ∧ c ≠ '0' := by
  induction n using Nat.strongRecOn with
  | ind n ih =>
    by_cases one : n < 10
    · rw [Nat.toDigits_of_lt_base one]
      by_cases zero : n = 0
      · exact .inl (by rw [zero]; rfl)
      · refine .inr ⟨_, [], rfl, ?_⟩
        have each : ∀ k < 10, k ≠ 0 → Nat.digitChar k ≠ '0' := by decide
        exact each n one zero
    · have least : 10 ≤ n := Nat.le_of_not_lt one
      rw [Nat.toDigits_of_base_le (by decide) least]
      rcases ih (n / 10) (by omega) with single | ⟨c, t, digits, nonzero⟩
      · have zero := congrArg (Nat.ofDigitChars 10 · 0) single
        simp only [Nat.ofDigitChars_ten_toDigits] at zero
        have : n / 10 = 0 := zero
        omega
      · exact .inr ⟨c, _, by rw [digits, List.cons_append], nonzero⟩

theorem takeWhile_toDigits (n : Nat) :
    (Nat.toDigits 10 n).takeWhile Char.isDigit = Nat.toDigits 10 n ∧
      (Nat.toDigits 10 n).dropWhile Char.isDigit = [] := by
  have all : ∀ c ∈ Nat.toDigits 10 n, c.isDigit = true :=
    fun c hc => Nat.isDigit_of_mem_toDigits (by decide) (by decide) hc
  have taken : (Nat.toDigits 10 n ++ []).takeWhile Char.isDigit = _ :=
    List.takeWhile_append_of_pos all
  have left : (Nat.toDigits 10 n ++ []).dropWhile Char.isDigit = _ :=
    List.dropWhile_append_of_pos all
  rw [List.append_nil] at taken left
  exact ⟨taken.trans (List.append_nil _), left⟩

theorem readUnsigned?_toDigits (negative : Bool) (n : Nat) :
    readUnsigned? negative (Nat.toDigits 10 n) =
      some (.num (number? negative (Nat.toDigits 10 n) none none), []) := by
  have whole : readWhole? (Nat.toDigits 10 n) = some (Nat.toDigits 10 n, []) := by
    obtain ⟨taken, left⟩ := takeWhile_toDigits n
    rw [readWhole?, taken, left]
    rcases toDigits_cases n with digits | ⟨c, t, digits, nonzero⟩
    · rw [digits]
      rfl
    · rw [digits]
      split
      · next never => cases never
      · next same => exact absurd (List.cons.inj same).1 nonzero
      · rfl
  rw [readUnsigned?, whole]
  rfl

/-- An integer of 64 bits, with a sign or without one, is read back. -/
theorem readsBack_int {i : Int} (low : -0x8000000000000000 ≤ i) (high : i < 0x10000000000000000) :
    (JsonNumber.int i).ReadsBack := by
  have value (n : Nat) (small : n < UInt64.size) :
      takeDigits 0 (Nat.toDigits 10 n) = (n, []) := by
    rw [takeDigits_of_lt (by rwa [Nat.ofDigitChars_ten_toDigits]), Nat.ofDigitChars_ten_toDigits]
  cases i with
  | ofNat n =>
    have chars : (JsonNumber.int (.ofNat n)).chars = Nat.toDigits 10 n := by
      show (toString n).toList = _
      rw [Nat.toString_eq_ofList_toDigits, String.toList_ofList]
    have small : n < UInt64.size := Int.ofNat_lt.1 high
    obtain ⟨c, t, digits⟩ := List.exists_cons_of_ne_nil (Nat.toDigits_ne_nil (b := 10) (n := n))
    have digit : c.isDigit = true :=
      Nat.isDigit_of_mem_toDigits (b := 10) (n := n) (by decide) (by decide) (by simp [digits])
    have unsigned : c ≠ '-' := by
      rintro rfl
      cases digit
    rw [JsonNumber.ReadsBack, chars, digits, readNumber?_of_ne unsigned, ← digits,
      readUnsigned?_toDigits, number?, value n small]
    rfl
  | negSucc n =>
    have chars : (JsonNumber.int (.negSucc n)).chars = '-' :: Nat.toDigits 10 (n + 1) := by
      show ("-" ++ toString (n + 1)).toList = _
      rw [String.toList_append, Nat.toString_eq_ofList_toDigits, String.toList_ofList]
      simp
    have least : n + 1 ≤ 0x8000000000000000 := by omega
    have small : n + 1 < UInt64.size := Nat.lt_of_le_of_lt least (by decide)
    rw [JsonNumber.ReadsBack, chars, readNumber?_minus, readUnsigned?_toDigits, number?,
      value (n + 1) small]
    simp only [Option.isNone_none, and_self, if_true, Nat.succ_ne_zero, if_false, if_pos least]
    rfl

/-! ## Strings -/

/-- The piece of a string as which a character is read that was written in it. -/
def pieceOf (c : Char) : Piece :=
  if c.toNat < 0x20 ∧ c ∉ ['\n', '\r', '\t', '\x08', '\x0c'] then .unit c.toNat else .char c

theorem hex4?_digits : ∀ n < 0x20,
    hex4? (Nat.digitChar (n / 4096 % 16)) (Nat.digitChar (n / 256 % 16))
      (Nat.digitChar (n / 16 % 16)) (Nat.digitChar (n % 16)) = some n := by
  decide

/-- A character that stands for itself in a string. -/
theorem readPieces?_plain {c : Char} (quote : c ≠ '"') (slash : c ≠ '\\') (large : ¬ c.toNat < 0x20)
    (rest : List Char) :
    readPieces? (c :: rest) = (readPieces? rest).map fun p => (.char c :: p.1, p.2) := by
  rw [readPieces?.eq_def]
  split
  · next same => cases same
  · next same => exact absurd (List.cons.inj same).1 quote
  · next same => exact absurd (List.cons.inj same).1 slash
  · next same => exact absurd (List.cons.inj same).1 slash
  · next same =>
    obtain ⟨rfl, rfl⟩ := List.cons.inj same
    rw [if_neg large]
    cases readPieces? rest <;> rfl

/-- An escape of one letter. -/
theorem readPieces?_short {e c : Char} (short : shortEscape? e = some c) (hex : e ≠ 'u')
    (rest : List Char) :
    readPieces? ('\\' :: e :: rest) = (readPieces? rest).map fun p => (.char c :: p.1, p.2) := by
  rw [readPieces?.eq_def]
  split
  · next same => cases same
  · next same => cases same
  · next same => exact absurd (List.cons.inj (List.cons.inj same).2).1 hex
  · next same =>
    obtain ⟨-, same⟩ := List.cons.inj same
    obtain ⟨rfl, rfl⟩ := List.cons.inj same
    rw [short]
    cases readPieces? rest <;> rfl
  · next single same =>
    obtain ⟨rfl, rfl⟩ := List.cons.inj same
    exact (single _ _ rfl rfl).elim

theorem readPieces?_hexEscape {c : Char} (small : c.toNat < 0x20) (rest : List Char) :
    readPieces? (hexEscape c ++ rest) =
      (readPieces? rest).map fun p => (.unit c.toNat :: p.1, p.2) := by
  show readPieces? ('\\' :: 'u' :: _ :: _ :: _ :: _ :: rest) = _
  show (hex4? _ _ _ _).bind _ = _
  rw [hex4?_digits _ small]
  cases readPieces? rest <;> rfl

theorem readPieces?_escapeChar (c : Char) (rest : List Char) :
    readPieces? (escapeChar c ++ rest) =
      (readPieces? rest).map fun p => (pieceOf c :: p.1, p.2) := by
  have short {e c : Char} (read : shortEscape? e = some c) (hex : e ≠ 'u')
      (piece : pieceOf c = .char c) : readPieces? (['\\', e] ++ rest) =
        (readPieces? rest).map fun p => (pieceOf c :: p.1, p.2) := by
    rw [piece]
    exact readPieces?_short read hex rest
  unfold escapeChar
  split
  · next same => subst same; exact short rfl (by decide) rfl
  split
  · next same => subst same; exact short rfl (by decide) rfl
  split
  · next same => subst same; exact short rfl (by decide) rfl
  split
  · next same => subst same; exact short rfl (by decide) rfl
  split
  · next same => subst same; exact short rfl (by decide) rfl
  split
  · next same => subst same; exact short rfl (by decide) rfl
  split
  · next same => subst same; exact short rfl (by decide) rfl
  next quote slash feed ret tab back form =>
  split
  · next small =>
    have piece : pieceOf c = .unit c.toNat := if_pos ⟨small, by simp [feed, ret, tab, back, form]⟩
    rw [piece]
    exact readPieces?_hexEscape small rest
  · next large =>
    have piece : pieceOf c = .char c := if_neg fun h => large h.1
    rw [piece]
    exact readPieces?_plain quote slash large rest

theorem readPieces?_escaped (cs rest : List Char) :
    readPieces? (cs.flatMap escapeChar ++ '"' :: rest) = some (cs.map pieceOf, rest) := by
  induction cs with
  | nil => rfl
  | cons c cs ih =>
    rw [List.flatMap_cons, List.append_assoc, readPieces?_escapeChar, ih]
    rfl

/-- A unit of a control character is no half of a pair. -/
theorem pieceChars?_unit {n : Nat} (small : n < 0x20) (ps : List Piece) :
    pieceChars? (.unit n :: ps) = (pieceChars? ps).map (Char.ofNat n :: ·) := by
  have high : isHigh n = false := by
    rw [isHigh, Bool.and_eq_false_iff, decide_eq_false_iff_not]
    omega
  have low : isLow n = false := by
    rw [isLow, Bool.and_eq_false_iff, decide_eq_false_iff_not]
    omega
  rcases ps with _ | ⟨_ | m, ps⟩ <;> simp [pieceChars?, high, low]

theorem pieceChars?_pieces (cs : List Char) : pieceChars? (cs.map pieceOf) = some cs := by
  induction cs with
  | nil => rfl
  | cons c cs ih =>
    rw [List.map_cons, pieceOf]
    split
    · next control => rw [pieceChars?_unit control.1, ih, Option.map_some, Char.ofNat_toNat]
    · rw [pieceChars?, ih, Option.map_some]

theorem readString?_quoteJson (s : String) (rest : List Char) :
    ∃ t, quoteJson s ++ rest = '"' :: t ∧ readString? t = some (some s, rest) := by
  refine ⟨s.toList.flatMap escapeChar ++ '"' :: rest, by simp [quoteJson], ?_⟩
  rw [readString?, readPieces?_escaped]
  simp [pieceChars?_pieces]

end JsonText

/-! ## Values -/

mutual

/-- The numbers in a value. -/
def Json.numbers : Json → List JsonNumber
  | .num n => [n]
  | .arr items => numbersOfItems items
  | .obj members => numbersOfMembers members
  | _ => []

/-- The numbers in the items of an array. -/
def numbersOfItems : List Json → List JsonNumber
  | [] => []
  | j :: js => j.numbers ++ numbersOfItems js

/-- The numbers in the members of an object. -/
def numbersOfMembers : List (String × Json) → List JsonNumber
  | [] => []
  | (_, j) :: ms => j.numbers ++ numbersOfMembers ms

end

namespace JsonText

/-- A written value begins with a sign that neither is blank nor closes an array. -/
theorem exists_chars_eq {j : Json} (h : ∀ n ∈ j.numbers, n.ReadsBack) :
    ∃ c t, j.chars = c :: t ∧ isSpace c = false ∧ c ≠ ']' := by
  cases j with
  | null => exact ⟨'n', _, rfl, rfl, by decide⟩
  | bool b => cases b with
    | false => exact ⟨'f', _, rfl, rfl, by decide⟩
    | true => exact ⟨'t', _, rfl, rfl, by decide⟩
  | str s => exact ⟨'"', _, rfl, rfl, by decide⟩
  | arr items => exact ⟨'[', _, rfl, rfl, by decide⟩
  | obj members => exact ⟨'\x7b', _, rfl, rfl, by decide⟩
  | num n =>
    obtain ⟨c, t, chars, first⟩ := exists_of_readNumber? (h n (List.mem_singleton_self n))
    exact ⟨c, t, chars, isSpace_of_first first, ne_of_first first (by decide) rfl⟩

theorem skip_cons {c : Char} (h : isSpace c = false) (t : List Char) : skip (c :: t) = c :: t :=
  List.dropWhile_cons_of_neg (by simp [h])

theorem readValue?_of_readNumber? {cs : List Char} {read : Draft × List Char}
    (h : readNumber? cs = some read) (fuel : Nat) : readValue? (fuel + 1) cs = some read := by
  obtain ⟨c, t, rfl, first⟩ := exists_of_readNumber? h
  rw [readValue?, skip_cons (isSpace_of_first first)]
  split
  · next same => exact absurd (List.cons.inj same).1 (ne_of_first first (by decide) rfl)
  · next same => exact absurd (List.cons.inj same).1 (ne_of_first first (by decide) rfl)
  · next same => exact absurd (List.cons.inj same).1 (ne_of_first first (by decide) rfl)
  · next same => exact absurd (List.cons.inj same).1 (ne_of_first first (by decide) rfl)
  · next same => exact absurd (List.cons.inj same).1 (ne_of_first first (by decide) rfl)
  · next same => exact absurd (List.cons.inj same).1 (ne_of_first first (by decide) rfl)
  · exact h

/-! ### What the readers do with one sign -/

theorem readValue?_quote (fuel : Nat) (t : List Char) :
    readValue? (fuel + 1) ('"' :: t) = (readString? t).map fun p => (.str p.1, p.2) := rfl

theorem readValue?_bracket (fuel : Nat) {c : Char} (t : List Char) (blank : isSpace c = false)
    (close : c ≠ ']') :
    readValue? (fuel + 1) ('[' :: c :: t) =
      (readItems? fuel (c :: t)).map fun p => (.arr p.1, p.2) := by
  rw [readValue?, skip_cons rfl]
  split
  · next same => exact absurd (List.cons.inj same).1 (by decide)
  · next same =>
    obtain ⟨-, rfl⟩ := List.cons.inj same
    rw [skip_cons blank]
    split
    · next same => exact absurd (List.cons.inj same).1 close
    · rfl
  · next same => exact absurd (List.cons.inj same).1 (by decide)
  · next same => exact absurd (List.cons.inj same).1 (by decide)
  · next same => exact absurd (List.cons.inj same).1 (by decide)
  · next same => exact absurd (List.cons.inj same).1 (by decide)
  · next bracket _ _ _ _ => exact (bracket _ rfl).elim

theorem readValue?_brace (fuel : Nat) (t : List Char) :
    readValue? (fuel + 1) ('\x7b' :: '"' :: t) =
      (readMembers? fuel ('"' :: t)).map fun p => (.obj p.1, p.2) := rfl

variable {fuel : Nat} {cs rest : List Char} {d : Draft}

theorem readItems?_last (read : readValue? fuel cs = some (d, ']' :: rest)) :
    readItems? (fuel + 1) cs = some ([d], rest) := by
  show (readValue? fuel cs).bind _ = _
  rw [read]
  rfl

theorem readItems?_next (read : readValue? fuel cs = some (d, ',' :: rest)) {ds : List Draft}
    {after : List Char} (more : readItems? fuel rest = some (ds, after)) :
    readItems? (fuel + 1) cs = some (d :: ds, after) := by
  show (readValue? fuel cs).bind _ = _
  rw [read]
  show (readItems? fuel rest).bind _ = _
  rw [more]
  rfl

theorem readMembers?_last {k : String} {t : List Char}
    (read : readValue? fuel t = some (d, '\x7d' :: rest)) :
    readMembers? (fuel + 1) (quoteJson k ++ ':' :: t) = some ([(some k, d)], rest) := by
  obtain ⟨u, quoted, key⟩ := readString?_quoteJson k (':' :: t)
  rw [quoted]
  show (readString? u).bind _ = _
  rw [key]
  show (readValue? fuel t).bind _ = _
  rw [read]
  rfl

theorem readMembers?_next {k : String} {t : List Char}
    (read : readValue? fuel t = some (d, ',' :: rest)) {ds : List (Option String × Draft)}
    {after : List Char} (more : readMembers? fuel rest = some (ds, after)) :
    readMembers? (fuel + 1) (quoteJson k ++ ':' :: t) = some ((some k, d) :: ds, after) := by
  obtain ⟨u, quoted, key⟩ := readString?_quoteJson k (':' :: t)
  rw [quoted]
  show (readString? u).bind _ = _
  rw [key]
  show (readValue? fuel t).bind _ = _
  rw [read]
  show (readMembers? fuel rest).bind _ = _
  rw [more]
  rfl

/-! ### Written values -/

theorem itemChars_cons_cons (j k : Json) (js : List Json) :
    itemChars (j :: k :: js) = j.chars ++ ',' :: itemChars (k :: js) := rfl

theorem memberChars_cons_cons (k : String) (j : Json) (m : String × Json)
    (ms : List (String × Json)) :
    memberChars ((k, j) :: m :: ms) =
      quoteJson k ++ ':' :: (j.chars ++ ',' :: memberChars (m :: ms)) := rfl

theorem exists_itemChars_eq {j : Json} (h : ∀ n ∈ j.numbers, n.ReadsBack) (js : List Json) :
    ∃ c t, itemChars (j :: js) = c :: t ∧ isSpace c = false ∧ c ≠ ']' := by
  obtain ⟨c, t, chars, first⟩ := exists_chars_eq h
  cases js with
  | nil => exact ⟨c, t, chars, first⟩
  | cons k ks => exact ⟨c, _, by rw [itemChars_cons_cons, chars, List.cons_append], first⟩

theorem exists_memberChars_eq (m : String × Json) (ms : List (String × Json)) :
    ∃ t, memberChars (m :: ms) = '"' :: t := by
  cases ms with
  | nil => exact ⟨_, rfl⟩
  | cons => exact ⟨_, rfl⟩

/-- With this fuel the readers take written values, items and members to their drafts, if they are
short enough. -/
structure TakesWritten (fuel : Nat) : Prop where
  value : ∀ (j : Json) (rest : List Char), (∀ n ∈ j.numbers, n.ReadsBack) →
    j.chars.length ≤ fuel → Ends rest →
    readValue? fuel (j.chars ++ rest) = some (j.draft, rest)
  items : ∀ (j : Json) (js : List Json) (rest : List Char),
    (∀ n ∈ numbersOfItems (j :: js), n.ReadsBack) → (itemChars (j :: js)).length < fuel →
    readItems? fuel (itemChars (j :: js) ++ ']' :: rest) =
      some (Json.draftItems (j :: js), rest)
  members : ∀ (m : String × Json) (ms : List (String × Json)) (rest : List Char),
    (∀ n ∈ numbersOfMembers (m :: ms), n.ReadsBack) → (memberChars (m :: ms)).length < fuel →
    readMembers? fuel (memberChars (m :: ms) ++ '\x7d' :: rest) =
      some (Json.draftMembers (m :: ms), rest)

namespace TakesWritten

variable (inner : TakesWritten fuel)
include inner

theorem value_succ {j : Json} (h : ∀ n ∈ j.numbers, n.ReadsBack)
    (enough : j.chars.length ≤ fuel + 1) (ends : Ends rest) :
    readValue? (fuel + 1) (j.chars ++ rest) = some (j.draft, rest) := by
  cases j with
  | null => rfl
  | bool b => cases b <;> rfl
  | num n =>
    exact readValue?_of_readNumber? (readNumber?_append (h n (List.mem_singleton_self n)) ends) fuel
  | str s =>
    obtain ⟨t, quoted, read⟩ := readString?_quoteJson s rest
    rw [Json.chars, quoted, readValue?_quote, read]
    rfl
  | arr items =>
    cases items with
    | nil => rfl
    | cons k ks =>
      have inside : (itemChars (k :: ks)).length < fuel := by
        simp only [Json.chars, List.length_cons, List.length_append] at enough
        omega
      have items := inner.items k ks rest h inside
      obtain ⟨c, t, first, blank, close⟩ :=
        exists_itemChars_eq (fun n hn => h n (List.mem_append_left _ hn)) ks
      rw [Json.chars, List.cons_append, List.cons_append, List.append_assoc,
        List.singleton_append]
      rw [first, List.cons_append] at items ⊢
      rw [readValue?_bracket fuel _ blank close, items]
      rfl
  | obj members =>
    cases members with
    | nil => rfl
    | cons m ms =>
      have inside : (memberChars (m :: ms)).length < fuel := by
        simp only [Json.chars, List.length_cons, List.length_append] at enough
        omega
      have members := inner.members m ms rest h inside
      obtain ⟨t, first⟩ := exists_memberChars_eq m ms
      rw [Json.chars, List.cons_append, List.cons_append, List.append_assoc,
        List.singleton_append]
      rw [first, List.cons_append] at members ⊢
      rw [readValue?_brace, members]
      rfl

theorem items_succ {j : Json} {js : List Json}
    (h : ∀ n ∈ numbersOfItems (j :: js), n.ReadsBack)
    (enough : (itemChars (j :: js)).length < fuel + 1) :
    readItems? (fuel + 1) (itemChars (j :: js) ++ ']' :: rest) =
      some (Json.draftItems (j :: js), rest) := by
  have here : ∀ n ∈ j.numbers, n.ReadsBack := fun n hn => h n (List.mem_append_left _ hn)
  cases js with
  | nil =>
    have size : j.chars.length ≤ fuel := Nat.le_of_lt_succ enough
    exact readItems?_last (inner.value j _ here size (ends_cons (.inr (.inl rfl))))
  | cons k ks =>
    have there : ∀ n ∈ numbersOfItems (k :: ks), n.ReadsBack :=
      fun n hn => h n (List.mem_append_right _ hn)
    rw [itemChars_cons_cons] at enough ⊢
    rw [List.length_append, List.length_cons] at enough
    rw [List.append_assoc, List.cons_append]
    exact readItems?_next (inner.value j _ here (by omega) (ends_cons (.inl rfl)))
      (inner.items k ks rest there (by omega))

theorem members_succ {m : String × Json} {ms : List (String × Json)}
    (h : ∀ n ∈ numbersOfMembers (m :: ms), n.ReadsBack)
    (enough : (memberChars (m :: ms)).length < fuel + 1) :
    readMembers? (fuel + 1) (memberChars (m :: ms) ++ '\x7d' :: rest) =
      some (Json.draftMembers (m :: ms), rest) := by
  obtain ⟨key, j⟩ := m
  have here : ∀ n ∈ j.numbers, n.ReadsBack := fun n hn => h n (List.mem_append_left _ hn)
  cases ms with
  | nil =>
    rw [memberChars] at enough ⊢
    rw [List.length_append, List.length_cons] at enough
    rw [List.append_assoc, List.cons_append]
    exact readMembers?_last (inner.value j _ here (by omega) (ends_cons (.inr (.inr rfl))))
  | cons m ms =>
    have there : ∀ n ∈ numbersOfMembers (m :: ms), n.ReadsBack :=
      fun n hn => h n (List.mem_append_right _ hn)
    rw [memberChars_cons_cons] at enough ⊢
    rw [List.length_append, List.length_cons, List.length_append, List.length_cons] at enough
    rw [List.append_assoc, List.cons_append, List.append_assoc, List.cons_append]
    exact readMembers?_next (inner.value j _ here (by omega) (ends_cons (.inl rfl)))
      (inner.members m ms rest there (by omega))

end TakesWritten

/-- The fuel goes down with every call between the three readers, so one induction carries all
three. -/
theorem takesWritten (fuel : Nat) : TakesWritten fuel := by
  induction fuel with
  | zero =>
    refine ⟨fun j rest h enough => ?_, fun _ _ _ _ enough => ?_, fun _ _ _ _ enough => ?_⟩
    · obtain ⟨c, t, chars, -⟩ := exists_chars_eq h
      rw [chars] at enough
      cases enough
    · cases enough
    · cases enough
  | succ fuel inner =>
    exact ⟨fun _ _ => inner.value_succ, fun _ _ _ => inner.items_succ,
      fun _ _ _ => inner.members_succ⟩

theorem readDraft?_chars {j : Json} (h : ∀ n ∈ j.numbers, n.ReadsBack) :
    readDraft? j.chars = some (j.draft, []) := by
  have ends : Ends [] := trivial
  have read := (takesWritten _).value j [] h (Nat.le_succ j.chars.length) ends
  rwa [List.append_nil] at read

end JsonText

/-- What is written for a value is read as that value alone. -/
theorem Draft.parse?_compress {j : Json} (h : ∀ n ∈ j.numbers, n.ReadsBack) :
    Draft.parse? j.compress = some j.draft := by
  rw [Draft.parse?, Json.compress, String.toList_ofList, JsonText.readDraft?_chars h]
  rfl

theorem Draft.stream?_compress {j : Json} (h : ∀ n ∈ j.numbers, n.ReadsBack) :
    Draft.stream? j.compress = some [j.draft] := by
  obtain ⟨c, t, chars, blank, -⟩ := JsonText.exists_chars_eq h
  have read := JsonText.readDraft?_chars h
  rw [Draft.stream?, Json.compress, String.length_ofList, String.toList_ofList]
  rw [chars] at read ⊢
  rw [JsonText.readStream?, JsonText.skip_cons blank]
  show (JsonText.readDraft? (c :: t)).bind _ = _
  rw [read]
  rfl

end SqlLint
