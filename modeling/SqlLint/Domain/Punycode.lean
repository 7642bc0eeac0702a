import SqlLint.Text.Digit

/-!
# Punycode

Punycode writes a text with ASCII letters, digits and hyphens.  The ASCII characters come first;
each other character is put in by a number that says how many places and characters further it
stands than the one before, in the order of the characters.  The numbers have digits in base 36 of
which the last one is known by being below a threshold, and the thresholds follow the size of the
numbers.  `encode` writes a text and `decode?` reads it.
-/

namespace SqlLint.Domain.Punycode

/-- The number of digits. -/
def base : Nat := 36

/-- The threshold is at first this much below the weight of a digit. -/
def firstBias : Nat := 72

/-- The first character that is put in by a number. -/
def firstCode : Nat := 0x80

/-- Numbers are below this one. -/
def bound : Nat := UInt32.size

/-- A digit: the letters and then the ASCII digits. -/
def digit (n : Nat) : Char := if n < 26 then Char.ofNat (97 + n) else Char.ofNat (22 + n)

/-- The value of a digit. -/
def digitValue? (c : Char) : Option Nat :=
  if 'a' ≤ c ∧ c ≤ 'z' then some (c.toNat - 97)
  else if 'A' ≤ c ∧ c ≤ 'Z' then some (c.toNat - 65)
  else if '0' ≤ c ∧ c ≤ '9' then some (c.toNat - 22)
  else none

/-- The threshold of a digit; `weight` is 36 for the first one and grows by 36. -/
def threshold (bias weight : Nat) : Nat := min 26 (max 1 (weight - bias))

theorem threshold_pos (bias weight : Nat) : 0 < threshold bias weight := by
  unfold threshold; omega

/-- The bias that suits numbers of about the size of `delta`. -/
def settle (delta bias : Nat) : Nat :=
  if 455 < delta then settle (delta / 35) (bias + base) else bias + base * delta / (delta + 38)
termination_by delta
decreasing_by omega

/-- The bias after a number, when the text has `count` characters. -/
def adapt (delta count : Nat) (isFirst : Bool) : Nat :=
  let delta := if isFirst then delta / 700 else delta / 2
  settle (delta + delta / count) 0

/-! ## Writing -/

/-- The digits of a number. -/
def writeNumber (bias weight n : Nat) : List Char :=
  let t := threshold bias weight
  if n < t then [digit n]
  else digit (t + (n - t) % (base - t)) :: writeNumber bias (weight + base) ((n - t) / (base - t))
termination_by n
decreasing_by
  have pos := threshold_pos bias weight
  exact Nat.lt_of_le_of_lt (Nat.div_le_self _ _) (by omega)

/-- A text that is being written: what stands there, how far the next character is, and the bias;
so many characters are in. -/
structure Writer where
  output : List Char
  delta : Nat
  bias : Nat
  count : Nat

/-- A character of the text is passed, in the search for those with a number. -/
def Writer.pass (isFirst : Nat → Bool) (code : Nat) (w : Writer) (c : Char) : Writer :=
  if c.toNat < code then { w with delta := w.delta + 1 }
  else if c.toNat = code then
    { output := w.output ++ writeNumber w.bias base w.delta
      delta := 0
      bias := adapt w.delta (w.count + 1) (isFirst w.count)
      count := w.count + 1 }
  else w

/-- The characters with the given numbers are written; `from_` is the number after the last one. -/
def Writer.write (isFirst : Nat → Bool) (cs : List Char) (from_ : Nat) (w : Writer) :
    List Nat → Writer
  | [] => w
  | code :: codes =>
    let w := { w with delta := w.delta + (code - from_) * (w.count + 1) }
    let w := cs.foldl (Writer.pass isFirst code) w
    Writer.write isFirst cs (code + 1) { w with delta := w.delta + 1 } codes

/-- The text in ASCII. -/
def encode (cs : List Char) : List Char :=
  let plain := cs.filter (·.toNat < firstCode)
  let codes := ((cs.map Char.toNat).filter (firstCode ≤ ·)).eraseDups.mergeSort
  let start : Writer := ⟨plain ++ if plain = [] then [] else ['-'], 0, firstBias, plain.length⟩
  (start.write (· == plain.length) cs firstCode codes).output

/-! ## Reading -/

/-- The number at the start of a text, added to `sum`, and the text after it; `factor` is what a
digit counts. -/
def readNumber? (bias weight factor sum : Nat) : List Char → Option (Nat × List Char)
  | [] => none
  | c :: cs =>
    match digitValue? c with
    | none => none
    | some d =>
      let t := threshold bias weight
      let sum := sum + d * factor
      if bound ≤ sum then none
      else if d < t then some (sum, cs)
      else if bound ≤ factor * (base - t) then none
      else readNumber? bias (weight + base) (factor * (base - t)) sum cs

/-- A number takes at least one character. -/
theorem length_of_readNumber? {bias weight factor sum : Nat} {cs rest : List Char} {n : Nat}
    (h : readNumber? bias weight factor sum cs = some (n, rest)) : rest.length < cs.length := by
  induction cs generalizing weight factor sum with
  | nil => simp [readNumber?] at h
  | cons c cs ih =>
    simp only [readNumber?] at h
    split at h
    · simp at h
    · split at h
      · simp at h
      · split at h
        · simp only [Option.some.injEq, Prod.mk.injEq] at h
          simp [h.2]
        · split at h
          · simp at h
          · exact Nat.lt_succ_of_lt (ih h)

/-- The text with the characters put in that numbers tell; the one put in last stands right before
`place` and has the number `code`. -/
def putIn? (bias code place : Nat) (text : List Char) (cs : List Char) : Option (List Char) :=
  if cs = [] then some text
  else
    match h : readNumber? bias base 1 place cs with
    | none => none
    | some (sum, rest) =>
      let count := text.length + 1
      let bias := adapt (sum - place) count (place == 0)
      let code := code + sum / count
      let text := text.insertIdx (sum % count) (Char.ofNat code)
      if code.isValidChar then putIn? bias code (sum % count + 1) text rest else none
termination_by cs.length
decreasing_by exact length_of_readNumber? h

/-- The text that ASCII writes; what is before the last hyphen stands for itself. -/
def decode? (cs : List Char) : Option (List Char) :=
  let numbers := (cs.reverse.takeWhile (· ≠ '-')).reverse
  let plain := cs.take (cs.length - numbers.length - 1)
  putIn? firstBias firstCode 0 plain (if plain = [] then cs else numbers)

end SqlLint.Domain.Punycode
