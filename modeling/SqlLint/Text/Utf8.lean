/-!
# Decoding UTF-8

`Decoder` reads bytes one at a time.  Between bytes it holds the beginning of a character, at most
three bytes of it, with the range the next byte has to lie in.  A byte outside that range ends the
beginning, which is then written as one U+FFFD, and is read again on its own; so every maximal
beginning of a character that does not go on, and every byte that begins none, becomes one U+FFFD.
`lossy` decodes a whole byte string, `Decoder.drain` one that arrives in chunks, and `strict?` one that
holds well-formed UTF-8 only.
-/

namespace SqlLint.Text.Utf8

/-- The character that stands for bytes that are not UTF-8. -/
def replacement : Char := '\uFFFD'

/-- The beginning of a character: its bytes, how many more it needs, the range of the next one and
the bits read so far. -/
structure Started where
  bytes : List UInt8
  missing : Nat
  low : UInt8
  high : UInt8
  value : Nat
  deriving DecidableEq, Repr

/-- A decoder between two bytes: between characters, or inside one. -/
abbrev Decoder := Option Started

/-- The state before the first byte. -/
def Decoder.start : Decoder := none

/-- The bytes that a decoder holds back. -/
def Decoder.held (d : Decoder) : List UInt8 :=
  match d with
  | none => []
  | some s => s.bytes

/-- What a byte between characters begins: a whole character, the beginning of one, or nothing. -/
def open? (b : UInt8) : Except Char Started :=
  let n := b.toNat
  if n < 0x80 then .error (Char.ofNat n)
  else if 0xC2 ≤ n ∧ n ≤ 0xDF then .ok ⟨[b], 1, 0x80, 0xBF, n % 0x20⟩
  else if n = 0xE0 then .ok ⟨[b], 2, 0xA0, 0xBF, 0⟩
  else if n = 0xED then .ok ⟨[b], 2, 0x80, 0x9F, 0xD⟩
  else if 0xE1 ≤ n ∧ n ≤ 0xEF then .ok ⟨[b], 2, 0x80, 0xBF, n % 0x10⟩
  else if n = 0xF0 then .ok ⟨[b], 3, 0x90, 0xBF, 0⟩
  else if 0xF1 ≤ n ∧ n ≤ 0xF3 then .ok ⟨[b], 3, 0x80, 0xBF, n % 8⟩
  else if n = 0xF4 then .ok ⟨[b], 3, 0x80, 0x8F, 4⟩
  else .error replacement

/-- A byte read between characters. -/
def begin (b : UInt8) : List Char × Decoder :=
  match open? b with
  | .error c => ([c], none)
  | .ok s => ([], some s)

/-- The character or the longer beginning that one more byte of the right range makes. -/
def Started.extend (s : Started) (b : UInt8) : List Char × Decoder :=
  let value := 0x40 * s.value + b.toNat % 0x40
  if s.missing ≤ 1 then ([Char.ofNat value], none)
  else ([], some ⟨s.bytes ++ [b], s.missing - 1, 0x80, 0xBF, value⟩)

/-- One byte read: the characters it completes and the state after it. -/
def Decoder.step (d : Decoder) (b : UInt8) : List Char × Decoder :=
  match d with
  | none => begin b
  | some s =>
    if s.low ≤ b ∧ b ≤ s.high then s.extend b
    else (replacement :: (begin b).1, (begin b).2)

/-- A chunk of bytes read: the characters it completes and the state after it. -/
def Decoder.write (d : Decoder) : List UInt8 → List Char × Decoder
  | [] => ([], d)
  | b :: bs =>
    let now := d.step b
    let later := now.2.write bs
    (now.1 ++ later.1, later.2)

/-- What the end of the stream writes: a beginning that never went on is one U+FFFD. -/
def Decoder.finish (d : Decoder) : List Char :=
  match d with
  | none => []
  | some _ => [replacement]

/-- The text of a stream of bytes that arrives in chunks and then ends. -/
def Decoder.drain (d : Decoder) : List (List UInt8) → List Char
  | [] => d.finish
  | chunk :: chunks =>
    let now := d.write chunk
    now.1 ++ now.2.drain chunks

/-- A whole byte string decoded. -/
def lossy (bytes : List UInt8) : List Char :=
  let written := Decoder.start.write bytes
  written.1 ++ written.2.finish

/-- A whole byte string decoded, as a string. -/
def lossyString (bytes : List UInt8) : String := String.ofList (lossy bytes)

/-- The text that well-formed UTF-8 writes. -/
def strict? (bytes : List UInt8) : Option String := String.fromUTF8? ⟨bytes.toArray⟩

/-- The bytes of a string in UTF-8. -/
def encode (s : String) : List UInt8 := s.toUTF8.toList

/-- The name that bytes give to a file: their text, or, if they write none, a text of private
characters for the bytes that are not ASCII. -/
def nameOf (bytes : List UInt8) : String :=
  (strict? bytes).getD (String.ofList (bytes.map fun b =>
    Char.ofNat (if b.toNat < 0x80 then b.toNat else 0x10FF00 + b.toNat)))

theorem Decoder.write_append (d : Decoder) (xs ys : List UInt8) :
    d.write (xs ++ ys) =
      ((d.write xs).1 ++ ((d.write xs).2.write ys).1, ((d.write xs).2.write ys).2) := by
  induction xs generalizing d with
  | nil => rfl
  | cons b bs ih => simp [Decoder.write, ih]

/-- Where a stream is cut does not matter. -/
theorem Decoder.drain_eq (d : Decoder) (chunks : List (List UInt8)) :
    d.drain chunks = (d.write chunks.flatten).1 ++ (d.write chunks.flatten).2.finish := by
  induction chunks generalizing d with
  | nil => rfl
  | cons chunk chunks ih =>
    rw [Decoder.drain, ih, List.flatten_cons, Decoder.write_append, List.append_assoc]

theorem drain_start (chunks : List (List UInt8)) :
    Decoder.start.drain chunks = lossy chunks.flatten :=
  Decoder.drain_eq Decoder.start chunks

end SqlLint.Text.Utf8
