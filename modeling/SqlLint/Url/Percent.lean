import SqlLint.Text.Digit
import SqlLint.Text.Utf8

/-!
# Percent encoding

A byte is written `%XX` with two hexadecimal digits.  `encodeWith set` writes the bytes of a text
that are not ASCII or belong to `set` this way and leaves the others; the sets of the parts of a
URL are given below.  `decode` undoes it.  `formEncode` is the form encoding of query parameters,
which also writes a space as `+`.
-/

namespace SqlLint.Url

open Text

/-- A hexadecimal digit in capitals. -/
def hexDigit (n : Nat) : Char := if n < 10 then Char.ofNat (48 + n) else Char.ofNat (55 + n)

/-- A byte as a percent and two digits. -/
def percentByte (b : UInt8) : List Char :=
  ['%', hexDigit (b.toNat / 16), hexDigit (b.toNat % 16)]

/-- The bytes of a character, percent encoded. -/
def percentChar (c : Char) : List Char := (Utf8.encode c.toString).flatMap percentByte

/-- A control character or one that is not ASCII. -/
def isControl (c : Char) : Bool := c.toNat < 0x20 || 0x7E < c.toNat

/-- What is encoded in a fragment. -/
def inFragment (c : Char) : Bool := isControl c || " \"<>`".contains c

/-- What is encoded in a path. -/
def inPath (c : Char) : Bool := inFragment c || "#?{}".contains c

/-- What is encoded in a segment of the path of a file. -/
def inSegment (c : Char) : Bool := inPath c || "/%\\".contains c

/-- What is encoded in a user name. -/
def inUser (c : Char) : Bool := inPath c || "/:;=@[\\]^|".contains c

/-- What is encoded in a query. -/
def inQuery (c : Char) : Bool := isControl c || " \"#<>".contains c

/-- What is encoded in the query of a scheme with hosts. -/
def inSpecialQuery (c : Char) : Bool := inQuery c || c == '\''

/-- The text with the characters of a set percent encoded. -/
def encodeWith (set : Char → Bool) (cs : List Char) : List Char :=
  cs.flatMap fun c => if set c then percentChar c else [c]

/-- The bytes of a text with its percent encodings undone. -/
def decode : List Char → List UInt8
  | [] => []
  | '%' :: a :: b :: cs =>
    match hexValue? a, hexValue? b with
    | some x, some y => (16 * x + y).toUInt8 :: decode cs
    | _, _ => Utf8.encode "%" ++ decode (a :: b :: cs)
  | c :: cs => Utf8.encode c.toString ++ decode cs

/-- A byte in the form encoding. -/
def formByte (b : UInt8) : List Char :=
  let c := Char.ofNat b.toNat
  if b.toNat < 0x80 ∧ (c.isAlphanum ∨ "*-._".contains c) then [c]
  else if b.toNat = 0x20 then ['+']
  else percentByte b

/-- A text in the form encoding. -/
def formEncode (s : String) : List Char := (Utf8.encode s).flatMap formByte

end SqlLint.Url
