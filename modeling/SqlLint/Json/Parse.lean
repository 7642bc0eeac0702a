import SqlLint.Json.Draft
import SqlLint.Text.Digit
import SqlLint.Text.Utf8

/-!
# Reading JSON

`readDraft?` reads one JSON value at the start of a text and gives its draft and the rest.
`Json.parse?` reads a text that holds one value and nothing else, and `Draft.stream?` a text that
holds any number of values one after the other.  The readers of nested values take the number of
values they may still open as fuel; every value takes a character, so the length of the text is
enough.
-/

namespace SqlLint

namespace JsonText

open Text

/-- A blank of JSON. -/
def isSpace (c : Char) : Bool := c == ' ' || c == '\n' || c == '\t' || c == '\r'

/-- The text after the blanks at its start. -/
def skip (cs : List Char) : List Char := cs.dropWhile isSpace

/-- The rest of a text that begins with `word`. -/
def after? (word : List Char) (cs : List Char) : Option (List Char) :=
  if word.isPrefixOf cs then some (cs.drop word.length) else none

/-! ## Numbers -/

/-- A significand of at most 64 bits, and how many digits of the text it leaves out. -/
def takeDigits : Nat → List Char → Nat × List Char
  | significand, [] => (significand, [])
  | significand, c :: cs =>
    let next := 10 * significand + digitValue c
    if next < UInt64.size then takeDigits next cs else (significand, c :: cs)

/-- The largest exponent that is written out. -/
def maxExponent : Nat := 0x7FFFFFFF

/-- The number that an optional sign, digits, a fraction and an exponent write.  Without fraction
and exponent it is an integer if it fits 64 bits. -/
def number? (negative : Bool) (whole : List Char) (fraction : Option (List Char))
    (exponent : Option (Bool × List Char)) : Option JsonNumber :=
  let (high, dropped) := takeDigits 0 whole
  if fraction.isNone ∧ exponent.isNone ∧ dropped = [] then
    if negative then
      if high = 0 then some (.real ⟨0x8000000000000000⟩)
      else if high ≤ 0x8000000000000000 then some (.int (-high))
      else (Double.scaled? true high.toUInt64 0).map .real
    else some (.int high)
  else
    let digits := fraction.getD []
    let (significand, unread) := takeDigits high digits
    let shift : Int := dropped.length - ((digits.length - unread.length : Nat) : Int)
    match exponent with
    | none => (Double.scaled? negative significand.toUInt64 shift).map .real
    | some (down, ds) =>
      let e := decimalValue ds
      if maxExponent < e then
        if significand ≠ 0 ∧ ¬ down then none
        else some (.real ⟨if negative then 0x8000000000000000 else 0⟩)
      else
        let power : Int := if down then shift - e else shift + e
        (Double.scaled? negative significand.toUInt64 power).map .real

/-- The exponent at the start of a text, if there is one; a malformed one is an error. -/
def readExponent? (cs : List Char) : Option (Option (Bool × List Char) × List Char) :=
  match cs with
  | c :: rest =>
    if c = 'e' ∨ c = 'E' then
      let (down, rest) := match rest with
        | '+' :: r => (false, r)
        | '-' :: r => (true, r)
        | r => (false, r)
      let ds := rest.takeWhile Char.isDigit
      if ds = [] then none else some (some (down, ds), rest.dropWhile Char.isDigit)
    else some (none, cs)
  | [] => some (none, [])

/-- The fraction at the start of a text, if there is one; a malformed one is an error. -/
def readFraction? (cs : List Char) : Option (Option (List Char) × List Char) :=
  match cs with
  | '.' :: rest =>
    let ds := rest.takeWhile Char.isDigit
    if ds = [] then none else some (some ds, rest.dropWhile Char.isDigit)
  | _ => some (none, cs)

/-- The digits before the fraction: a zero alone, or digits that do not begin with zero. -/
def readWhole? (cs : List Char) : Option (List Char × List Char) :=
  let ds := cs.takeWhile Char.isDigit
  match ds with
  | [] => none
  | '0' :: _ :: _ => none
  | _ => some (ds, cs.dropWhile Char.isDigit)

/-- A number at the start of a text. -/
def readNumber? (cs : List Char) : Option (Draft × List Char) := do
  let (negative, cs) := match cs with
    | '-' :: r => (true, r)
    | r => (false, r)
  let (whole, cs) ← readWhole? cs
  let (fraction, cs) ← readFraction? cs
  let (exponent, cs) ← readExponent? cs
  return (.num (number? negative whole fraction exponent), cs)

/-! ## Strings -/

/-- The number that four hexadecimal digits write. -/
def hex4? (a b c d : Char) : Option Nat := do
  return 4096 * (← hexValue? a) + 256 * (← hexValue? b) + 16 * (← hexValue? c) + (← hexValue? d)

/-- A piece of a string as written: a character, or one UTF-16 unit given by its number. -/
inductive Piece where
  | char (c : Char)
  | unit (n : Nat)

/-- The character that a one-letter escape denotes. -/
def shortEscape? (c : Char) : Option Char :=
  if c = '"' ∨ c = '\\' ∨ c = '/' then some c
  else if c = 'b' then some '\x08'
  else if c = 'f' then some '\x0c'
  else if c = 'n' then some '\n'
  else if c = 'r' then some '\r'
  else if c = 't' then some '\t'
  else none

/-- The pieces of a string up to its closing quote, and the text after the quote. -/
def readPieces? : List Char → Option (List Piece × List Char)
  | [] => none
  | '"' :: rest => some ([], rest)
  | '\\' :: 'u' :: a :: b :: c :: d :: rest => do
    let n ← hex4? a b c d
    let (ps, rest) ← readPieces? rest
    return (.unit n :: ps, rest)
  | '\\' :: c :: rest => do
    let c ← shortEscape? c
    let (ps, rest) ← readPieces? rest
    return (.char c :: ps, rest)
  | c :: rest =>
    if c.toNat < 0x20 then none
    else do
      let (ps, rest) ← readPieces? rest
      return (.char c :: ps, rest)

/-- The unit is the first half of a surrogate pair. -/
def isHigh (n : Nat) : Bool := 0xD800 ≤ n && n ≤ 0xDBFF

/-- The unit is the second half of a surrogate pair. -/
def isLow (n : Nat) : Bool := 0xDC00 ≤ n && n ≤ 0xDFFF

/-- The characters that pieces denote: two halves that follow each other are one character and a
half on its own is none. -/
def pieceChars? : List Piece → Option (List Char)
  | [] => some []
  | .char c :: ps => (pieceChars? ps).map (c :: ·)
  | .unit n :: .unit m :: ps =>
    if isHigh n then
      if isLow m then
        (pieceChars? ps).map (Char.ofNat (0x10000 + (n - 0xD800) * 0x400 + (m - 0xDC00)) :: ·)
      else none
    else if isLow n then none
    else (pieceChars? (.unit m :: ps)).map (Char.ofNat n :: ·)
  | .unit n :: ps =>
    if isHigh n ∨ isLow n then none else (pieceChars? ps).map (Char.ofNat n :: ·)

/-- The string after its opening quote. -/
def readString? (cs : List Char) : Option (Option String × List Char) := do
  let (ps, rest) ← readPieces? cs
  return ((pieceChars? ps).map String.ofList, rest)

/-! ## Values -/

mutual

/-- A value at the start of a text. -/
def readValue? : Nat → List Char → Option (Draft × List Char)
  | 0, _ => none
  | fuel + 1, cs =>
    match skip cs with
    | '"' :: rest => (readString? rest).map fun (s, rest) => (.str s, rest)
    | '[' :: rest =>
      match skip rest with
      | ']' :: rest => some (.arr [], rest)
      | rest => (readItems? fuel rest).map fun (items, rest) => (.arr items, rest)
    | '{' :: rest =>
      match skip rest with
      | '}' :: rest => some (.obj [], rest)
      | rest => (readMembers? fuel rest).map fun (members, rest) => (.obj members, rest)
    | 'n' :: rest => (after? ['u', 'l', 'l'] rest).map (.null, ·)
    | 't' :: rest => (after? ['r', 'u', 'e'] rest).map (.bool true, ·)
    | 'f' :: rest => (after? ['a', 'l', 's', 'e'] rest).map (.bool false, ·)
    | rest => readNumber? rest

/-- The items of an array up to its closing bracket. -/
def readItems? : Nat → List Char → Option (List Draft × List Char)
  | 0, _ => none
  | fuel + 1, cs => do
    let (item, rest) ← readValue? fuel cs
    match skip rest with
    | ']' :: rest => return ([item], rest)
    | ',' :: rest =>
      let (items, rest) ← readItems? fuel rest
      return (item :: items, rest)
    | _ => none

/-- The members of an object up to its closing brace. -/
def readMembers? : Nat → List Char → Option (List (Option String × Draft) × List Char)
  | 0, _ => none
  | fuel + 1, cs => do
    let '"' :: rest := skip cs | none
    let (key, rest) ← readString? rest
    let ':' :: rest := skip rest | none
    let (value, rest) ← readValue? fuel rest
    match skip rest with
    | '}' :: rest => return ([(key, value)], rest)
    | ',' :: rest =>
      let (members, rest) ← readMembers? fuel rest
      return ((key, value) :: members, rest)
    | _ => none

end

/-- A value at the start of a text. -/
def readDraft? (cs : List Char) : Option (Draft × List Char) := readValue? (cs.length + 1) cs

/-- The values of a text, one after the other, at most `fuel` of them. -/
def readStream? : Nat → List Char → Option (List Draft)
  | 0, _ => none
  | fuel + 1, cs =>
    match skip cs with
    | [] => some []
    | rest => do
      let (d, rest) ← readDraft? rest
      return d :: (← readStream? fuel rest)

end JsonText

/-- The draft of a text that holds one value. -/
def Draft.parse? (text : String) : Option Draft := do
  let (d, rest) ← JsonText.readDraft? text.toList
  if JsonText.skip rest = [] then some d else none

/-- The drafts of a text that holds values one after the other. -/
def Draft.stream? (text : String) : Option (List Draft) :=
  JsonText.readStream? (text.length + 1) text.toList

/-- The value of a text that holds one value. -/
def Json.parse? (text : String) : Option Json := do (← Draft.parse? text).settle?

/-- The value of bytes that hold one value in UTF-8. -/
def Json.parseBytes? (bytes : List UInt8) : Option Json := do
  Json.parse? (← Text.Utf8.strict? bytes)

end SqlLint
