import SqlLint.Text.Blank
import SqlLint.Text.Utf8

/-!
# Frames

Messages travel in frames: lines of headers, one of which tells the length of the body in bytes, a
blank line, and the body.  `Frame.write` writes a frame and `Frame.read` reads the first one of a
stream: it ends with nothing, with a body, or with a `FrameFault`, and tells what is left unread.
The buffer for a body is asked for before any of it is read; where it cannot be had, reading does
not return.
-/

namespace SqlLint

open Text

/-- Why a text is not a length. -/
inductive LengthFault where
  | empty
  | notDigit
  | tooLarge
  deriving DecidableEq, Repr

/-- The words for why a text is not a length. -/
def LengthFault.message : LengthFault → String
  | .empty => "cannot parse integer from empty string"
  | .notDigit => "invalid digit found in string"
  | .tooLarge => "number too large to fit in target type"

/-- Why no frame can be read.  A length is `unbounded` if no buffer can have it, and there is
`noMemory` if a buffer could have it but cannot be had. -/
inductive FrameFault where
  | headerNotText
  | badLength (fault : LengthFault)
  | noLength
  | endInHeaders
  | endInBody
  | unbounded
  | noMemory
  deriving DecidableEq, Repr

/-- The words for why no frame can be read; there are none where reading does not return. -/
def FrameFault.message : FrameFault → String
  | .headerNotText => "stream did not contain valid UTF-8"
  | .badLength fault => "invalid Content-Length header: " ++ fault.message
  | .noLength => "missing Content-Length header in LSP message"
  | .endInHeaders => "unexpected EOF while reading LSP headers"
  | .endInBody => "failed to fill whole buffer"
  | .unbounded | .noMemory => ""

/-- The stream ended too early. -/
def FrameFault.isEnd : FrameFault → Bool
  | .endInHeaders | .endInBody => true
  | _ => false

/-- Reading does not return: the reader breaks off, or the whole process is ended. -/
def FrameFault.isCrash : FrameFault → Bool
  | .unbounded | .noMemory => true
  | _ => false

/-- What reading one frame gives: the stream is over, a body and what follows it, or a fault and
what is left unread. -/
inductive FrameRead where
  | over
  | body (bytes rest : List UInt8)
  | fault (f : FrameFault) (rest : List UInt8)
  deriving DecidableEq, Repr

namespace Frame

/-! ## Lengths -/

/-- The number that digits write, after a number that was read before them. -/
def digits (n : Nat) : List Char → Except LengthFault Nat
  | [] => .ok n
  | c :: cs =>
    if ! c.isDigit then .error .notDigit
    else
      let n := 10 * n + (c.toNat - '0'.toNat)
      if UInt64.size ≤ n then .error .tooLarge else digits n cs

/-- The length that a text writes: digits, after a plus sign or none. -/
def length : List Char → Except LengthFault Nat
  | [] => .error .empty
  | ['+'] => .error .notDigit
  | '+' :: cs => digits 0 cs
  | cs => digits 0 cs

/-- No body is longer than this. -/
def maxLength : Nat := 0x7FFFFFFFFFFFFFFF

/-! ## Headers -/

/-- The first line of a stream, with its line feed, and what follows it. -/
def firstLine : List UInt8 → List UInt8 × List UInt8
  | [] => ([], [])
  | b :: bs =>
    if b = 0x0A then ([b], bs)
    else
      let (line, rest) := firstLine bs
      (b :: line, rest)

theorem length_firstLine_le (bs : List UInt8) : (firstLine bs).2.length ≤ bs.length := by
  induction bs with
  | nil => simp [firstLine]
  | cons b bs ih =>
    unfold firstLine
    split
    · simp
    · simpa using Nat.le_succ_of_le ih

theorem firstLine_append (bs : List UInt8) : (firstLine bs).1 ++ (firstLine bs).2 = bs := by
  induction bs with
  | nil => rfl
  | cons b bs ih =>
    unfold firstLine
    split
    · rfl
    · simpa using ih

theorem length_firstLine_lt {bs : List UInt8} (h : bs ≠ []) :
    (firstLine bs).2.length < bs.length := by
  cases bs with
  | nil => exact absurd rfl h
  | cons b bs =>
    unfold firstLine
    split
    · simp
    · simpa using Nat.lt_succ_of_le (length_firstLine_le bs)

/-- The line without the line feeds and carriage returns at its end. -/
def headerText (line : List Char) : List Char :=
  (line.reverse.dropWhile fun c => c == '\n' || c == '\r').reverse

/-- The name of the header that tells the length. -/
def lengthHeader : List Char := "Content-Length:".toList

/-- The length that a header tells, if it is the one that does. -/
def headerLength? (header : List Char) : Except LengthFault (Option Nat) :=
  if lengthHeader.isPrefixOf header then
    (length (trim (header.drop lengthHeader.length))).map some
  else .ok none

/-- The headers at the start of a stream, up to the blank line that ends them: nothing if the
stream ends before any header, or else the last length they tell and what follows them. -/
def headers (seen : Bool) (found : Option Nat) (bs : List UInt8) :
    Except (FrameFault × List UInt8) (Option (Option Nat × List UInt8)) :=
  if _h : bs = [] then if seen then .error (.endInHeaders, []) else .ok none
  else
    let rest := (firstLine bs).2
    match Utf8.strict? (firstLine bs).1 with
    | none => .error (.headerNotText, rest)
    | some line =>
      let header := headerText line.toList
      if header = [] then if seen then .ok (some (found, rest)) else headers false found rest
      else match headerLength? header with
        | .error fault => .error (.badLength fault, rest)
        | .ok told => headers true (told.or found) rest
termination_by bs.length
decreasing_by all_goals exact length_firstLine_lt _h

/-! ## Reading and writing -/

/-- The first frame of a stream, where buffers of up to `memory` bytes can be had. -/
def read (bs : List UInt8) (memory : Nat := maxLength) : FrameRead :=
  match headers false none bs with
  | .error (fault, rest) => .fault fault rest
  | .ok none => .over
  | .ok (some (none, rest)) => .fault .noLength rest
  | .ok (some (some n, rest)) =>
    if maxLength < n then .fault .unbounded rest
    else if memory < n then .fault .noMemory rest
    else
      let body := rest.take n
      if body.length < n then .fault .endInBody [] else .body body (rest.drop n)

/-- The frame of a body. -/
def write (body : List UInt8) : List UInt8 :=
  Utf8.encode ("Content-Length: " ++ toString body.length ++ "\r\n\r\n") ++ body

theorem length_of_headers {seen : Bool} {found told : Option Nat} {bs rest : List UInt8}
    (h : headers seen found bs = .ok (some (told, rest))) : rest.length < bs.length := by
  induction hn : bs.length using Nat.strongRecOn generalizing seen found bs with
  | ind n ih =>
    subst hn
    unfold headers at h
    split at h
    · split at h <;> simp at h
    · rename_i hb
      have shorter := length_firstLine_lt hb
      dsimp only at h
      split at h
      · simp at h
      · split at h
        · split at h
          · simp only [Except.ok.injEq, Option.some.injEq, Prod.mk.injEq] at h
            exact h.2 ▸ shorter
          · exact Nat.lt_trans (ih _ shorter h rfl) shorter
        · split at h
          · simp at h
          · exact Nat.lt_trans (ih _ shorter h rfl) shorter

theorem length_of_read {bs body rest : List UInt8} {memory : Nat}
    (h : read bs memory = .body body rest) : rest.length < bs.length := by
  unfold read at h
  split at h
  · simp at h
  · simp at h
  · simp at h
  · rename_i hh
    dsimp only at h
    split at h
    · simp at h
    · split at h
      · simp at h
      · split at h
        · simp at h
        · simp only [FrameRead.body.injEq] at h
          have := length_of_headers hh
          rw [← h.2, List.length_drop]
          omega

/-- All bodies of a stream up to its end or the first fault, the fault, and what is left unread. -/
def readAll (bs : List UInt8) (memory : Nat := maxLength) :
    List (List UInt8) × Option FrameFault × List UInt8 :=
  match _h : read bs memory with
  | .over => ([], none, [])
  | .fault f rest => ([], some f, rest)
  | .body body rest =>
    let later := readAll rest memory
    (body :: later.1, later.2)
termination_by bs.length
decreasing_by exact length_of_read _h

end Frame

end SqlLint
