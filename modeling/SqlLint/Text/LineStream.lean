import SqlLint.Text.Lines
import SqlLint.Text.Utf8

/-!
# Lines of a byte stream

`LineStream` collects the lines of a stream of bytes that arrives in chunks of any size.  A line
ends at a line feed or a carriage return; empty lines are not lines.  `write` takes a chunk and
gives the lines that it completes, `finish` gives the line that the end of the stream completes.
-/

namespace SqlLint.Text

open Utf8

/-- The lines completed so far, the text after the last terminator and the state of the decoder. -/
structure LineStream where
  decoder : Decoder := Decoder.start
  tail : List Char := []
  lines : List (List Char) := []

namespace LineStream

/-- A stream of which nothing has been read. -/
def start : LineStream := {}

/-- The lines that the terminators in a text complete. -/
def completed (cs : List Char) : List (List Char) :=
  (pieces isTerminator cs).dropLast.filter (· ≠ [])

/-- The text after the last terminator. -/
def unterminated (cs : List Char) : List Char := (pieces isTerminator cs).getLastD []

/-- A chunk read: the lines it completes and the stream after it. -/
def write (s : LineStream) (chunk : List UInt8) : List (List Char) × LineStream :=
  let decoded := s.decoder.write chunk
  let text := s.tail ++ decoded.1
  (completed text, ⟨decoded.2, unterminated text, s.lines ++ completed text⟩)

/-- The end of the stream: the unterminated line, if there is one, and the stream after it. -/
def finish (s : LineStream) : Option (List Char) × LineStream :=
  let last := s.tail ++ s.decoder.finish
  if last = [] then (none, ⟨Decoder.start, [], s.lines⟩)
  else (some last, ⟨Decoder.start, [], s.lines ++ [last]⟩)

/-- All chunks of a stream read, and its end. -/
def linesOf (chunks : List (List UInt8)) : List (List Char) :=
  (chunks.foldl (fun s chunk => (s.write chunk).2) start).finish.2.lines

end LineStream

end SqlLint.Text
