import SqlLint.Proofs.Text.LineStream
import SqlLint.Workspace.Invocation

/-!
# Decoding a stream

A decoder is written to in chunks, and the stream may end, after which the decoder is there for the next
one.  Wherever a stream is cut, the texts of its chunks and of its end are together the text that its bytes
stand for; a chunk is read together with the bytes that were carried over to it, and those that are
carried further are the beginning of a character and not all of it, three bytes at most
(`run_exact`).
-/

namespace SqlLint.Text.Utf8

open LineStream (Call)

variable {bs rest : List UInt8} {d : Decoder}

/-- What a call gives, and the decoder after it. -/
def Decoder.answer (d : Decoder) : Call → List Char × Decoder
  | .write chunk => d.write chunk
  | .finish => (d.finish, start)

/-- What calls give, and the decoder after them. -/
def Decoder.run (d : Decoder) : List Call → List (List Char) × Decoder
  | [] => ([], d)
  | call :: calls =>
    let now := d.answer call
    let later := now.2.run calls
    (now.1 :: later.1, later.2)

/-- The calls of a stream that arrives in chunks and then ends. -/
def callsOf (chunks : List (List UInt8)) : List Call := chunks.map .write ++ [.finish]

namespace Decoder

theorem run_append (d : Decoder) (calls later : List Call) :
    d.run (calls ++ later) =
      ((d.run calls).1 ++ ((d.run calls).2.run later).1, ((d.run calls).2.run later).2) := by
  induction calls generalizing d with
  | nil => rfl
  | cons call calls ih => simp only [List.cons_append, run, ih]

theorem IsValid.answer (valid : d.IsValid) (call : Call) : (d.answer call).2.IsValid := by
  cases call with
  | write chunk => exact valid.write chunk
  | finish => exact isValid_none

theorem IsValid.run (valid : d.IsValid) (calls : List Call) : (d.run calls).2.IsValid := by
  induction calls generalizing d with
  | nil => exact valid
  | cons call calls ih => exact ih (valid.answer call)

/-- The texts that the calls of a stream give are what the whole stream gives. -/
theorem flatten_run_callsOf (d : Decoder) (chunks : List (List UInt8)) :
    (d.run (callsOf chunks)).1.flatten = d.drain chunks := by
  induction chunks generalizing d with
  | nil => exact List.append_nil _
  | cons chunk chunks ih => exact congrArg ((d.write chunk).1 ++ ·) (ih _)

end Decoder

theorem IsUnfinished.length_le (h : IsUnfinished bs) : bs.length ≤ 3 := by
  obtain ⟨c, hc, proper⟩ := h
  have shorter : bs.length < (String.utf8EncodeChar c).length :=
    Nat.lt_of_le_of_ne hc.length_le fun same => proper (hc.eq_of_length same)
  have size := c.utf8Size_le_four
  rw [String.length_utf8EncodeChar] at shorter
  omega

theorem reads_write_iff (valid : d.IsValid) {chunk : List UInt8} {text : List Char} :
    Reads (d.held ++ chunk) text rest ↔ (d.write chunk).1 = text ∧ (d.write chunk).2.held = rest := by
  constructor
  · exact (reads_write valid chunk).unique
  · rintro ⟨rfl, rfl⟩
    exact reads_write valid chunk

/-- The texts of the chunks of a stream and of its end are together the text that its bytes stand for,
wherever it is cut, and the output of a tool that fixes is read so.  After any calls, at most three bytes
are carried, which begin a character and are not all of it; the next chunk is read together with them; and
once the stream has ended, the calls of the next one are answered as by a new decoder. -/
theorem run_exact (chunks : List (List UInt8)) (calls : List Call) :
    (∀ text, (Decoder.start.run (callsOf chunks)).1.flatten = text ↔
      Decodes chunks.flatten text) ∧
    outputLines .fix chunks =
      [String.ofList (Decoder.start.run (callsOf chunks)).1.flatten] ∧
    (Decoder.start.run calls).2.held.length ≤ 3 ∧
    IsUnfinished (Decoder.start.run calls).2.held ∧
    (∀ chunk text rest, Reads ((Decoder.start.run calls).2.held ++ chunk) text rest ↔
      ((Decoder.start.run calls).2.write chunk).1 = text ∧
        ((Decoder.start.run calls).2.write chunk).2.held = rest) ∧
    ∀ later, Decoder.start.run (calls ++ .finish :: later) =
      ((Decoder.start.run (calls ++ [.finish])).1 ++ (Decoder.start.run later).1,
        (Decoder.start.run later).2) := by
  have valid := Decoder.isValid_none.run calls
  refine ⟨fun text => ?_, ?_, valid.isUnfinished.length_le, valid.isUnfinished,
    fun _ _ _ => reads_write_iff valid, fun later => ?_⟩
  · rw [Decoder.flatten_run_callsOf, drain_start, decodes_iff]
    exact eq_comm
  · rw [Decoder.flatten_run_callsOf, outputLines]
  · rw [← List.singleton_append, ← List.append_assoc, Decoder.run_append, Decoder.run_append _ calls]
    rfl

/-- A character cut in two, one that is broken off by another, and one in which the stream ends. -/
example : (Decoder.start.run (callsOf [[0xE2], [0x82, 0xAC, 0xE2], [0x41, 0xF0]])).1 =
    [[], ['€'], [replacement, 'A'], [replacement]] := by
  decide

end SqlLint.Text.Utf8
