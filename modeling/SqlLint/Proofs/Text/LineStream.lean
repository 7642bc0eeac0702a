import Mathlib.Data.List.Forall2
import SqlLint.Proofs.Text.Pieces
import SqlLint.Proofs.Text.Utf8
import SqlLint.Text.LineStream

/-!
# Which lines a byte stream has

A stream is written to in chunks and ended, again and again.  The bytes between two ends are a
segment, wherever its chunks are cut.  `lines_run` says which lines the stream has then: those of the
texts that the ended segments stand for, and of the segment that is still open those whose terminator
is written.

The state of a stream is that which the bytes of the open segment alone lead to (`reached`), and every
call takes it to that of the bytes after the call (`write_reached`, `finish_reached`).
-/

namespace SqlLint.Text

namespace LineStream

open Utf8

/-- A call: a chunk is written, or the stream ends. -/
inductive Call where
  | write (chunk : List UInt8)
  | finish
  deriving DecidableEq, Repr

/-- The lines of a whole text. -/
def wholeLines (cs : List Char) : List (List Char) := (pieces isTerminator cs).filter (· ≠ [])

/-- What a call gives, and the stream after it. -/
def answer (s : LineStream) : Call → List (List Char) × LineStream
  | .write chunk => s.write chunk
  | .finish => (s.finish.1.toList, s.finish.2)

/-- What calls give, each a list, and the stream after them. -/
def run (s : LineStream) : List Call → List (List (List Char)) × LineStream
  | [] => ([], s)
  | call :: calls =>
    let now := s.answer call
    let later := now.2.run calls
    (now.1 :: later.1, later.2)

/-- The segments that were ended, and the one that is open. -/
structure Segments where
  ended : List (List UInt8) := []
  opened : List UInt8 := []
  deriving DecidableEq, Repr

/-- The segments after a call. -/
def Segments.after (g : Segments) : Call → Segments
  | .write chunk => { g with opened := g.opened ++ chunk }
  | .finish => ⟨g.ended ++ [g.opened], []⟩

/-- The segments that calls write. -/
def segments (calls : List Call) : Segments := calls.foldl Segments.after {}

/-- The stream after some segments. -/
def reached (g : Segments) : LineStream where
  decoder := (Decoder.start.write g.opened).2
  tail := unterminated (Decoder.start.write g.opened).1
  lines := g.ended.flatMap (wholeLines ∘ lossy) ++ completed (Decoder.start.write g.opened).1

/-! ## Lines of a text that goes on -/

theorem completed_append (xs ys : List Char) :
    completed (xs ++ ys) = completed xs ++ completed (unterminated xs ++ ys) := by
  rw [completed, pieces_append, List.dropLast_append_of_ne_nil (pieces_ne_nil _ _),
    List.filter_append]
  rfl

theorem unterminated_append (xs ys : List Char) :
    unterminated (xs ++ ys) = unterminated (unterminated xs ++ ys) := by
  have whole := pieces_append isTerminator xs ys
  rw [← unterminated] at whole
  rw [unterminated, whole, unterminated.eq_def (unterminated xs ++ ys)]
  simp only [List.getLastD_eq_getLast?, List.getLast?_append,
    List.getLast?_eq_some_getLast (pieces_ne_nil isTerminator (unterminated xs ++ ys)),
    Option.some_or]

theorem completed_of_none {cs : List Char} (h : ∀ c ∈ cs, isTerminator c = false) :
    completed cs = [] := by
  simp [completed, pieces_of_none h]

theorem unterminated_of_none {cs : List Char} (h : ∀ c ∈ cs, isTerminator c = false) :
    unterminated cs = cs := by
  simp [unterminated, pieces_of_none h]

theorem isTerminator_of_mem_finish (d : Decoder) : ∀ c ∈ d.finish, isTerminator c = false := by
  cases d with
  | none => simp [Decoder.finish]
  | some s => simp [Decoder.finish, replacement, isTerminator]

/-- The last line of a text is that which no terminator ends. -/
theorem wholeLines_eq (cs : List Char) :
    wholeLines cs = completed cs ++ if unterminated cs = [] then [] else [unterminated cs] := by
  have whole : pieces isTerminator cs =
      (pieces isTerminator cs).dropLast ++ [unterminated cs] := by
    rw [unterminated, List.getLastD_eq_getLast?,
      List.getLast?_eq_some_getLast (pieces_ne_nil isTerminator cs)]
    exact (List.dropLast_concat_getLast _).symm
  rw [wholeLines, whole, List.filter_append, ← completed]
  by_cases h : unterminated cs = [] <;> simp [h]

/-! ## Calls -/

/-- The lines that a call gives are those that it adds. -/
theorem lines_answer (s : LineStream) (call : Call) :
    (s.answer call).2.lines = s.lines ++ (s.answer call).1 := by
  cases call with
  | write chunk => rfl
  | finish =>
    simp only [answer, finish]
    split <;> simp

theorem finish_eq (s : LineStream) :
    s.finish.2 = ⟨Decoder.start, [], s.lines ++
      if s.tail ++ s.decoder.finish = [] then [] else [s.tail ++ s.decoder.finish]⟩ := by
  simp only [finish]
  split <;> simp

theorem reached_of_nil (ended : List (List UInt8)) :
    reached ⟨ended, []⟩ = ⟨Decoder.start, [], ended.flatMap (wholeLines ∘ lossy)⟩ := by
  simp [reached, Decoder.write, unterminated, completed, pieces]

/-- The end of the stream ends no line before the last one. -/
theorem isTerminator_of_mem_last (bs : List UInt8) :
    ∀ c ∈ unterminated (Decoder.start.write bs).1 ++ (Decoder.start.write bs).2.finish,
      isTerminator c = false := by
  intro c hc
  obtain hc | hc := List.mem_append.1 hc
  · exact getLastD_pieces _ _ c hc
  -- What the decoder still gives is U+FFFD at most.
  · exact isTerminator_of_mem_finish _ c hc

/-- The lines of the text of some bytes that a terminator ends are those of what the decoder has
written. -/
theorem completed_lossy (bs : List UInt8) :
    completed (lossy bs) = completed (Decoder.start.write bs).1 := by
  rw [lossy, completed_append, completed_of_none (isTerminator_of_mem_last bs), List.append_nil]

theorem wholeLines_lossy (bs : List UInt8) :
    wholeLines (lossy bs) = completed (Decoder.start.write bs).1 ++
      let last := unterminated (Decoder.start.write bs).1 ++ (Decoder.start.write bs).2.finish
      if last = [] then [] else [last] := by
  rw [wholeLines_eq, completed_lossy, lossy, unterminated_append,
    unterminated_of_none (isTerminator_of_mem_last bs)]

/-- A call takes the stream to where the segments lead that there are after it. -/
theorem answer_reached (g : Segments) (call : Call) :
    ((reached g).answer call).2 = reached (g.after call) := by
  cases call with
  | write chunk =>
    -- The decoder goes on with the chunk, and the lines with the text of the chunk.
    have more := Decoder.write_append Decoder.start g.opened chunk
    simp only [answer, write, reached, Segments.after, more]
    rw [completed_append (Decoder.start.write g.opened).1, ← List.append_assoc,
      unterminated_append (Decoder.start.write g.opened).1]
  | finish =>
    -- The lines of the segment are those that are complete, and what the end makes the last one.
    rw [Segments.after, reached_of_nil, List.flatMap_append, List.flatMap_singleton,
      Function.comp_apply, wholeLines_lossy, ← List.append_assoc]
    exact finish_eq _

/-! ## Scripts -/

theorem run_reached (g : Segments) (calls : List Call) :
    ((reached g).run calls).2 = reached (calls.foldl Segments.after g) := by
  induction calls generalizing g with
  | nil => rfl
  | cons call calls ih =>
    rw [run, List.foldl_cons, answer_reached]
    exact ih _

theorem lines_run_eq (s : LineStream) (calls : List Call) :
    (s.run calls).2.lines = s.lines ++ (s.run calls).1.flatten := by
  induction calls generalizing s with
  | nil => simp [run]
  | cons call calls ih =>
    simp only [run, ih, lines_answer, List.flatten_cons, List.append_assoc]

theorem forall₂_decodes_iff {segments : List (List UInt8)} {texts : List (List Char)} :
    List.Forall₂ Decodes segments texts ↔ texts = segments.map lossy := by
  induction segments generalizing texts with
  | nil => exact List.forall₂_nil_left_iff
  | cons bs segments ih =>
    rw [List.forall₂_cons_left_iff]
    constructor
    · rintro ⟨cs, texts, hcs, htexts, rfl⟩
      rw [decodes_iff.1 hcs, ih.1 htexts, List.map_cons]
    · rintro rfl
      exact ⟨_, _, decodes_lossy bs, ih.2 rfl, rfl⟩

theorem lines_run_start (calls : List Call) :
    (start.run calls).2.lines = (segments calls).ended.flatMap (wholeLines ∘ lossy) ++
      completed (lossy (segments calls).opened) := by
  have fresh : start = reached {} := (reached_of_nil []).symm
  rw [fresh, run_reached, completed_lossy]
  rfl

/-- The lines of a stream after any calls are, for each ended segment in order, those of the text
that it stands for, and then those of the open segment that a terminator ends; the calls gave
exactly these lines, one after the other; and other calls that write the same segments, wherever they
cut them, lead to the same lines. -/
theorem lines_run (calls : List Call) :
    (∀ lines, (start.run calls).2.lines = lines ↔
      ∃ texts last, List.Forall₂ Decodes (segments calls).ended texts ∧
        Decodes (segments calls).opened last ∧
        lines = texts.flatMap wholeLines ++ completed last) ∧
    (start.run calls).1.flatten = (start.run calls).2.lines ∧
    ∀ others, segments others = segments calls →
      (start.run others).2.lines = (start.run calls).2.lines := by
  refine ⟨fun lines => ?_, (lines_run_eq start calls).symm, fun others same => ?_⟩
  · simp only [forall₂_decodes_iff, decodes_iff, lines_run_start]
    constructor
    · rintro rfl
      exact ⟨_, _, rfl, rfl, by rw [List.flatMap_map]; rfl⟩
    · rintro ⟨_, _, rfl, rfl, rfl⟩
      rw [List.flatMap_map]
      rfl
  · rw [lines_run_start, lines_run_start, same]

/-- A line feed after a carriage return and a character of two bytes, both cut in the middle. -/
def cutCalls : List Call :=
  [.write [0xC3], .write [0xA9, 0x0D], .write [], .write [0x0A, 0x78], .finish, .write [0x79]]

/-- The same bytes in one chunk. -/
def uncutCalls : List Call := [.write [0xC3, 0xA9, 0x0D, 0x0A, 0x78], .finish, .write [0x79]]

theorem lines_run_cutCalls :
    segments cutCalls = segments uncutCalls ∧
      (start.run cutCalls).2.lines = (start.run uncutCalls).2.lines ∧
      (start.run cutCalls).2.lines = [['é'], ['x']] :=
  ⟨by decide, (lines_run uncutCalls).2.2 cutCalls (by decide), by decide⟩

theorem foldl_write_reached (g : Segments) (chunks : List (List UInt8)) :
    chunks.foldl (fun s chunk => (s.write chunk).2) (reached g) =
      reached { g with opened := g.opened ++ chunks.flatten } := by
  induction chunks generalizing g with
  | nil => simp
  | cons chunk chunks ih =>
    have next : ((reached g).write chunk).2 = _ := answer_reached g (.write chunk)
    rw [List.foldl_cons, next, ih, List.flatten_cons, ← List.append_assoc]
    rfl

/-- The lines of a stream that arrives in chunks and then ends are those of its text. -/
theorem linesOf_eq (chunks : List (List UInt8)) :
    linesOf chunks = wholeLines (lossy chunks.flatten) := by
  have fresh : start = reached {} := (reached_of_nil []).symm
  rw [linesOf, fresh, foldl_write_reached]
  refine (congrArg lines (answer_reached _ .finish)).trans ?_
  simp [Segments.after, reached_of_nil]

/-! ## Texts of one line -/

theorem wholeLines_append_cons {c : Char} (ends : isTerminator c = true) (xs ys : List Char) :
    wholeLines (xs ++ c :: ys) = wholeLines xs ++ wholeLines ys := by
  rw [wholeLines, pieces_append_cons ends, List.filter_append]
  rfl

theorem wholeLines_terminators {ending : List Char} (ends : ∀ c ∈ ending, isTerminator c = true) :
    wholeLines ending = [] := by
  induction ending with
  | nil => rfl
  | cons c cs ih =>
    obtain ⟨first, later⟩ := List.forall_mem_cons.1 ends
    exact (wholeLines_append_cons first [] cs).trans (ih later)

/-- A line is the one line of a text if only terminators follow it. -/
theorem wholeLines_single {line ending : List Char} (nonempty : line ≠ [])
    (unended : ∀ c ∈ line, isTerminator c = false) (ends : ∀ c ∈ ending, isTerminator c = true) :
    wholeLines (line ++ ending) = [line] := by
  have alone : wholeLines line = [line] := by
    rw [wholeLines, pieces_of_none unended, List.filter_singleton, decide_eq_true nonempty]
    rfl
  cases ending with
  | nil => rw [List.append_nil, alone]
  | cons c cs =>
    obtain ⟨first, later⟩ := List.forall_mem_cons.1 ends
    rw [wholeLines_append_cons first, alone, wholeLines_terminators later, List.append_nil]

end LineStream

end SqlLint.Text
