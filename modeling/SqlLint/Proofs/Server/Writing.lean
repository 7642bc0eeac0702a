import SqlLint.Proofs.Lint.History
import SqlLint.Proofs.Server.Framing
import SqlLint.Server.Message

/-!
# Messages written by several threads

Threads that send messages share a `Writer`.  A thread takes the lock, writes the frame of its
message in pieces of any size and lets go of the lock; `Writer.Move` names these steps, and a
history is any list of them, so that all interleavings are among them.  What was written when
nobody has the lock is read back as the bodies that were sent (`readAll_written`).
-/

namespace SqlLint

open Text

/-- The body of a message. -/
def Message.body (message : Json) : List UInt8 := Utf8.encode message.compress

/-- What threads have written, the thread that has the lock with what it has still to write, and the
messages for which the lock was taken. -/
structure Writer where
  written : List UInt8 := []
  holder : Option (Nat × List UInt8) := none
  sent : List Json := []

namespace Writer

/-- A step of a thread: it takes the lock to send a message, writes some bytes of the frame, or
lets go of the lock. -/
inductive Move where
  | lock (thread : Nat) (message : Json)
  | write (thread count : Nat)
  | unlock (thread : Nat)

/-- The message that is sent, if the step is the beginning of that. -/
def Move.message? : Move → Option Json
  | .lock _ message => some message
  | _ => none

variable {w w' d : Writer} {x : Move} {h : List Move}

/-- The writer after a step; none if it cannot be made.  The body was put together before, and no
body is longer than `Frame.maxLength`. -/
def move? (w : Writer) : Move → Option Writer
  | .lock thread message =>
    if w.holder = none ∧ (Message.body message).length ≤ Frame.maxLength then
      some { w with
        holder := some (thread, Message.frame message)
        sent := w.sent ++ [message] }
    else none
  | .write thread count =>
    match w.holder with
    | some (holder, bytes) =>
      if holder = thread then
        some { w with
          written := w.written ++ bytes.take count
          holder := some (holder, bytes.drop count) }
      else none
    | none => none
  | .unlock thread =>
    if w.holder = some (thread, []) then some { w with holder := none } else none

/-- The writer after a history; none if one of its steps cannot be made. -/
def follow? (w : Writer) (h : List Move) : Option Writer := h.foldlM move? w

/-- The bytes that the thread with the lock has still to write. -/
def left (w : Writer) : List UInt8 := (w.holder.map Prod.snd).getD []

/-- What was written and what is still to be written are the frames of the messages, in the order in
which the lock was taken for them, and all their bodies are read. -/
structure IsOrderly (w : Writer) : Prop where
  frames : w.written ++ w.left = w.sent.flatMap Message.frame
  fits : ∀ message ∈ w.sent, (Message.body message).length ≤ Frame.maxLength

theorem isOrderly_new : IsOrderly {} := ⟨rfl, nofun⟩

/-- What a step does: the lock is free and taken, the thread that has it writes, or lets go of it with
nothing left to write. -/
theorem move?_cases (hx : w.move? x = some w') :
    (∃ thread message, x = .lock thread message ∧ w.holder = none ∧
      (Message.body message).length ≤ Frame.maxLength ∧ w' = { w with
        holder := some (thread, Message.frame message)
        sent := w.sent ++ [message] }) ∨
    (∃ thread count bytes, x = .write thread count ∧ w.holder = some (thread, bytes) ∧
      w' = { w with
        written := w.written ++ bytes.take count
        holder := some (thread, bytes.drop count) }) ∨
    ∃ thread, x = .unlock thread ∧ w.holder = some (thread, []) ∧ w' = { w with holder := none } := by
  cases x with
  | lock thread message =>
    obtain ⟨⟨free, short⟩, same⟩ := Option.ite_none_right_eq_some.1 hx
    exact .inl ⟨thread, message, rfl, free, short, (Option.some.inj same).symm⟩
  | write thread count =>
    simp only [Writer.move?] at hx
    split at hx
    · next holder bytes held =>
      obtain ⟨rfl, same⟩ := Option.ite_none_right_eq_some.1 hx
      exact .inr (.inl ⟨holder, count, bytes, rfl, held, (Option.some.inj same).symm⟩)
    · cases hx
  | unlock thread =>
    obtain ⟨held, same⟩ := Option.ite_none_right_eq_some.1 hx
    exact .inr (.inr ⟨thread, rfl, held, (Option.some.inj same).symm⟩)

theorem IsOrderly.move? (orderly : w.IsOrderly) (hx : w.move? x = some w') : w'.IsOrderly := by
  obtain ⟨frames, fits⟩ := orderly
  rcases move?_cases hx with ⟨thread, message, rfl, free, short, rfl⟩ |
    ⟨thread, count, bytes, rfl, held, rfl⟩ | ⟨thread, rfl, held, rfl⟩
  · refine ⟨?_, ?_⟩
    · simp only [left, free] at frames
      simp [left, ← frames]
    · intro m hm
      rcases List.mem_append.1 hm with hm | hm
      · exact fits m hm
      · exact List.mem_singleton.1 hm ▸ short
  · refine ⟨?_, fits⟩
    simp only [left, held] at frames
    simp [left, ← frames]
  · refine ⟨?_, fits⟩
    simp only [left, held] at frames
    simpa [left] using frames

theorem sent_of_move? (hx : w.move? x = some w') : w'.sent = w.sent ++ x.message?.toList := by
  rcases move?_cases hx with ⟨thread, message, rfl, -, -, rfl⟩ |
    ⟨thread, count, bytes, rfl, -, rfl⟩ | ⟨thread, rfl, -, rfl⟩
  · rfl
  · exact (List.append_nil _).symm
  · exact (List.append_nil _).symm

theorem IsOrderly.follow? (orderly : w.IsOrderly) (hd : w.follow? h = some d) : d.IsOrderly :=
  foldlM_preserves (fun _ _ _ orderly hx => orderly.move? hx) orderly hd

theorem sent_of_follow? (hd : w.follow? h = some d) :
    d.sent = w.sent ++ h.filterMap Move.message? := by
  induction h generalizing w with
  | nil =>
    obtain rfl := Option.some.inj hd
    exact (List.append_nil _).symm
  | cons x h ih =>
    rw [Writer.follow?, List.foldlM_cons] at hd
    obtain ⟨w', hx, hd⟩ := Option.bind_eq_some_iff.1 hd
    rw [ih hd, sent_of_move? hx, List.append_assoc]
    cases hm : x.message? <;> simp [hm]

/-- Whatever the threads do, when nobody has the lock all that was written is read back as the
bodies of the messages, in the order in which the lock was taken for them, and nothing is left. -/
theorem readAll_written (run : ({} : Writer).follow? h = some w) (free : w.holder = none) :
    Frame.readAll w.written = ((h.filterMap Move.message?).map Message.body, none, []) := by
  have orderly := isOrderly_new.follow? run
  have sent : w.sent = h.filterMap Move.message? := sent_of_follow? run
  have written := orderly.frames
  simp only [left, free, Option.map_none, Option.getD_none, List.append_nil] at written
  have frames : w.written = (w.sent.map Message.body).flatMap Frame.write := by
    rw [written, List.flatMap_map]
    rfl
  rw [frames, ← sent]
  apply Frame.readAll_flatMap_write
  intro body hbody
  obtain ⟨message, hm, rfl⟩ := List.mem_map.1 hbody
  exact orderly.fits message hm

/-- Two threads send texts, the second of which reads like headers. -/
theorem readAll_written_twoThreads :
    let h : List Move := [
      .lock 1 (.str "é"), .write 1 20, .write 1 3, .write 1 2, .unlock 1,
      .lock 0 (.str "Content-Length: 0\r\n\r\n"), .write 0 60, .unlock 0]
    ∃ w, ({} : Writer).follow? h = some w ∧ w.holder = none ∧ Frame.readAll w.written =
      ([Message.body (.str "é"), Message.body (.str "Content-Length: 0\r\n\r\n")], none, []) := by
  intro h
  have ends : (({} : Writer).follow? h).map (·.holder) = some none := by decide +kernel
  obtain ⟨w, run, free⟩ := Option.map_eq_some_iff.1 ends
  exact ⟨w, run, free, readAll_written run free⟩

end Writer

end SqlLint
