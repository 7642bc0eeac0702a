import SqlLint.Proofs.Document.Selecting
import SqlLint.Proofs.Document.Sync
import SqlLint.Proofs.Workspace.Ending
import SqlLint.Proofs.Workspace.Fixing
import SqlLint.Proofs.Workspace.Selection

/-!
# Formatting what is clean

A tool that finds nothing to fix gives back the text it was given.  A document then stays as it is, unless
its own first line reads like a notice of the tool (`formatDocument_echo`).  A selection stays as it is,
unless the lines that are sent end with an empty one (`formatRange_completed_iff`).
-/

namespace SqlLint

open Text

variable {cs : List Char} {lines ls : List (List Char)} {d : Document} {text path : String}

/-! ## Notices -/

/-- The lines begin with a notice of the tool, so that formatting leaves something out. -/
def HasNotice (lines : List (List Char)) : Prop :=
  FirstBegins "NO SAFETY:" lines ∨ FirstMentions "templating/parsing errors remaining" lines

instance (lines : List (List Char)) : Decidable (HasNotice lines) :=
  inferInstanceAs (Decidable (_ ∨ _))

theorem hasNotice_of_head? (same : lines.head? = ls.head?) : HasNotice lines ↔ HasNotice ls := by
  simp only [HasNotice, FirstBegins, FirstMentions, same]

theorem fixedLines_of_not_hasNotice (h : ¬ HasNotice lines) : fixedLines lines = lines := by
  rw [HasNotice, not_or] at h
  rw [fixedLines, withoutSafety, if_neg h.1, withoutRemaining, if_neg h.2]

/-! ## Tools that read and write -/

/-- Every program on the machine writes what a function makes of the text that it reads. -/
def Machine.Filters (m : Machine) (f : String → String) : Prop :=
  ∀ files vars place c b, m.start files vars place c = .ok b →
    b.exit.output.flatten = Utf8.encode (f (c.input.getD ""))

namespace Workspace

variable {w w' : Workspace} {f : String → String}

theorem contents?_ofText (text path : String) :
    (Target.ofText text path).contents?.getD "" = text := by
  unfold Target.ofText
  split
  · next empty => exact empty.symm
  · rfl

theorem lossy_encode (s : String) : Utf8.lossy (Utf8.encode s) = s.toList := by
  rw [Utf8.encode_eq, Utf8.lossy_flatMap]

/-- What the tool gives for a text are the lines it wrote besides its notices, if it gives any. -/
theorem fixText_of_filters (off : w.settings.dbt.enabled = false) (orderly : w.machine.IsOrderly)
    (filters : w.machine.Filters f) (h : (w.fixText text path).1 = .ok (some lines)) :
    lines = fixedLines (anyLines (f text).toList) := by
  unfold fixText at h
  dsimp only at h
  split at h
  · cases h
  · next result after ran =>
    split at h
    · next success =>
      obtain ⟨files, vars, place, command, b, starts, on, -, written⟩ :=
        of_invoke off orderly (validate_buffer _ _ _ _) ran success
      have bytes := filters files vars place command b starts
      rw [on.input_eq, contents?_ofText] at bytes
      have output : result.lines = [f text] := by
        rw [written, outputLines, Utf8.drain_start, bytes, lossy_encode, String.ofList_toList]
      have whole : LinesOf (f text).toList (anyLines (f text).toList) := linesOf_anyLines _
      obtain ⟨remain, body⟩ := ofLines_singleton whole
      rw [output, off, Bool.not_false, body, reconcile_ofBody] at h
      split at h
      · cases h
      · split at h
        · cases h
        · split at h
          · cases h
          · exact (Option.some.inj (Except.ok.inj h)).symm
    · cases h

theorem fixText_note_of_filters (off : w.settings.dbt.enabled = false)
    (orderly : w.machine.IsOrderly) (filters : w.machine.Filters f) {notes : List String}
    (h : ((w.note notes).fixText text path).1 = .ok (some lines)) :
    lines = fixedLines (anyLines (f text).toList) := by
  have filters' : (w.note notes).machine.Filters f := by
    unfold Machine.Filters
    rw [start_note]
    exact filters
  have off' : (w.note notes).settings.dbt.enabled = false := by rw [settings_note, off]
  exact fixText_of_filters off' (isOrderly_note orderly notes) filters' h

/-! ## Documents -/

variable {c : Config} {uri : Url} {edits : List Edit} {range : Range}

theorem of_fixDocument (h : (fixDocument c d w).1 = .ok edits) :
    edits = [] ∨ ∃ path lines,
      ((w.note ["Format triggered for " ++ path]).fixText d.text path).1 = .ok (some lines) ∧
      edits = [editOf d.fullRange lines] := by
  unfold fixDocument at h
  split at h
  · exact .inl (Except.ok.inj h).symm
  · split at h
    · split at h
      · cases h
      · next path _ =>
        unfold documentEdits at h
        cases hf : ((w.note ["Format triggered for " ++ path]).fixText d.text path).1 with
        | error e =>
          rw [hf] at h
          cases h
        | ok fixed =>
          rw [hf] at h
          cases fixed with
          | none => exact .inl (Except.ok.inj h).symm
          | some lines => exact .inr ⟨path, lines, hf, (Except.ok.inj h).symm⟩
    · cases h

/-- A tool that gives back what it reads leaves a document as it is, or takes a notice from its
beginning. -/
theorem formatDocument_echo (off : w.settings.dbt.enabled = false) (orderly : w.machine.IsOrderly)
    (echoes : w.machine.Filters id) (inMemory : w.settings.experimental.executeInTerminal = false)
    (open_ : w.documents.get? uri = some d) (noReturn : '\r' ∉ d.chars) :
    (∀ edits, (w.formatDocument uri).1 = .ok edits → edits.length ≤ 1) ∧
    ((d.formatted (w.formatDocument uri).1).text = d.text ∨
      HasNotice (anyLines d.chars) ∧
      (d.formatted (w.formatDocument uri).1).text =
        String.ofList (join ['\n'] (fixedLines (anyLines d.chars)))) := by
  rw [formatDocument_of_open open_ inMemory]
  constructor
  · intro edits h
    obtain rfl | ⟨path, lines, -, rfl⟩ := of_fixDocument h
    · exact Nat.zero_le 1
    · exact Nat.le_refl 1
  · cases h : (fixDocument w.config d w).1 with
    | error e => exact .inl rfl
    | ok edits =>
      obtain rfl | ⟨path, lines, fixed, rfl⟩ := of_fixDocument h
      · exact .inl rfl
      · have given := fixText_note_of_filters off orderly echoes fixed
        rw [show (id d.text).toList = d.chars from rfl] at given
        have text : (d.formatted (.ok [editOf d.fullRange lines])).text =
            String.ofList (join ['\n'] lines) := by
          show (d.edit ⟨d.fullRange, String.ofList (join ['\n'] lines)⟩).text = _
          exact d.text_edit_fullRange noReturn _
        rw [text, given]
        by_cases notice : HasNotice (anyLines d.chars)
        · exact .inr ⟨notice, rfl⟩
        · have whole : join ['\n'] (pieces isLineFeed d.chars) = d.chars := join_pieces_lineFeed _
          rw [fixedLines_of_not_hasNotice notice, anyLines_eq_pieces noReturn, whole]
          exact .inl String.ofList_toList

/-- A workspace with a text in the editor and a tool that makes of texts what a function does. -/
def withFilter (f : String → String) (text : String) : Workspace where
  machine := {
    start := fun _ _ _ c => .ok { exit := ⟨some 0, [Utf8.encode (f (c.input.getD ""))], []⟩ } }
  documents := [openedAs text]

theorem filters_withFilter (f : String → String) (text : String) :
    (withFilter f text).machine.Filters f := by
  rintro files vars place c b ⟨⟩
  exact List.append_nil _

theorem formatDocument_echo_plain :
    (withFilter id "select 1\n").documents.get? (openedAs "").uri = some (openedAs "select 1\n") ∧
    ((withFilter id "select 1\n").formatDocument (openedAs "").uri).1 =
      .ok [⟨⟨⟨0, 0⟩, ⟨1, 0⟩⟩, "select 1\n"⟩] ∧
    ((openedAs "select 1\n").formatted
      ((withFilter id "select 1\n").formatDocument (openedAs "").uri).1).text = "select 1\n" := by
  have open_ : (withFilter id "select 1\n").documents.get? (openedAs "").uri =
      some (openedAs "select 1\n") := by decide +kernel
  have plain : ¬ HasNotice (anyLines (openedAs "select 1\n").chars) := by decide +kernel
  have kept := (formatDocument_echo rfl Machine.isOrderly_empty (filters_withFilter id "select 1\n")
    rfl open_ (by decide +kernel)).2
  exact ⟨open_, by decide +kernel, kept.resolve_right fun lost => plain lost.1⟩

/-- A comment that reads like a notice of the tool is deleted. -/
theorem formatDocument_echo_comment :
    let text := "-- templating/parsing errors remaining\nselect 1\n"
    (withFilter id text).machine.Filters id ∧
    (withFilter id text).documents.get? (openedAs "").uri = some (openedAs text) ∧
    '\r' ∉ text.toList ∧
    (withFilter id text).settings.dbt.enabled = false ∧
    (withFilter id text).settings.experimental.executeInTerminal = false ∧
    ((openedAs text).formatted ((withFilter id text).formatDocument (openedAs "").uri).1).text =
      "select 1\n" := by
  refine ⟨filters_withFilter _ _, ?_⟩
  decide +kernel

/-! ## Selections -/

/-- A text with a line feed at its end. -/
def completed (text : String) : String :=
  if text.toList.getLast? = some '\n' then text else text ++ "\n"

theorem exists_completed (text : String) :
    ∃ body, (completed text).toList = body ++ ['\n'] ∧
      (body = text.toList ↔ text.toList.getLast? ≠ some '\n') := by
  unfold completed
  split
  · next last =>
    obtain ⟨body, whole⟩ := List.getLast?_eq_some_iff.1 last
    refine ⟨body, whole, iff_of_false ?_ (not_not_intro last)⟩
    rw [whole]
    simp
  · next last => exact ⟨text.toList, by simp, iff_of_true rfl last⟩

theorem indented_eq {indent : List Char} (keep : Bool)
    (h : indent = leadingBlank (lines.headD [])) :
    indented indent keep lines = withoutEmptyLast lines := by
  unfold indented
  split
  · next bare =>
    -- A line that is not indented has no indentation to be put back.
    have noIndent : indent = [] := by
      rw [h]
      cases lines with
      | nil => rfl
      | cons line lines =>
        cases line with
        | nil => rfl
        | cons c line =>
          have first : isBlank c = false := by simpa [isIndented] using bare.2
          simp [leadingBlank, first]
    have same : indentLines [] lines = lines := by simp [indentLines]
    rw [noIndent, same]
  · rfl

/-- The first line of a text that is cut after it. -/
theorem head?_pieces_append {line rest : List Char} (inner : '\n' ∉ line)
    (next : rest = [] ∨ rest.head? = some '\n') :
    (pieces isLineFeed (line ++ rest)).head? = some line := by
  have whole : pieces isLineFeed line = [line] := by
    refine pieces_of_none fun x hx => ?_
    simpa [isLineFeed] using fun feed : x = '\n' => inner (feed ▸ hx)
  obtain rfl | next := next
  · rw [List.append_nil, whole]
    rfl
  · obtain ⟨rest, rfl⟩ := List.head?_eq_some_iff.1 next
    rw [pieces_append_cons rfl, whole]
    rfl

theorem completed_append {line rest : List Char} (whole : text.toList = line ++ rest)
    (next : rest = [] ∨ rest.head? = some '\n') :
    ∃ rest', (completed text).toList = line ++ rest' ∧ (rest' = [] ∨ rest'.head? = some '\n') := by
  unfold completed
  split
  · exact ⟨rest, whole, next⟩
  · refine ⟨rest ++ ['\n'], by simp [whole], .inr ?_⟩
    obtain rfl | next := next
    · rfl
    · rw [List.head?_append, next]
      rfl

theorem withoutEmptyLast_concat (lines : List (List Char)) :
    withoutEmptyLast (lines ++ [[]]) = lines := by
  rw [withoutEmptyLast, if_pos List.getLast?_concat, List.dropLast_concat]

theorem not_mem_completed {c : Char} (feed : c ≠ '\n') (h : c ∉ text.toList) :
    c ∉ (completed text).toList := by
  unfold completed
  split
  · exact h
  · simpa [feed] using h

/-- What a tool that completes the lines of a selection gives back for them. -/
theorem join_indentedFor {selection : Range} {body : List Char}
    (widens : d.Widens selection range) (noReturn : '\r' ∉ d.chars)
    (unmarked : ¬ HasNotice (anyLines (d.slice range).toList))
    (hbody : (completed (d.slice range)).toList = body ++ ['\n']) :
    join ['\n'] (w.indentedFor d range
      (fixedLines (anyLines (completed (d.slice range)).toList))) = body := by
  obtain ⟨line, rest, first, inner, whole, next⟩ := widens.slice_eq noReturn
  obtain ⟨rest', whole', next'⟩ := completed_append whole next
  have returnless : '\r' ∉ (d.slice range).toList := by
    intro member
    rw [Document.slice, String.toList_ofList] at member
    exact noReturn (List.mem_of_mem_take (List.mem_of_mem_drop member))
  have cut : anyLines (completed (d.slice range)).toList =
      pieces isLineFeed (completed (d.slice range)).toList :=
    anyLines_eq_pieces (not_mem_completed (by decide) returnless)
  have head : (anyLines (completed (d.slice range)).toList).head? = some line := by
    rw [cut, whole', head?_pieces_append inner next']
  have sentHead : (anyLines (d.slice range).toList).head? = some line := by
    rw [anyLines_eq_pieces returnless, whole, head?_pieces_append inner next]
  have same : fixedLines (anyLines (completed (d.slice range)).toList) =
      anyLines (completed (d.slice range)).toList :=
    fixedLines_of_not_hasNotice fun notice =>
      unmarked ((hasNotice_of_head? (head.trans sentHead.symm)).1 notice)
  -- The line that indents the selection is the first that comes back, so nothing is put before it.
  rw [same, indentedFor, first, Option.map_some, Option.getD_some, indented_eq, cut, hbody,
    pieces_append_cons rfl]
  · show join ['\n'] (withoutEmptyLast (pieces isLineFeed body ++ [[]])) = body
    rw [withoutEmptyLast_concat, join_pieces_lineFeed]
  · rw [List.headD_eq_head?_getD, head]
    rfl

/-- A tool that adds nothing but a final line feed leaves a selection as it is if, and only if, there is
no edit or the lines that are sent do not end with an empty one. -/
theorem formatRange_completed_iff (off : w.settings.dbt.enabled = false)
    (orderly : w.machine.IsOrderly) (completes : w.machine.Filters completed)
    (open_ : w.documents.get? uri = some d) (noReturn : '\r' ∉ d.chars) (selection : Range)
    (unmarked : ¬ HasNotice (anyLines (d.slice (d.wholeLines selection)).toList)) :
    (d.formatted (w.formatRange uri selection).1).text = d.text ↔
      (∀ e, (w.formatRange uri selection).1 ≠ .ok [e]) ∨
      (d.slice (d.wholeLines selection)).toList.getLast? ≠ some '\n' := by
  rw [formatRange_of_open open_ selection]
  have widens := d.wholeLines_widens selection
  generalize d.wholeLines selection = range at *
  cases h : (fixRange w.config d range w).1 with
  | error e => exact iff_of_true rfl (.inl nofun)
  | ok edits =>
    obtain rfl | ⟨path, lines, w', -, fixed, rfl⟩ := of_fixRange h
    · exact iff_of_true rfl (.inl nofun)
    · have given := fixText_note_of_filters off orderly completes (congrArg Prod.fst fixed)
      obtain ⟨body, hbody, unfinished⟩ := exists_completed (d.slice range)
      -- The last line feed is taken off, whether it was sent or added.
      have new : join ['\n'] (w'.indentedFor d range lines) = body := by
        rw [given]
        exact join_indentedFor widens noReturn unmarked hbody
      obtain ⟨before, after, whole, -, edited⟩ := d.chars_edit range (String.ofList body)
      have same : (d.formatted (.ok [editOf range (w'.indentedFor d range lines)])).text =
          d.text ↔ body = (d.slice range).toList := by
        show (d.edit ⟨range, String.ofList (join ['\n'] (w'.indentedFor d range lines))⟩).text =
          d.text ↔ _
        rw [new, ← String.toList_inj]
        show (d.edit ⟨range, String.ofList body⟩).chars = d.chars ↔ _
        rw [edited, whole, String.toList_ofList, List.append_left_inj, List.append_right_inj]
      rw [same, unfinished]
      exact (or_iff_right fun never => never _ rfl).symm

theorem formatRange_completed_iff_indented :
    (withFilter completed "a\n  select 1\n\nb").documents.get? (openedAs "").uri =
      some (openedAs "a\n  select 1\n\nb") ∧
    ((withFilter completed "a\n  select 1\n\nb").formatRange (openedAs "").uri
      ⟨⟨1, 3⟩, ⟨2, 0⟩⟩).1 = .ok [⟨⟨⟨1, 0⟩, ⟨1, 10⟩⟩, "  select 1"⟩] ∧
    ((openedAs "a\n  select 1\n\nb").formatted
      ((withFilter completed "a\n  select 1\n\nb").formatRange (openedAs "").uri
        ⟨⟨1, 3⟩, ⟨2, 0⟩⟩).1).text = "a\n  select 1\n\nb" := by
  have open_ : (withFilter completed "a\n  select 1\n\nb").documents.get? (openedAs "").uri =
      some (openedAs "a\n  select 1\n\nb") := by decide +kernel
  have kept := formatRange_completed_iff rfl Machine.isOrderly_empty
    (filters_withFilter completed "a\n  select 1\n\nb") open_ (by decide +kernel) ⟨⟨1, 3⟩, ⟨2, 0⟩⟩
    (by decide +kernel)
  exact ⟨open_, by decide +kernel, kept.2 (.inr (by decide +kernel))⟩

/-- Of two empty lines at the end of a selection, formatting deletes one. -/
theorem formatRange_completed_emptyLines :
    let text := "select 1\n\n\nselect 2\n"
    (withFilter completed text).machine.Filters completed ∧
    (withFilter completed text).documents.get? (openedAs "").uri = some (openedAs text) ∧
    '\r' ∉ text.toList ∧
    (withFilter completed text).settings.dbt.enabled = false ∧
    ¬ HasNotice (anyLines ((openedAs text).slice
      ((openedAs text).wholeLines ⟨⟨0, 0⟩, ⟨2, 0⟩⟩)).toList) ∧
    ((openedAs text).formatted ((withFilter completed text).formatRange (openedAs "").uri
      ⟨⟨0, 0⟩, ⟨2, 0⟩⟩).1).text = "select 1\n\nselect 2\n" := by
  refine ⟨filters_withFilter _ _, ?_⟩
  decide +kernel

end Workspace

end SqlLint
