import SqlLint.Proofs.Document.Selecting
import SqlLint.Proofs.Workspace.Piping

/-!
# Formatting a selection

A selection is formatted by the whole lines it touches.  The tool is given the text of these lines, and
what it makes of them takes their place; nothing else of the document changes (`formatRange_frame`).
-/

namespace SqlLint

open Text

namespace Workspace

variable {w w' : Workspace} {uri : Url} {d : Document} {range : Range} {text path : String}
  {lines : List (List Char)} {edits : List Edit}

/-- The tool fixes a text: it is run on the text and on nothing else, and succeeds. -/
def Fixes (w : Workspace) (text path : String) (result : RunResult) : Prop :=
  ∃ after, w.invoke ⟨.fix, w.settings.fixArguments w.version, some (.buffer text (some path))⟩ =
    .ok (result, after) ∧ result.succeeded = true

theorem of_fixText (h : w.fixText text path = (.ok (some lines), w')) :
    ∃ result, w.Fixes text path result := by
  unfold fixText at h
  dsimp only at h
  split at h
  · cases (Prod.mk.inj h).1
  · next result after ran =>
    split at h
    · next success => exact ⟨result, after, ran, success⟩
    · cases (Prod.mk.inj h).1

theorem of_rangeEdits {fixed : Formatted (Option (List (List Char)))}
    (h : (rangeEdits d range fixed).1 = .ok edits) :
    edits = [] ∨ ∃ lines w', fixed = (.ok (some lines), w') ∧
      edits = [editOf range (w'.indentedFor d range lines)] := by
  obtain ⟨_ | _ | lines, w'⟩ := fixed
  · cases h
  · exact .inl (Except.ok.inj h).symm
  · exact .inr ⟨lines, w', rfl, (Except.ok.inj h).symm⟩

/-- What there is to say before the tool is run on a range. -/
theorem fixRange_cases (c : Config) (d : Document) (range : Range) (w : Workspace) :
    (((fixRange c d range w).1 = .ok [] ∨ ∃ e, (fixRange c d range w).1 = .error e) ∧
      ∃ lines, (fixRange c d range w).2 = w.note lines) ∨
    ∃ path, d.path? = some path ∧ isBlankText (d.slice range).toList = false ∧
      fixRange c d range w =
        rangeEdits d range ((w.note [rangeNotice range path]).fixText (d.slice range) path) := by
  unfold fixRange
  split
  · exact .inl ⟨.inl rfl, [], rfl⟩
  · split
    · split
      · exact .inl ⟨.inr ⟨_, rfl⟩, _, rfl⟩
      · cases d.path? with
        | none => exact .inl ⟨.inr ⟨_, rfl⟩, [], rfl⟩
        | some path =>
          dsimp only
          split
          · exact .inl ⟨.inl rfl, _, rfl⟩
          · next seen => exact .inr ⟨path, rfl, Bool.eq_false_iff.2 seen, rfl⟩
    · exact .inl ⟨.inr ⟨_, rfl⟩, _, rfl⟩

/-- An edit of a range is made of what the tool gives for the text of the range, which is not blank. -/
theorem of_fixRange {c : Config} (h : (fixRange c d range w).1 = .ok edits) :
    edits = [] ∨ ∃ path lines w', isBlankText (d.slice range).toList = false ∧
      (w.note [rangeNotice range path]).fixText (d.slice range) path = (.ok (some lines), w') ∧
      edits = [editOf range (w'.indentedFor d range lines)] := by
  obtain ⟨idle, -⟩ | ⟨path, -, seen, run⟩ := fixRange_cases c d range w
  · obtain untouched | ⟨e, failed⟩ := idle
    · rw [untouched] at h
      exact .inl (Except.ok.inj h).symm
    · rw [failed] at h
      cases h
  · rw [run] at h
    obtain unedited | ⟨lines, w', fixed, rfl⟩ := of_rangeEdits h
    · exact .inl unedited
    · exact .inr ⟨path, lines, w', seen, fixed, rfl⟩

theorem ne_empty_of_seen (seen : isBlankText text.toList = false) : text ≠ "" := by
  rintro rfl
  cases seen

/-- A selection is formatted by whole lines.  Blank ones are left alone; else the tool is given their text,
and what comes of it is put in their place, with everything around them as it was. -/
theorem formatRange_frame (open_ : w.documents.get? uri = some d) (selection : Range) :
    d.Widens selection (d.wholeLines selection) ∧
    (isBlankText (d.slice (d.wholeLines selection)).toList = true →
      ((w.formatRange uri selection).1 = .ok [] ∨ ∃ e, (w.formatRange uri selection).1 = .error e) ∧
      ∃ lines, (w.formatRange uri selection).2 = w.note lines) ∧
    ∀ edits, (w.formatRange uri selection).1 = .ok edits → edits = [] ∨
      ∃ new path result before after, edits = [⟨d.wholeLines selection, new⟩] ∧
        (w.note [rangeNotice (d.wholeLines selection) path]).Fixes
          (d.slice (d.wholeLines selection)) path result ∧
        (w.settings.dbt.enabled = false → ∀ c, w.Asks (·.formatRange uri selection) c →
          c.Pipes w.config (d.slice (d.wholeLines selection))) ∧
        d.chars = before ++ (d.slice (d.wholeLines selection)).toList ++ after ∧
        before.length = d.offsetAt (d.wholeLines selection).start ∧
        (d.formatted (.ok edits)).chars = before ++ new.toList ++ after := by
  have same := formatRange_of_open open_ selection
  refine ⟨d.wholeLines_widens selection, ?_, ?_⟩
  · intro blank
    rw [same]
    obtain idle | ⟨path, -, seen, -⟩ := fixRange_cases w.config d (d.wholeLines selection) w
    · exact idle
    · rw [blank] at seen
      cases seen
  · intro edits h
    rw [same] at h
    obtain unedited | ⟨path, lines, w', seen, fixed, rfl⟩ := of_fixRange h
    · exact .inl unedited
    · obtain ⟨result, fixes⟩ := of_fixText fixed
      let new := join ['\n'] (w'.indentedFor d (d.wholeLines selection) lines)
      obtain ⟨before, after, whole, start, edited⟩ :=
        d.chars_edit (d.wholeLines selection) (String.ofList new)
      refine .inr ⟨String.ofList new, path, result, before, after, rfl, fixes, ?_, whole, start,
        edited⟩
      intro off c asks
      obtain ⟨path', on⟩ := (asksOnly_formatRange off open_ selection).of_asks asks
      exact (pipes_iff_of_isOn on).2 (ne_empty_of_seen seen)

theorem formatRange_frame_blankLast :
    (withFixer "select 1\n \n;").documents.get? (openedAs "").uri =
      some (openedAs "select 1\n \n;") ∧
    ∃ new path result before after,
      ((withFixer "select 1\n \n;").formatRange (openedAs "").uri ⟨⟨0, 3⟩, ⟨1, 1⟩⟩).1 =
        .ok [⟨⟨⟨0, 0⟩, ⟨0, 8⟩⟩, new⟩] ∧
      ((withFixer "select 1\n \n;").note [rangeNotice ⟨⟨0, 0⟩, ⟨0, 8⟩⟩ path]).Fixes "select 1" path
        result ∧
      "select 1\n \n;".toList = before ++ "select 1".toList ++ after ∧
      ((openedAs "select 1\n \n;").formatted (.ok [⟨⟨⟨0, 0⟩, ⟨0, 8⟩⟩, new⟩])).chars =
        before ++ new.toList ++ after := by
  have open_ : (withFixer "select 1\n \n;").documents.get? (openedAs "").uri =
      some (openedAs "select 1\n \n;") := by decide +kernel
  have lines : (openedAs "select 1\n \n;").wholeLines ⟨⟨0, 3⟩, ⟨1, 1⟩⟩ = ⟨⟨0, 0⟩, ⟨0, 8⟩⟩ := by
    decide +kernel
  have text : (openedAs "select 1\n \n;").slice ⟨⟨0, 0⟩, ⟨0, 8⟩⟩ = "select 1" := by decide +kernel
  have edit : ((withFixer "select 1\n \n;").formatRange (openedAs "").uri ⟨⟨0, 3⟩, ⟨1, 1⟩⟩).1 =
      .ok [⟨⟨⟨0, 0⟩, ⟨0, 8⟩⟩, "select 1"⟩] := by decide +kernel
  obtain untouched | fixedOnce := (formatRange_frame open_ ⟨⟨0, 3⟩, ⟨1, 1⟩⟩).2.2 _ edit
  · cases untouched
  · obtain ⟨new, path, result, before, after, one, fixes, -, whole, -, edited⟩ := fixedOnce
    rw [lines] at one fixes whole
    rw [text] at fixes whole
    rw [one] at edit edited
    exact ⟨open_, new, path, result, before, after, edit, fixes, whole, edited⟩

end Workspace

end SqlLint
