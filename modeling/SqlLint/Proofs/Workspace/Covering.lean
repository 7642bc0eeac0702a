import SqlLint.Proofs.Document.Selecting
import SqlLint.Proofs.Document.Sync
import SqlLint.Proofs.Workspace.Formatting

/-!
# Edits of whole documents

The range of a whole document leaves out the carriage returns that the text ends in, so these are not
in its slice and stay behind whatever takes its place.  Formatting a document replaces this range.  It
leaves the new text and nothing else if, and only if, there is no such carriage return
(`covers_fullRange_iff`).
-/

namespace SqlLint

open Text

variable {w : Workspace} {uri : Url} {d : Document}

namespace Workspace

theorem range_of_mem_edits {fixed : Except FormatError (Option (List (List Char)))} {range : Range}
    {edits : List Edit} {e : Edit}
    (h : (fixed.map fun lines => lines.toList.map (editOf range)) = .ok edits) (he : e ∈ edits) :
    e.range = range := by
  cases fixed with
  | error _ => cases h
  | ok lines =>
    cases h
    obtain ⟨ls, -, rfl⟩ := List.mem_map.1 he
    rfl

/-- Formatting a document replaces the whole of it. -/
theorem range_of_formatDocument {edits : List Edit} {e : Edit} (open_ : w.documents.get? uri = some d)
    (formatted : (w.formatDocument uri).1 = .ok edits) (he : e ∈ edits) : e.range = d.fullRange := by
  unfold formatDocument at formatted
  rw [formattable_of_open open_] at formatted
  by_cases placeholder : w.config.hasOpenPlaceholder = true
  · rw [if_pos placeholder] at formatted
    cases formatted
    cases he
  · by_cases enabled : w.config.settings.format.enabled = true
    · rw [if_neg placeholder, if_pos enabled] at formatted
      dsimp only at formatted
      split at formatted
      · cases formatted
      · exact range_of_mem_edits formatted he
    · rw [if_neg placeholder, if_neg enabled] at formatted
      cases formatted

end Workspace

namespace Document

theorem slice_fullRange_eq_iff (d : Document) :
    d.slice d.fullRange = d.text ↔ d.chars.getLast? ≠ some '\r' := by
  have whole : d.slice d.fullRange = String.ofList (d.chars.rdropWhile (· = '\r')) :=
    congrArg String.ofList (slice_fullRange d.chars)
  rw [whole, ← rdropWhile_return_eq_iff, ← String.toList_inj, String.toList_ofList]
  rfl

theorem text_edit_fullRange_eq_iff (d : Document) (new : String) :
    (d.edit ⟨d.fullRange, new⟩).text = new ↔ d.chars.getLast? ≠ some '\r' := by
  rw [text_edit_fullRange_append, ← rtakeWhile_return_eq_nil_iff, ← String.toList_inj,
    String.toList_append, String.toList_ofList, List.append_right_eq_self]

/-- The range of the whole holds the whole text, and an edit of it, such as formatting makes, leaves
nothing but the new text, if and only if the text does not end in a carriage return. -/
theorem covers_fullRange_iff (d : Document) :
    (d.slice d.fullRange = d.text ↔ d.chars.getLast? ≠ some '\r') ∧
    (∀ new, (d.edit ⟨d.fullRange, new⟩).text = new ↔ d.chars.getLast? ≠ some '\r') ∧
    ∀ (w : Workspace) (uri : Url) (edits : List Edit), w.documents.get? uri = some d →
      (w.formatDocument uri).1 = .ok edits →
        ∀ e ∈ edits, (d.edit e).text = e.text ↔ d.chars.getLast? ≠ some '\r' := by
  refine ⟨d.slice_fullRange_eq_iff, d.text_edit_fullRange_eq_iff, ?_⟩
  rintro w uri edits open_ formatted ⟨range, new⟩ he
  obtain rfl : range = d.fullRange := Workspace.range_of_formatDocument open_ formatted he
  exact d.text_edit_fullRange_eq_iff new

/-- Of a text that ends in a carriage return, the carriage return is left. -/
theorem not_covers_fullRange :
    (openedAs "a\r").slice (openedAs "a\r").fullRange = "a" ∧
    ((openedAs "a\r").edit ⟨(openedAs "a\r").fullRange, "b"⟩).text = "b\r" := by
  decide +kernel

end Document

end SqlLint
