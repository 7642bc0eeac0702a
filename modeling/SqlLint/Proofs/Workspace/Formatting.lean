import SqlLint.Proofs.Workspace.Given
import SqlLint.Workspace.Format

/-!
# Formatting an open document

What formatting comes to for a document that is open.  There are some reasons to give up, which only
the settings, the path and the selection decide; otherwise the tool is run once, on one text.
-/

namespace SqlLint

open Text

/-- The document after its edits, which are none if there is a reason not to format it. -/
def Document.formatted (d : Document) (edits : Except FormatError (List Edit)) : Document :=
  match edits with
  | .ok edits => edits.foldl Document.edit d
  | .error _ => d

namespace Workspace

theorem config_note (w : Workspace) (lines : List String) : (w.note lines).config = w.config :=
  congrArg Prod.fst (given_note w lines)

/-- The edits of a document for the lines that the tool gives. -/
def documentEdits (d : Document) (fixed : Formatted (Option (List (List Char)))) :
    Formatted (List Edit) :=
  (fixed.1.map fun lines => lines.toList.map (editOf d.fullRange), fixed.2)

/-- The edits of some lines of a document for the lines that the tool gives. -/
def rangeEdits (d : Document) (range : Range) (fixed : Formatted (Option (List (List Char)))) :
    Formatted (List Edit) :=
  (fixed.1.map fun lines =>
    lines.toList.map fun ls => editOf range (fixed.2.indentedFor d range ls), fixed.2)

/-- An open document is formatted, with its text on the way through the tool. -/
def fixDocument (c : Config) (d : Document) (w : Workspace) : Formatted (List Edit) :=
  if c.hasOpenPlaceholder then (.ok [], w)
  else if c.settings.format.enabled then
    match d.path? with
    | none => (.error .noPath, w)
    | some path => documentEdits d ((w.note ["Format triggered for " ++ path]).fixText d.text path)
  else (.error .disabled, w.note [FormatError.disabled.message])

/-- A range of an open document is formatted. -/
def fixRange (c : Config) (d : Document) (range : Range) (w : Workspace) : Formatted (List Edit) :=
  if c.hasOpenPlaceholder then (.ok [], w)
  else if c.settings.format.enabled then
    if c.settings.experimental.executeInTerminal then
      (.error .rangeOnDisk, w.note [FormatError.rangeOnDisk.message])
    else match d.path? with
      | none => (.error .noPath, w)
      | some path =>
        if isBlankText (d.slice range).toList then (.ok [], w.note [rangeNotice range path])
        else rangeEdits d range ((w.note [rangeNotice range path]).fixText (d.slice range) path)
  else (.error .disabled, w.note [FormatError.disabled.message])

variable {w : Workspace} {uri : Url} {d : Document}

theorem formattable_of_open (open_ : w.documents.get? uri = some d) :
    w.formattable uri =
      if w.config.hasOpenPlaceholder then (.ok none, w)
      else if w.config.settings.format.enabled then (.ok (some d), w)
      else (.error .disabled, w.note [FormatError.disabled.message]) := by
  unfold formattable settings
  rw [open_]
  cases w.config.settings.format.enabled <;> rfl

theorem formatDocument_of_open (open_ : w.documents.get? uri = some d)
    (inMemory : w.settings.experimental.executeInTerminal = false) :
    w.formatDocument uri = fixDocument w.config d w := by
  unfold formatDocument fixDocument
  rw [formattable_of_open open_]
  by_cases placeholder : w.config.hasOpenPlaceholder = true
  · simp only [if_pos placeholder]
  · by_cases enabled : w.config.settings.format.enabled = true
    · simp only [if_neg placeholder, if_pos enabled]
      cases d.path? with
      | none => rfl
      | some path =>
        dsimp only
        rw [settings_note, inMemory]
        rfl
    · simp only [if_neg placeholder, if_neg enabled]

theorem formatRange_of_open (open_ : w.documents.get? uri = some d) (selection : Range) :
    w.formatRange uri selection = fixRange w.config d (d.wholeLines selection) w := by
  unfold formatRange fixRange
  rw [formattable_of_open open_]
  by_cases placeholder : w.config.hasOpenPlaceholder = true
  · simp only [if_pos placeholder]
  · by_cases enabled : w.config.settings.format.enabled = true
    · simp only [if_neg placeholder, if_pos enabled]
      rfl
    · simp only [if_neg placeholder, if_neg enabled]

end Workspace

end SqlLint
