import SqlLint.Proofs.Text.AnyLines
import SqlLint.Proofs.Text.Utf8
import SqlLint.Proofs.Workspace.Given
import SqlLint.Workspace.Format

/-!
# What formatting makes of the output of a fix

A document is formatted with what the tool writes on its standard output.  `formatDocument_eq` says
which edit comes of which bytes: the lines of their text without the notices before them, joined by
line feeds, and nothing else.
-/

namespace SqlLint

open Text

/-! ## The first line -/

/-- The first line begins with a text. -/
def FirstBegins (text : String) (lines : List (List Char)) : Prop :=
  ∃ line, lines.head? = some line ∧ text.toList <+: line

/-- The first line holds a text. -/
def FirstMentions (text : String) (lines : List (List Char)) : Prop :=
  ∃ line, lines.head? = some line ∧ text.toList <:+: line

theorem any_begins_iff {text : String} {lines : List (List Char)} :
    lines.head?.any (FixOutput.begins text) = true ↔ FirstBegins text lines := by
  simp [FirstBegins, Option.any_eq_true, FixOutput.begins, List.isPrefixOf_iff_prefix]

theorem any_mentions_iff {text : String} {lines : List (List Char)} :
    lines.head?.any (FixOutput.mentions text) = true ↔ FirstMentions text lines := by
  simp [FirstMentions, Option.any_eq_true, FixOutput.mentions, isSome_cutAt_iff]

instance (text : String) (lines : List (List Char)) : Decidable (FirstBegins text lines) :=
  decidable_of_iff _ any_begins_iff

instance (text : String) (lines : List (List Char)) : Decidable (FirstMentions text lines) :=
  decidable_of_iff _ any_mentions_iff

/-- The lines without the safety notice, which is at most two lines long. -/
def withoutSafety (lines : List (List Char)) : List (List Char) :=
  if FirstBegins "NO SAFETY:" lines then lines.drop 2 else lines

/-- The lines without the notice that errors remain. -/
def withoutRemaining (lines : List (List Char)) : List (List Char) :=
  if FirstMentions "templating/parsing errors remaining" lines then lines.drop 1 else lines

/-- The lines that a fix wrote besides its notices. -/
def fixedLines (lines : List (List Char)) : List (List Char) :=
  withoutRemaining (withoutSafety lines)

theorem fixedLines_suffix (lines : List (List Char)) : fixedLines lines <:+ lines := by
  have remaining (lines : List (List Char)) : withoutRemaining lines <:+ lines := by
    unfold withoutRemaining
    split
    · exact List.drop_suffix 1 lines
    · exact List.suffix_rfl
  refine (remaining _).trans ?_
  unfold withoutSafety
  split
  · exact List.drop_suffix 2 lines
  · exact List.suffix_rfl

theorem ofLines_singleton {output : String} {lines : List (List Char)}
    (h : LinesOf output.toList lines) :
    ∃ remain, FixOutput.ofLines [output] true = .ofBody (fixedLines lines) remain := by
  have one : joinStrings "\n" [output] = output := by simp [joinStrings]
  have safety (lines : List (List Char)) :
      FixOutput.afterSafetyNotice lines = withoutSafety lines := by
    simp only [FixOutput.afterSafetyNotice, FixOutput.safetyNotice, any_begins_iff, withoutSafety]
  refine ⟨FixOutput.saysErrorsRemain (withoutSafety lines), ?_⟩
  simp only [FixOutput.ofLines, one, linesOf_iff.1 h, if_true, safety]
  simp only [FixOutput.saysErrorsRemain, any_mentions_iff, fixedLines, withoutRemaining]

/-! ## The edit -/

namespace Workspace

theorem reconcile_ofBody (w : Workspace) (lines : List (List Char)) (remain : Bool) :
    (w.reconcile (.ofBody lines remain)).1 =
      if FirstMentions "ENOENT" lines then .ok none
      else if FirstMentions "templating/parsing errors found" lines then .error .templatingErrors
      else if ∀ line ∈ lines, line = [] then .ok none
      else .ok (some lines) := by
  have blank : lines.all (· = []) = true ↔ ∀ line ∈ lines, line = [] := by simp
  simp only [FixOutput.ofBody, any_mentions_iff]
  split
  · rfl
  · split
    · rfl
    · simp only [reconcile, blank]
      split
      · rfl
      · split <;> rfl

/-- The command that fixes a document runs, and ends in some way. -/
def FixEnds (w : Workspace) (d : Document) (path : String) (e : Exit) : Prop :=
  ∃ r w' machine,
    w.begin ⟨.fix, w.settings.fixArguments w.version, some (.buffer d.text (some path))⟩ =
      .ok (.running r, w') ∧
    (w'.machine.kill r.process).collect? r.process = some (e, machine)

theorem fixText_of_fixEnds {w : Workspace} {d : Document} {path : String} {e : Exit}
    (ends : w.FixEnds d path e) {code : Int} (hcode : e.code = some code)
    (success : isSuccess code = true) :
    ∃ w' : Workspace, w.fixText d.text path =
      w'.reconcile (.ofLines [String.ofList (Utf8.lossy e.output.flatten)] true) := by
  obtain ⟨r, w', machine, begun, collected⟩ := ends
  obtain ⟨kind, off⟩ := of_begin_running begun
  have invoked : w.invoke ⟨.fix, w.settings.fixArguments w.version,
      some (.buffer d.text (some path))⟩ = .ok ({ w' with machine }.finish r e) := by
    simp only [invoke, begun, bind, Except.bind, await, collected]
    rfl
  have result : ({ w' with machine }.finish r e).1 =
      ⟨true, [String.ofList (Utf8.lossy e.output.flatten)]⟩ := by
    simp only [finish, hcode, success, kind, outputLines, Utf8.drain_start]
  -- Only the result of the run counts from here on, not what else it did to the workspace.
  generalize { w' with machine }.finish r e = finished at invoked result
  obtain ⟨answer, after⟩ := finished
  obtain rfl : answer = _ := result
  refine ⟨after, ?_⟩
  simp only [fixText, invoked, off]
  rfl

/-- What formatting an open document gives when the fix succeeds: the lines that it wrote besides its
notices, however its bytes arrive. -/
theorem formatDocument_eq {w : Workspace} {uri : Url} {d : Document} {path : String} {e : Exit}
    {code : Int} {text : List Char} {lines : List (List Char)}
    (ready : w.config.hasOpenPlaceholder = false) (enabled : w.settings.format.enabled = true)
    (open_ : w.documents.get? uri = some d) (hpath : d.path? = some path)
    (inMemory : w.settings.experimental.executeInTerminal = false)
    (ends : (w.note ["Format triggered for " ++ path]).FixEnds d path e)
    (hcode : e.code = some code) (success : isSuccess code = true)
    (decoded : Utf8.Decodes e.output.flatten text) (hlines : LinesOf text lines) :
    (w.formatDocument uri).1 =
      (if FirstMentions "ENOENT" (fixedLines lines) then .ok []
      else if FirstMentions "templating/parsing errors found" (fixedLines lines) then
        .error .templatingErrors
      else if ∀ line ∈ fixedLines lines, line = [] then .ok []
      else .ok [⟨d.fullRange, String.ofList (join ['\n'] (fixedLines lines))⟩]) ∧
    fixedLines lines <:+ lines ∧
    (fixedLines lines ≠ [] → LinesOf (join ['\n'] (fixedLines lines)) (fixedLines lines)) := by
  refine ⟨?_, fixedLines_suffix lines, ?_⟩
  · obtain ⟨w', fixed⟩ := fixText_of_fixEnds ends hcode success
    rw [← Utf8.decodes_iff.1 decoded] at fixed
    have whole : LinesOf (String.ofList text).toList lines := by rwa [String.toList_ofList]
    obtain ⟨remain, body⟩ := ofLines_singleton whole
    rw [body] at fixed
    have settings := settings_note w ["Format triggered for " ++ path]
    have formattable : w.formattable uri = (.ok (some d), w) := by
      simp [Workspace.formattable, ready, enabled, open_]
    simp only [formatDocument, formattable, hpath, settings, inMemory, Bool.false_and,
      Bool.false_eq_true, if_false, fixed, reconcile_ofBody]
    split
    · rfl
    · split
      · rfl
      · split <;> rfl
  · intro nonempty
    refine linesOf_join (fun line hline => ?_) nonempty
    exact hlines.unended line ((fixedLines_suffix lines).subset hline)

/-- A document with one line too wide. -/
def wide : Document :=
  ⟨⟨"file", some {}, "/w/a.sql", none, none⟩, "sql", 1, "select  'ä'\n", false⟩

/-- What the tool writes to fix it: a safety notice and the text, cut within a character. -/
def chunks : List UInt8 × List UInt8 :=
  (Utf8.encode "NO SAFETY: on\r\nnone\rselect 'ä'\n").splitAt 29

/-- A workspace with the document open, where the tool writes this. -/
def withWide : Workspace where
  machine := { start := fun _ _ _ _ => .ok { exit := ⟨some 1, [chunks.1, chunks.2], []⟩ } }
  documents := [wide]

theorem formatDocument_eq_cutCharacter :
    (withWide.formatDocument wide.uri).1 = .ok [⟨⟨⟨0, 0⟩, ⟨1, 0⟩⟩, "select 'ä'\n"⟩] := by
  have ready : withWide.config.hasOpenPlaceholder = false := by decide +kernel
  have open_ : withWide.documents.get? wide.uri = some wide := by decide +kernel
  have hpath : wide.path? = some "/w/a.sql" := by decide +kernel
  have ends : (withWide.note ["Format triggered for " ++ "/w/a.sql"]).FixEnds wide "/w/a.sql"
      ⟨some 1, [chunks.1, chunks.2], []⟩ := ⟨_, _, _, rfl, rfl⟩
  have text : Utf8.Decodes [chunks.1, chunks.2].flatten
      "NO SAFETY: on\r\nnone\rselect 'ä'\n".toList := Utf8.decodes_iff.2 (by decide +kernel)
  have lines : LinesOf "NO SAFETY: on\r\nnone\rselect 'ä'\n".toList
      ["NO SAFETY: on".toList, "none".toList, "select 'ä'".toList, []] :=
    linesOf_iff.2 (by decide +kernel)
  have result := (formatDocument_eq ready rfl open_ hpath rfl ends rfl rfl text lines).1
  refine result.trans ?_
  decide +kernel

end Workspace

end SqlLint
