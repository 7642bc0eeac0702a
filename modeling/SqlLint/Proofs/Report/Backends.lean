import SqlLint.Proofs.Document.Sync
import SqlLint.Proofs.Json.Printing
import SqlLint.Proofs.Json.Settling
import SqlLint.Proofs.Lint.Outcome
import SqlLint.Proofs.Path.Components
import SqlLint.Proofs.Report.Grouping
import SqlLint.Proofs.Text.LineStream
import SqlLint.Proofs.Workspace.Ending

/-!
# The dbt server and the tool find the same

The violations that the dbt server finds become a report on the file of the target, which is written
and read again; those that the tool finds in its standard input come as bytes and are reported under
the name of that input.  Either way the report is one on the target alone, and its diagnostics
depend on the violations only (`backends_agree`).
-/

namespace SqlLint

open Text

/-! ## Violations -/

/-- The violation that a value denotes. -/
def Violation.ofValue? (v : Json) : Option Violation := Violation.ofDraft? v.draft

/-- The drafts are those of the values, and none of them gives a key twice. -/
def Draft.Spell (ds : List Draft) (vs : List Json) : Prop :=
  (∃ depth, Draft.settleItems? depth ds = some vs) ∧ ∀ d ∈ ds, d.GivesOnce

theorem Violation.ofDraft?_eq {depth : Nat} {d : Draft} {v : Json}
    (h : d.settleAt? depth = some v) (once : d.GivesOnce) :
    Violation.ofDraft? d = Violation.ofValue? v := by
  have alike := Draft.isAlike_record? h once Violation.fieldNames
  unfold ofValue? ofDraft?
  generalize d.record? fieldNames = here, v.draft.record? fieldNames = there at alike ⊢
  cases alike with
  | none => rfl
  | some same =>
    have texts := same.defaulted_eq Draft.isFlat_text?
    have numbers := same.optional_eq Draft.isFlat_int64?
    simp only [Option.bind_eq_bind, Option.bind_some, texts, numbers]

theorem mapM_ofDraft?_eq {ds : List Draft} {vs : List Json} (h : Draft.Spell ds vs) :
    ds.mapM Violation.ofDraft? = vs.mapM Violation.ofValue? := by
  obtain ⟨⟨depth, settled⟩, once⟩ := h
  have each := Draft.forall₂_of_settleItems? settled
  clear settled
  induction each with
  | nil => rfl
  | cons here _ ih =>
    obtain ⟨first, later⟩ := List.forall_mem_cons.1 once
    rw [List.mapM_cons, List.mapM_cons, Violation.ofDraft?_eq here first, ih later]

theorem mapM_draftItems (vs : List Json) :
    (Json.draftItems vs).mapM Violation.ofDraft? = vs.mapM Violation.ofValue? := by
  rw [Json.draftItems_eq, List.mapM_map]
  rfl

/-! ## Lines with one report -/

/-- A report on a file, as it is read. -/
def reportDraft (path : String) (violations : List Draft) : Draft :=
  .arr [.obj [(some "filepath", .str (some path)), (some "violations", .arr violations)]]

theorem FileReport.ofDraft?_named (path : String) (violations : List Draft) :
    FileReport.ofDraft? (.obj [(some "filepath", .str (some path)),
        (some "violations", .arr violations)]) =
      (violations.mapM Violation.ofDraft?).map (FileReport.mk path) := by
  have record : Draft.record? ["filepath", "violations"] (.obj [
      (some "filepath", .str (some path)), (some "violations", .arr violations)]) =
      some ⟨true, [("filepath", .str (some path)), ("violations", .arr violations)]⟩ := rfl
  rw [ofDraft?, record]
  show (violations.mapM Violation.ofDraft?).bind _ = _
  cases violations.mapM Violation.ofDraft? <;> rfl

/-- A line with one report holds that report, if all violations in it are valid. -/
theorem reportsOf_reportDraft {line path : String} {violations : List Draft}
    (h : Draft.stream? line = some [reportDraft path violations]) :
    reportsOf [line] = ((violations.mapM Violation.ofDraft?).map (FileReport.mk path)).toList := by
  have batch : Draft.list? FileReport.ofDraft? (reportDraft path violations) =
      (violations.mapM Violation.ofDraft?).map fun found => [FileReport.mk path found] := by
    rw [reportDraft, Draft.list?, List.mapM_cons, FileReport.ofDraft?_named]
    cases violations.mapM Violation.ofDraft? <;> rfl
  have read : ReportLine.read? line =
      (violations.mapM Violation.ofDraft?).map fun found => [FileReport.mk path found] := by
    rw [ReportLine.read?, h]
    show Option.bind (List.mapM (Draft.list? FileReport.ofDraft?) [_]) _ = _
    rw [List.mapM_cons, batch]
    cases violations.mapM Violation.ofDraft? <;> rfl
  rw [reportsOf, List.flatMap_singleton, ReportLine.parse, read]
  cases violations.mapM Violation.ofDraft? with
  | none => rfl
  | some found =>
    have other : ¬ ([FileReport.mk path found] = [] ∧ isBlankText line.toList = true) :=
      fun h => List.cons_ne_nil _ _ h.1
    show (if _ then ReportLine.empty else _).toList = _
    rw [if_neg other]
    rfl

/-- What is shown of the diagnostics of a file, however its path is spelled. -/
def FileDiagnostics.shown (f : FileDiagnostics) : Bool × List Diagnostic :=
  (f.isTarget, f.diagnostics)

namespace LintTarget

variable {t : LintTarget}

theorem resolve_stdin (t : LintTarget) : t.resolve "stdin" = t.path := if_pos (.inl rfl)

/-- The path of the target is that of the target with slashes in place of backslashes. -/
theorem same_resolve_forwardSlashes (absolute : Path.isAbsolute t.path = true) :
    Path.same (t.resolve (Path.forwardSlashes t.path)) t.path = true := by
  have rooted := Path.isAbsolute_forwardSlashes absolute
  have stays : t.resolve (Path.forwardSlashes t.path) = Path.forwardSlashes t.path := by
    have named : ¬ (Path.forwardSlashes t.path = "stdin" ∨
        (Path.forwardSlashes t.path).isEmpty = true) := by
      rintro (name | empty)
      · rw [name] at rooted
        revert rooted
        decide
      · rw [String.isEmpty_iff.1 empty] at rooted
        revert rooted
        decide
    rw [resolve, if_neg named, Path.forwardSlashes_forwardSlashes]
    cases t.workingDirectory with
    | none => rfl
    | some dir => exact if_pos rooted
  rw [stays, Path.same_iff, Path.key, Path.forwardSlashes_forwardSlashes]
  rfl

/-- The diagnostics in a line with one report, when it is on the target. -/
theorem shown_reportDraft {line path : String} {violations : List Draft} (s : Settings)
    (h : Draft.stream? line = some [reportDraft path violations])
    (own : Path.same (t.resolve path) t.path = true) :
    (fileDiagnostics [line] t s).map FileDiagnostics.shown =
      ((violations.mapM Violation.ofDraft?).map fun found =>
        (true, found.map (·.diagnostic t.document s))).toList := by
  rw [fileDiagnostics, reportsOf_reportDraft h]
  cases violations.mapM Violation.ofDraft? with
  | none => rfl
  | some found =>
    show [(t.ofReport s ⟨path, found⟩).shown] = _
    rw [ofReport, own]
    rfl

end LintTarget

/-! ## The output of the tool -/

/-- A command wrote one line, with nothing but ends of lines after it. -/
def Exit.Writes (e : Exit) (line : String) : Prop :=
  (∀ c ∈ line.toList, isTerminator c = false) ∧
    ∃ ending : String, (∀ c ∈ ending.toList, isTerminator c = true) ∧
      e.output.flatten = Utf8.encode (line ++ ending)

theorem Exit.Writes.linesOf_eq {e : Exit} {line : String} (h : e.Writes line)
    (filled : line ≠ "") : (LineStream.linesOf e.output).map String.ofList = [line] := by
  obtain ⟨unended, ending, ends, bytes⟩ := h
  have nonempty : line.toList ≠ [] := fun empty => filled (String.toList_eq_nil_iff.1 empty)
  rw [LineStream.linesOf_eq, bytes, Utf8.encode_eq, Utf8.lossy_flatMap, String.toList_append,
    LineStream.wholeLines_single nonempty unended ends, List.map_singleton, String.ofList_toList]

/-! ## The answer of the dbt server -/

namespace Remote

/-- The server says that it is well, and it answers a request for a lint with a text, both in time. -/
def Answers (m : Machine) (s : DbtSettings) (request : RemoteRequest) (text : String) : Prop :=
  ∃ serve wellness healthUrl status bytes lintUrl,
    m.serve = some serve ∧ Url.parse? (s.address ++ "/health") = some healthUrl ∧
    (serve ⟨"GET", target healthUrl, ""⟩).arrived? healthTimeout = some (200, wellness) ∧
    s.url? "lint" request = some lintUrl ∧
    (serve ⟨"POST", target lintUrl, request.sql.getD ""⟩).arrived? s.timeout.toNat =
      some (status, bytes) ∧
    Utf8.lossyString bytes = text

variable {m : Machine} {s : DbtSettings} {request : RemoteRequest} {text : String} {d : Draft}
  {vs : List Json}

theorem readAnswer?_result (h : Draft.parse? text = some (.obj [(some "result", d)]))
    (settled : d.settleAt? (Draft.maxDepth - 1) = some (.arr vs)) :
    readAnswer? "result" (Draft.settleAt? (Draft.maxDepth - 1)) text =
      some (some (.arr vs), none) := by
  have record : Draft.record? ["result", "error"] (.obj [(some "result", d)]) =
      some ⟨true, [("result", d)]⟩ := rfl
  have found : d.nullable? (Draft.settleAt? (Draft.maxDepth - 1)) = some (some (.arr vs)) := by
    have present : d ≠ .null := by
      rintro rfl
      cases settled
    rw [Draft.nullable?_of_ne_null _ present, settled]
    rfl
  have result : Record.defaulted ⟨true, [("result", d)]⟩ "result"
      (Draft.nullable? (Draft.settleAt? (Draft.maxDepth - 1))) none = some (some (.arr vs)) := found
  have error : Record.defaulted ⟨true, [("result", d)]⟩ "error"
      (Draft.nullable? RemoteError.ofDraft?) none = some none := rfl
  simp only [readAnswer?, h, Option.bind_eq_bind, Option.bind_some, record, result, error]
  rfl

theorem send_of_serve {serve : HttpRequest → HttpReply} (h : m.serve = some serve) (timeout : Nat)
    (request : HttpRequest) :
    m.send timeout request =
      ((serve request).arrived? timeout, { m with requests := m.requests ++ [request] }) := by
  rw [Machine.send, h]

/-- The violations in the answer are what a lint finds. -/
theorem lint_of_answers (answers : Answers m s request text)
    (h : Draft.parse? text = some (.obj [(some "result", d)]))
    (settled : d.settleAt? (Draft.maxDepth - 1) = some (.arr vs)) :
    (lint m s request).1 = .ok (.arr vs) := by
  obtain ⟨serve, wellness, healthUrl, status, bytes, lintUrl, serves, healthAt, well, lintAt,
    arrived, rfl⟩ := answers
  have asked : health m s =
      (true, { m with requests := m.requests ++ [⟨"GET", target healthUrl, ""⟩] }) := by
    rw [health, healthAt]
    dsimp only
    rw [send_of_serve serves, well]
    rfl
  have isWell : (health m s).1 = true := by rw [asked]
  have posted : (post (health m s).2 s lintUrl request.sql).1 =
      some (Utf8.lossyString bytes) := by
    have stays : (health m s).2.serve = some serve := by
      rw [asked]
      exact serves
    rw [post, send_of_serve stays, arrived]
    rfl
  have result : (call m s "lint" request
      (readAnswer? "result" (Draft.settleAt? (Draft.maxDepth - 1)))).1 = .ok (some (.arr vs)) := by
    rw [call]
    dsimp only
    rw [isWell, lintAt, if_neg (by decide)]
    dsimp only
    rw [posted, Option.bind_some, readAnswer?_result h settled]
    rfl
  rw [lint]
  dsimp only
  rw [result]
  rfl

end Remote

namespace Workspace

variable {w : Workspace} {t : Target} {text : String} {d : Draft} {vs : List Json}

theorem remoteOutcome_of_answers
    (answers : Remote.Answers w.machine w.settings.dbt (remoteRequest w.config t) text)
    (h : Draft.parse? text = some (.obj [(some "result", d)]))
    (settled : d.settleAt? (Draft.maxDepth - 1) = some (.arr vs)) :
    w.remoteOutcome w.config t = .answered (t.path?.map Path.forwardSlashes) (.arr vs) := by
  unfold remoteOutcome
  dsimp only
  obtain ⟨files, noted⟩ :=
    w.machine_note (remoteAnnouncement w.config .lint (remoteRequest w.config t))
  have still : Remote.Answers { w.machine with files } w.settings.dbt
      (remoteRequest w.config t) text := answers
  have found : (Remote.lint { w.machine with files } w.config.settings.dbt
      (remoteRequest w.config t)).1 = .ok (.arr vs) := Remote.lint_of_answers still h settled
  rw [noted, found]
  rfl

end Workspace

/-! ## Both at once -/

/-- What a lint works on: an empty text stands for its file. -/
def LintJob.target (j : LintJob) (path : String) : Target :=
  match j.source with
  | .buffer => if j.document.text.isEmpty then .file path else .buffer j.document.text (some path)
  | .file => .file path

theorem LintJob.validate_invocation (j : LintJob) (s : Settings) (path : String) :
    (j.invocation s path).validate = .ok (j.target path) := by
  unfold invocation target
  cases j.source with
  | file => rfl
  | buffer =>
    show (if _ then _ else _) = _
    dsimp only
    split <;> rfl

theorem LintJob.path?_target (j : LintJob) (path : String) :
    (j.target path).path? = some path := by
  unfold target
  cases j.source with
  | file => rfl
  | buffer =>
    dsimp only
    split <;> rfl

theorem draft_remoteReport (path : String) (vs : List Json) :
    (Workspace.remoteReport (some path) (.arr vs)).draft =
      reportDraft path (Json.draftItems vs) := rfl

theorem numbers_remoteReport (path : String) (vs : List Json) :
    (Workspace.remoteReport (some path) (.arr vs)).numbers = numbersOfItems vs := by
  show ([] ++ (numbersOfItems vs ++ [])) ++ [] = _
  rw [List.nil_append, List.append_nil, List.append_nil]

namespace LintTicket

variable {t : LintTicket} {w : Workspace} {text : String} {d : Draft} {vs : List Json}

/-- The diagnostics that are shown for violations: one entry, for the target, if all of them are
valid, and else none. -/
def shownOf (t : LintTicket) (live : Option Document) (vs : List Json) :
    List (Bool × List Diagnostic) :=
  ((vs.mapM Violation.ofValue?).map fun found =>
    (true, found.map (·.diagnostic live t.config.settings))).toList

/-- What the dbt server finds in the target. -/
theorem remote_shown (absolute : Path.isAbsolute t.path = true) (live : Option Document)
    (numbers : ∀ n ∈ numbersOfItems vs, n.ReadsBack) (enabled : w.settings.dbt.enabled = true)
    (answers : Remote.Answers w.machine w.settings.dbt
      (Workspace.remoteRequest w.config (t.job.target t.path)) text)
    (answer : Draft.parse? text = some (.obj [(some "result", d)]))
    (settled : d.settleAt? (Draft.maxDepth - 1) = some (.arr vs)) :
    ∃ result asked, w.begin (t.job.invocation t.config.settings t.path) =
        .ok (.over result, asked) ∧ result.succeeded = true ∧
      (t.map result.lines live).map FileDiagnostics.shown = t.shownOf live vs := by
  have outcome := Workspace.isOf_runRemote w w.config (t.job.target t.path)
  rw [Workspace.remoteOutcome_of_answers answers answer settled, LintJob.path?_target] at outcome
  have begun : w.begin (t.job.invocation t.config.settings t.path) =
      .ok (.over (w.runRemote w.config .lint (t.job.target t.path)).1,
        (w.runRemote w.config .lint (t.job.target t.path)).2) := by
    rw [Workspace.begin_eq, LintJob.validate_invocation]
    dsimp only
    rw [if_pos enabled]
    rfl
  generalize w.runRemote w.config .lint (t.job.target t.path) = run at outcome begun
  obtain ⟨succeeded, lines⟩ := outcome
  have read : Draft.stream? (Workspace.remoteReport
      (some (Path.forwardSlashes t.path)) (.arr vs)).compress =
      some [reportDraft (Path.forwardSlashes t.path) (Json.draftItems vs)] := by
    rw [← draft_remoteReport]
    exact Draft.stream?_compress (numbers_remoteReport _ vs ▸ numbers)
  refine ⟨run.1, run.2, begun, succeeded, ?_⟩
  have line : run.1.lines = [(Workspace.remoteReport
      (some (Path.forwardSlashes t.path)) (.arr vs)).compress] := lines rfl
  have own := LintTarget.same_resolve_forwardSlashes
    (t := ⟨t.path, t.config.workingDirectory?, live⟩) absolute
  rw [line, map, LintTarget.shown_reportDraft _ read own, mapM_draftItems]
  rfl

/-- What the tool finds in its standard input. -/
theorem local_shown (t : LintTicket) (live : Option Document) (w : Workspace) {r : Running}
    (lint : r.kind = .lint) {e : Exit} {code : Int} (exit : e.code = some code)
    (success : code = 0 ∨ code = 1 ∨ code = 65) {line : String} (writes : e.Writes line)
    {ds : List Draft} (report : Draft.stream? line = some [reportDraft "stdin" ds])
    (spell : Draft.Spell ds vs) :
    (w.finish r e).1.succeeded = true ∧
      (t.map (w.finish r e).1.lines live).map FileDiagnostics.shown = t.shownOf live vs := by
  have succeeded : e.code.any isSuccess = true := by
    rw [exit]
    rcases success with rfl | rfl | rfl <;> rfl
  have written : line ≠ "" := by
    rintro rfl
    cases report
  have outcome := Workspace.isOf_finish w lint e
  have lines : (w.finish r e).1.lines = [line] := by
    rw [outcome.2 succeeded, LintOutcome.lines, if_pos succeeded, writes.linesOf_eq written]
  refine ⟨outcome.1.trans succeeded, ?_⟩
  rw [lines, map, LintTarget.shown_reportDraft _ report, mapM_ofDraft?_eq spell]
  · rfl
  · rw [LintTarget.resolve_stdin]
    exact Path.same_refl _

/-- The dbt server and the tool agree on the violations of a target: if the server answers with the
values that the tool prints in a report on its standard input, the diagnostics of both are the
same, in one entry that is for the target, or in none if a value is not a valid violation. -/
theorem backends_agree (absolute : Path.isAbsolute t.path = true) (live : Option Document)
    (numbers : ∀ n ∈ numbersOfItems vs, n.ReadsBack)
    -- The server answers.
    (enabled : w.settings.dbt.enabled = true)
    (answers : Remote.Answers w.machine w.settings.dbt
      (Workspace.remoteRequest w.config (t.job.target t.path)) text)
    (answer : Draft.parse? text = some (.obj [(some "result", d)]))
    (settled : d.settleAt? (Draft.maxDepth - 1) = some (.arr vs))
    -- The tool prints.
    (v : Workspace) {r : Running} (lint : r.kind = .lint) {e : Exit} {code : Int}
    (exit : e.code = some code) (success : code = 0 ∨ code = 1 ∨ code = 65) {line : String}
    (writes : e.Writes line) {ds : List Draft}
    (report : Draft.stream? line = some [reportDraft "stdin" ds]) (spell : Draft.Spell ds vs) :
    ∃ remote asked, w.begin (t.job.invocation t.config.settings t.path) =
        .ok (.over remote, asked) ∧
      remote.succeeded = true ∧ (v.finish r e).1.succeeded = true ∧
      (t.map remote.lines live).map FileDiagnostics.shown =
        (t.map (v.finish r e).1.lines live).map FileDiagnostics.shown ∧
      (t.map (v.finish r e).1.lines live).map FileDiagnostics.shown = t.shownOf live vs := by
  obtain ⟨remote, asked, begun, succeeded, found⟩ :=
    t.remote_shown absolute live numbers enabled answers answer settled
  obtain ⟨ended, printed⟩ := t.local_shown live v lint exit success writes report spell
  exact ⟨remote, asked, begun, succeeded, ended, found.trans printed.symm, printed⟩

end LintTicket

/-! ### A violation found both ways -/

/-- A violation with its fields in the order in which the tool writes them. -/
def indentWritten : Json :=
  .obj [("line_no", .num (.int 1)), ("line_pos", .num (.int 3)), ("code", .str "L003")]

/-- The violation as a value, whose fields are in the order of their names. -/
def indentValue : Json :=
  .obj [("code", .str "L003"), ("line_no", .num (.int 1)), ("line_pos", .num (.int 3))]

/-- What a dbt server answers that finds it. -/
def indentAnswer : String := (Json.obj [("result", .arr [indentWritten])]).compress

/-- What the tool prints when it finds it. -/
def indentLine : String :=
  (Json.arr [.obj [("filepath", .str "stdin"), ("violations", .arr [indentWritten])]]).compress

/-- A lint of a document in the editor. -/
def indentTicket : LintTicket := ⟨⟨openedAs "  select 1\n", .buffer, true⟩, {}, "/w/a.sql", 1⟩

/-- A dbt server that gives this answer whatever it is asked. -/
def indentServer (_ : HttpRequest) : HttpReply := .answer 200 (Utf8.encode indentAnswer) 5

/-- A workspace with the server. -/
def servedWorkspace : Workspace where
  config := { settings := { dbt := { enabled := true, host := "[::1]" } } }
  machine := { serve := some indentServer }

theorem settleAt?_indent (depth : Nat) :
    indentWritten.draft.settleAt? (depth + 1) = some indentValue := by
  have sorted : Members.ofList [("line_no", Json.num (.int 1)), ("line_pos", .num (.int 3)),
      ("code", .str "L003")] =
      [("code", .str "L003"), ("line_no", .num (.int 1)), ("line_pos", .num (.int 3))] := rfl
  show some (Json.obj (Members.ofList _)) = _
  rw [sorted]
  rfl

theorem readsBack_indent : ∀ n ∈ [JsonNumber.int 1, .int 3], n.ReadsBack := by
  intro n hn
  rcases List.mem_cons.1 hn with rfl | hn
  · exact JsonText.readsBack_int (by decide) (by decide)
  · obtain rfl := List.mem_singleton.1 hn
    exact JsonText.readsBack_int (by decide) (by decide)

theorem answers_servedWorkspace : Remote.Answers servedWorkspace.machine
    servedWorkspace.settings.dbt
    (Workspace.remoteRequest servedWorkspace.config (indentTicket.job.target indentTicket.path))
    indentAnswer := by
  have parses (endpoint : String) (h : endpoint = "/health" ∨ endpoint = "/lint") :
      ∃ url, Url.parse? (servedWorkspace.settings.dbt.address ++ endpoint) = some url := by
    refine Option.isSome_iff_exists.1 ?_
    rcases h with rfl | rfl <;>
      simp only [Url.parse?, Url.parse, Url.scheme?, String.contains_char_eq] <;>
      decide +kernel
  obtain ⟨healthUrl, healthAt⟩ := parses "/health" (.inl rfl)
  obtain ⟨lintUrl, lintAt⟩ := parses "/lint" (.inr rfl)
  refine ⟨indentServer, Utf8.encode indentAnswer, healthUrl, 200, Utf8.encode indentAnswer, _,
    rfl, healthAt, rfl, congrArg (Option.map (Url.addParameters · _)) lintAt, rfl, ?_⟩
  rw [Utf8.lossyString, Utf8.encode_eq, Utf8.lossy_flatMap, String.ofList_toList]

theorem LintTicket.backends_agree_indent :
    ∃ remote asked, servedWorkspace.begin (indentTicket.job.invocation {} indentTicket.path) =
        .ok (.over remote, asked) ∧
      (indentTicket.map remote.lines (some (openedAs "  select 1\n"))).map
          FileDiagnostics.shown =
        [(true, [Violation.diagnostic { code := "L003", line := some 1, column := some 3 }
          (some (openedAs "  select 1\n")) {}])] := by
  have settled (depth : Nat) :
      Draft.settleItems? (depth + 1) [indentWritten.draft] = some [indentValue] := by
    rw [Draft.settleItems?, settleAt?_indent]
    rfl
  have spell : Draft.Spell [indentWritten.draft] [indentValue] := by
    refine ⟨⟨1, settled 0⟩, fun d hd => ?_⟩
    obtain rfl := List.mem_singleton.1 hd
    show [some "line_no", some "line_pos", some "code"].Nodup
    decide
  have answer := Draft.parse?_compress (j := .obj [("result", .arr [indentWritten])])
    readsBack_indent
  have report := Draft.stream?_compress
    (j := .arr [.obj [("filepath", .str "stdin"), ("violations", .arr [indentWritten])]])
    readsBack_indent
  have writes : Exit.Writes ⟨some 1, [Utf8.encode (indentLine ++ "\n")], []⟩ indentLine := by
    have unended : indentLine.toList.any isTerminator = false := by decide +kernel
    refine ⟨fun c hc => ?_, "\n", fun c hc => ?_, List.append_nil _⟩
    · exact Bool.eq_false_iff.2 fun ends =>
        Bool.false_ne_true (unended.symm.trans (List.any_eq_true.2 ⟨c, hc, ends⟩))
    · obtain rfl : c = '\n' := by simpa using hc
      rfl
  have numbers : ∀ n ∈ numbersOfItems [indentValue], n.ReadsBack := readsBack_indent
  have violations : (Draft.arr [indentWritten.draft]).settleAt? (Draft.maxDepth - 1) =
      some (.arr [indentValue]) := congrArg (Option.map Json.arr) (settled 124)
  obtain ⟨remote, asked, begun, -, -, same, found⟩ := backends_agree (t := indentTicket)
    (by decide) (some (openedAs "  select 1\n")) numbers rfl answers_servedWorkspace answer
    violations {} (r := ⟨.lint, {}, none, 1, 1⟩) rfl rfl (.inr (.inl rfl)) writes report spell
  exact ⟨remote, asked, begun, same.trans found⟩

end SqlLint
