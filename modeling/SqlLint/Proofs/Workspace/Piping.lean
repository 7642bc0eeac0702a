import SqlLint.Proofs.Document.Sync
import SqlLint.Proofs.Workspace.Asking
import SqlLint.Proofs.Workspace.Formatting

/-!
# Texts on the standard input of the tool

A document that is formatted or linted as it stands in the editor is given to the tool on its standard
input, unless it is empty: then the tool is told of the file (`pipes_iff`).
-/

namespace SqlLint

open OnMachine

/-- The command gives the tool a text on its standard input and a dash in place of a file. -/
structure Command.Pipes (command : Command) (c : Config) (text : String) : Prop where
  exists_arguments : ∃ arguments, (command.program, command.arguments) =
    c.settings.shell.command c.executable (arguments ++ ["-"])
  input_eq : command.input = some text

/-- What the tool works on when it is given a text that belongs to a file. -/
def Target.ofText (text path : String) : Target :=
  if text = "" then .file path else .buffer text (some path)

theorem validate_buffer (kind : CommandKind) (arguments : List String) (text path : String) :
    (⟨kind, arguments, some (.buffer text (some path))⟩ : Invocation).validate =
      .ok (.ofText text path) := by
  by_cases empty : text = ""
  · subst empty
    rfl
  · have filled : ¬ text.isEmpty = true := by simpa using empty
    simp only [Invocation.validate, Target.ofText, if_neg filled, if_neg empty]

theorem pipes_iff_of_isOn {command : Command} {c : Config} {text path : String}
    (h : command.IsOn c (.ofText text path)) : command.Pipes c text ↔ text ≠ "" := by
  by_cases empty : text = ""
  · subst empty
    have silent : command.input = none := h.input_eq
    constructor
    · intro piped
      have read := piped.input_eq
      rw [silent] at read
      cases read
    · exact fun ne => absurd rfl ne
  · rw [Target.ofText, if_neg empty] at h
    exact iff_of_true ⟨h.exists_arguments, h.input_eq⟩ empty

namespace Workspace

variable {w : Workspace} {uri : Url} {d : Document}

/-! ## Formatting -/

theorem reconcile_withStart (w : Workspace) (output : FixOutput) (start : Programs) :
    (withStart w start).reconcile output = withStart (w.reconcile output) start := by
  cases output with
  | toolMissing => rfl
  | templatingErrors => rfl
  | fixed lines errorsRemain =>
    unfold reconcile
    dsimp only
    split
    · rfl
    · split
      · exact congrArg (Prod.mk _) (complain_withStart _ _ _ _)
      · rfl

theorem asksOnly_fixText (off : w.settings.dbt.enabled = false) (text path : String) :
    AsksOnly (·.IsOn w.config (.ofText text path)) (·.fixText text path) w := by
  intro start agrees
  have invoked : (withStart w start).invoke ⟨.fix, (withStart w start).settings.fixArguments
        (withStart w start).version, some (.buffer text (some path))⟩ =
      withStart (w.invoke
        ⟨.fix, w.settings.fixArguments w.version, some (.buffer text (some path))⟩) start :=
    asksOnly_invoke off (validate_buffer .fix _ text path) start agrees
  show (withStart w start).fixText text path = withStart (w.fixText text path) start
  unfold fixText
  dsimp only
  rw [invoked]
  cases w.invoke ⟨.fix, w.settings.fixArguments w.version, some (.buffer text (some path))⟩ with
  | error e => rfl
  | ok p =>
    show (if p.1.succeeded then (withStart p.2 start).reconcile _ else _) =
      withStart (if p.1.succeeded then p.2.reconcile _ else _) start
    split
    · exact reconcile_withStart p.2 _ start
    · rfl

theorem asksOnly_fixText_note (off : w.settings.dbt.enabled = false) (lines : List String)
    (text path : String) : AsksOnly (fun c => ∃ path, c.IsOn w.config (.ofText text path))
      (fun w => (w.note lines).fixText text path) w := by
  intro start agrees
  have off' : (w.note lines).settings.dbt.enabled = false := by rw [settings_note, off]
  have fixed := asksOnly_fixText off' text path start
  rw [config_note, start_note] at fixed
  show ((withStart w start).note lines).fixText text path = _
  rw [note_withStart]
  exact fixed fun files vars place c on => agrees files vars place c ⟨path, on⟩

/-- Formatting a document asks for the command of its text only. -/
theorem asksOnly_formatDocument (off : w.settings.dbt.enabled = false)
    (inMemory : w.settings.experimental.executeInTerminal = false)
    (open_ : w.documents.get? uri = some d) :
    AsksOnly (fun c => ∃ path, c.IsOn w.config (.ofText d.text path)) (·.formatDocument uri) w := by
  refine .of_eq (g := fixDocument w.config d) (fun _ => formatDocument_of_open open_ inMemory) ?_
  unfold fixDocument
  refine .ite (fun _ _ _ => rfl) fun _ => .ite (fun _ => ?_) fun _ => asksOnly_note _ _ _ _
  cases d.path? with
  | none => exact fun _ _ => rfl
  | some path =>
    exact (asksOnly_fixText_note off ["Format triggered for " ++ path] d.text path).map
      (h := documentEdits d) fun _ _ => rfl

theorem asksOnly_fixRange (off : w.settings.dbt.enabled = false) (range : Range) :
    AsksOnly (fun c => ∃ path, c.IsOn w.config (.ofText (d.slice range) path))
      (fixRange w.config d range) w := by
  unfold fixRange
  refine .ite (fun _ _ _ => rfl) fun _ => .ite (fun _ => ?_) fun _ => asksOnly_note _ _ _ _
  refine .ite (fun _ => asksOnly_note _ _ _ _) fun _ => ?_
  cases d.path? with
  | none => exact fun _ _ => rfl
  | some path =>
    refine .ite (fun _ => asksOnly_note _ _ _ _) fun _ => ?_
    exact (asksOnly_fixText_note off [rangeNotice range path] (d.slice range) path).map
      (h := rangeEdits d range) fun _ _ => rfl

/-- Formatting a selection asks for the command of the text that is selected only. -/
theorem asksOnly_formatRange (off : w.settings.dbt.enabled = false)
    (open_ : w.documents.get? uri = some d) (selection : Range) :
    AsksOnly (fun c => ∃ path, c.IsOn w.config (.ofText (d.slice (d.wholeLines selection)) path))
      (·.formatRange uri selection) w :=
  .of_eq (g := fixRange w.config d (d.wholeLines selection))
    (fun start => formatRange_of_open (w := withStart w start) open_ selection)
    (asksOnly_fixRange off _)

end Workspace

/-! ## Linting -/

namespace Bench

variable {b : Bench} {t : LintTicket}

theorem workspace_withStart (b : Bench) (start : Programs) :
    (withStart b start).workspace = withStart b.workspace start := rfl

theorem issue_withStart (b : Bench) (job : LintJob) (start : Programs) :
    (withStart b start).issue job = withStart (b.issue job) start := by
  unfold issue
  cases job.document.path? with
  | none =>
    dsimp only
    rw [workspace_withStart, Workspace.note_withStart, Workspace.complain_withStart]
    rfl
  | some path => rfl

theorem asksOnly_start (off : b.workspace.settings.dbt.enabled = false)
    (source : t.job.source = .buffer) :
    AsksOnly (·.IsOn b.workspace.config (.ofText t.job.document.text t.path))
      (fun w => { b with workspace := w }.start t) b.workspace := by
  have hv : (t.job.invocation t.config.settings t.path).validate =
      .ok (.ofText t.job.document.text t.path) := by
    rw [LintJob.invocation, source]
    exact validate_buffer _ _ _ _
  intro start agrees
  have begun := Workspace.asksOnly_begin off hv start agrees
  dsimp only at begun ⊢
  unfold Bench.start
  dsimp only
  rw [begun]
  cases b.workspace.begin (t.job.invocation t.config.settings t.path) with
  | error e => rfl
  | ok p =>
    obtain ⟨result | r, v⟩ := p
    · rfl
    · rfl

theorem collect?_withStart (b : Bench) (t : LintTicket) (r : Running) (start : Programs) :
    (withStart b start).collect? t r = withStart (b.collect? t r) start := by
  have collected := Workspace.collect?_withStart b.workspace.machine r.process start
  unfold collect?
  show ((withStart b.workspace.machine start).collect? r.process).bind _ = _
  rw [collected]
  cases b.workspace.machine.collect? r.process with
  | none => rfl
  | some ended =>
    have finished := Workspace.finish_withStart { b.workspace with machine := ended.2 } r ended.1
      start
    exact congrArg (fun p : RunResult × Workspace =>
      some (some (LintRun.ended t p.1), { b with workspace := p.2 })) finished

theorem resolve_withStart (b : Bench) (t : LintTicket) (result : RunResult) (start : Programs) :
    (withStart b start).resolve t result = withStart (b.resolve t result) start := by
  unfold resolve
  by_cases failed : (! result.succeeded) = true
  · simp only [if_pos failed, workspace_withStart, Workspace.note_withStart]
    rfl
  · simp only [if_neg failed]
    split <;> rfl

theorem publishNext_withStart (b : Bench) (t : LintTicket) (live : Option Document)
    (file : FileDiagnostics) (files : List FileDiagnostics) (start : Programs) :
    (withStart b start).publishNext t live file files =
      withStart (b.publishNext t live file files) start := by
  have same : (withStart b start).generations = b.generations := rfl
  unfold publishNext
  rw [same]
  split
  · split
    · rfl
    · split <;> rfl
  · cases file.uri? <;> rfl

/-- A step of a lint of a text asks for the command of this text only. -/
theorem asksOnly_step? {run : LintRun} (off : b.workspace.settings.dbt.enabled = false)
    (source : run.job.source = .buffer) :
    AsksOnly (fun c => ∃ path, c.IsOn b.workspace.config (.ofText run.job.document.text path))
      (fun w => { b with workspace := w }.step? run) b.workspace := by
  intro start agrees
  cases run with
  | taken job => exact congrArg some (issue_withStart b job start)
  | issued t =>
    have asked := (asksOnly_start off source).mono (Q := fun c => ∃ path,
      c.IsOn b.workspace.config (.ofText t.job.document.text path)) fun c on => ⟨t.path, on⟩
    exact congrArg some (asked start agrees)
  | waiting t r => exact collect?_withStart b t r start
  | ended t result => exact congrArg some (resolve_withStart b t result start)
  | publishing t live files =>
    cases files with
    | nil => rfl
    | cons file files =>
      have passed := publishNext_withStart b t live file files start
      exact congrArg (fun p : LintRun × Bench => some (some p.1, p.2)) passed
  | applied t live file files => rfl

end Bench

/-! ## Empty texts -/

namespace Workspace

variable {w : Workspace}

/-- The text of a document that is formatted, or that is linted as it stands in the editor, is on the
standard input of the commands that are asked for if, and only if, it is not empty. -/
theorem pipes_iff (off : w.settings.dbt.enabled = false) :
    (∀ uri d, w.documents.get? uri = some d → w.settings.experimental.executeInTerminal = false →
      ∀ c, w.Asks (·.formatDocument uri) c → (c.Pipes w.config d.text ↔ d.text ≠ "")) ∧
    ∀ generations (run : LintRun), run.job.source = .buffer →
      ∀ c, w.Asks (fun w => Bench.step? ⟨w, generations⟩ run) c →
        (c.Pipes w.config run.job.document.text ↔ run.job.document.text ≠ "") := by
  constructor
  · intro uri d open_ inMemory c asks
    obtain ⟨path, on⟩ := (asksOnly_formatDocument off inMemory open_).of_asks asks
    exact pipes_iff_of_isOn on
  · intro generations run source c asks
    have asked := Bench.asksOnly_step? (b := ⟨w, generations⟩) off source
    obtain ⟨path, on⟩ := asked.of_asks asks
    exact pipes_iff_of_isOn on

/-- A tool that likes what it reads and rewrites what it finds in a file. -/
def fixer (c : Command) : Behaviour :=
  match c.input with
  | some text => { exit := ⟨some 0, [Text.Utf8.encode text], []⟩ }
  | none =>
    { changes := [.write (c.arguments.getLastD "") (Text.Utf8.encode "SELECT 1\n")]
      exit := ⟨some 0, [Text.Utf8.encode "== [a.sql] FIXED\n"], []⟩ }

/-- A workspace with this tool and a text in the editor that was not saved. -/
def withFixer (text : String) : Workspace where
  machine := {
    files := [(["w"], .directory), (["w", "a.sql"], .file (Text.Utf8.encode "select  1\n") false)]
    start := fun _ _ _ c => .ok (fixer c) }
  documents := [openedAs text]

theorem pipes_iff_notEmpty :
    (withFixer "select 1").settings.dbt.enabled = false ∧
    ∃ c, (withFixer "select 1").Asks (·.formatDocument (openedAs "").uri) c ∧
      (c.Pipes (withFixer "select 1").config "select 1" ↔ "select 1" ≠ "") := by
  let c : Command := ⟨"sqlfluff", ["fix", "--force", "-"], none, [], some "select 1"⟩
  have asks : (withFixer "select 1").Asks (·.formatDocument (openedAs "").uri) c := by
    intro others
    have same := congrArg (·.1)
      (others (fun _ _ _ c' => if c' = c then .error .notFound else .ok (fixer c'))
        fun _ _ _ c' hc' => if_neg hc')
    revert same
    show ¬ _ = ((withFixer "select 1").formatDocument (openedAs "").uri).1
    decide +kernel
  have open_ : (withFixer "select 1").documents.get? (openedAs "").uri =
      some (openedAs "select 1") := by decide +kernel
  exact ⟨rfl, c, asks, (pipes_iff rfl).1 _ _ open_ rfl c asks⟩

/-- Formatting an empty document rewrites the file, and what the tool says about that goes into the
document. -/
theorem formatDocument_empty :
    (withFixer "").documents.get? (openedAs "").uri = some (openedAs "") ∧
    (withFixer "").settings.experimental.executeInTerminal = false ∧
    ((withFixer "").formatDocument (openedAs "").uri).1 =
      .ok [⟨⟨⟨0, 0⟩, ⟨0, 0⟩⟩, "== [a.sql] FIXED\n"⟩] ∧
    ((withFixer "").formatDocument (openedAs "").uri).2.machine.files.readText [] "/w/a.sql" =
      .ok "SELECT 1\n" := by
  decide +kernel

end Workspace

end SqlLint
