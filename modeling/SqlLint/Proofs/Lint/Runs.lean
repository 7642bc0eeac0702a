import SqlLint.Lint.Run
import SqlLint.Proofs.Workspace.Given

/-!
# Steps of runs

`LintRun.Step` says once what a step of a run can do: it is the only way in which `Bench.step?` goes
on (`LintRun.step_of_step?`).  A run keeps its job and, once it has one, its ticket.  Numbers are
issued, accepted and published in steps of their own, and no step changes what the editor gave.
-/

namespace SqlLint

namespace LintRun

/-- The ticket of a run, once it has a number. -/
def ticket? : LintRun → Option LintTicket
  | .taken _ => none
  | .issued t => some t
  | .waiting t _ => some t
  | .ended t _ => some t
  | .publishing t _ _ => some t
  | .applied t _ _ _ => some t

/-- The ticket of a run whose diagnostics were accepted and are still to be published. -/
def outstanding? : LintRun → Option LintTicket
  | .applied t _ _ _ => some t
  | _ => none

/-- The document as the run saw it when it had its diagnostics. -/
def seen? : LintRun → Option (Option Document)
  | .publishing _ live _ => some live
  | .applied _ live _ _ => some live
  | _ => none

/-- What a step of a run can do: it ends; it gets its number; it asks the tool or has its answer; it
sees the document and has its diagnostics; it passes a file, of which nothing or another file's
diagnostics are published; its number is accepted; its diagnostics are published. -/
inductive Step (b b' : Bench) : LintRun → Option LintRun → Prop where
  | finished (run : LintRun) : run.outstanding? = none → b'.generations = b.generations →
      Step b b' run none
  | numbered (job : LintJob) (path : String) :
      b'.generations = (b.generations.issue job.uri).2 →
      Step b b' (.taken job)
        (some (.issued ⟨job, b.workspace.config, path, (b.generations.issue job.uri).1⟩))
  | went (run run' : LintRun) (t : LintTicket) : run.ticket? = some t → run'.ticket? = some t →
      run.outstanding? = none → run'.outstanding? = none → run'.seen? = none →
      b'.generations = b.generations → Step b b' run (some run')
  | resolved (t : LintTicket) (result : RunResult) (files : List FileDiagnostics) :
      b'.generations = b.generations →
      Step b b' (.ended t result) (some (.publishing t (b.workspace.documents.get? t.uri) files))
  | passed (t : LintTicket) (live : Option Document) (file : FileDiagnostics)
      (files : List FileDiagnostics) : b'.generations = b.generations →
      Step b b' (.publishing t live (file :: files)) (some (.publishing t live files))
  | accepted (t : LintTicket) (live : Option Document) (file : FileDiagnostics)
      (files : List FileDiagnostics) : t.isClosed live = false →
      b.generations.accepts t.uri t.generation = true →
      b'.generations = (b.generations.tryApply t.uri t.generation).2 →
      Step b b' (.publishing t live (file :: files)) (some (.applied t live file files))
  | published (t : LintTicket) (live : Option Document) (file : FileDiagnostics)
      (files : List FileDiagnostics) : b'.generations = b.generations →
      b'.workspace = b.workspace.publish t.uri file.diagnostics (live.map (·.version)) →
      Step b b' (.applied t live file files) (some (.publishing t live files))

variable {b b' : Bench} {run run' : LintRun} {next : Option LintRun}

/-! ## The steps of the bench -/

variable {job : LintJob} {t : LintTicket} {live : Option Document} {file : FileDiagnostics}
  {files : List FileDiagnostics}

theorem issue_cases (h : b.issue job = (next, b')) :
    (next = none ∧ b'.generations = b.generations ∧ b'.workspace.kept = b.workspace.kept) ∨
    ∃ path, job.document.path? = some path ∧
      next = some (.issued ⟨job, b.workspace.config, path, (b.generations.issue job.uri).1⟩) ∧
      b' = { b with generations := (b.generations.issue job.uri).2 } := by
  unfold Bench.issue at h
  split at h
  · obtain ⟨rfl, rfl⟩ := Prod.mk.inj h
    exact .inl ⟨rfl, rfl, by simp⟩
  · next path hpath =>
    obtain ⟨rfl, rfl⟩ := Prod.mk.inj h
    exact .inr ⟨path, hpath, rfl, rfl⟩

theorem start_cases (h : b.start t = (next, b')) :
    (next = none ∧ b' = b) ∨
    (∃ result w, b.workspace.begin (t.job.invocation t.config.settings t.path) =
        .ok (.over result, w) ∧ next = some (.ended t result) ∧ b' = { b with workspace := w }) ∨
    ∃ r w, b.workspace.begin (t.job.invocation t.config.settings t.path) = .ok (.running r, w) ∧
      next = some (.waiting t r) ∧ b' = { b with workspace := w } := by
  unfold Bench.start at h
  split at h
  · obtain ⟨rfl, rfl⟩ := Prod.mk.inj h
    exact .inl ⟨rfl, rfl⟩
  · next result w begun =>
    obtain ⟨rfl, rfl⟩ := Prod.mk.inj h
    exact .inr (.inl ⟨result, w, begun, rfl, rfl⟩)
  · next r w begun =>
    obtain ⟨rfl, rfl⟩ := Prod.mk.inj h
    exact .inr (.inr ⟨r, w, begun, rfl, rfl⟩)

theorem collect?_eq_some {r : Running} (h : b.collect? t r = some (next, b')) :
    ∃ exit machine, b.workspace.machine.collect? r.process = some (exit, machine) ∧
      next = some (.ended t ({ b.workspace with machine }.finish r exit).1) ∧
      b' = { b with workspace := ({ b.workspace with machine }.finish r exit).2 } := by
  simp only [Bench.collect?, Option.bind_eq_bind, Option.bind_eq_some_iff] at h
  obtain ⟨⟨exit, machine⟩, collected, h⟩ := h
  obtain ⟨rfl, rfl⟩ := Prod.mk.inj (Option.some.inj h)
  exact ⟨exit, machine, collected, rfl, rfl⟩

theorem resolve_cases {result : RunResult} (h : b.resolve t result = (next, b')) :
    (next = none ∧ b'.generations = b.generations ∧ b'.workspace.kept = b.workspace.kept) ∨
    (result.succeeded = true ∧ b' = b ∧
      next = some (.publishing t (b.workspace.documents.get? t.uri)
        (t.map result.lines (b.workspace.documents.get? t.uri)))) := by
  unfold Bench.resolve at h
  dsimp only at h
  split at h
  · obtain ⟨rfl, rfl⟩ := Prod.mk.inj h
    exact .inl ⟨rfl, rfl, by simp⟩
  · next well =>
    split at h
    · obtain ⟨rfl, rfl⟩ := Prod.mk.inj h
      exact .inl ⟨rfl, rfl, rfl⟩
    · obtain ⟨rfl, rfl⟩ := Prod.mk.inj h
      exact .inr ⟨by simpa using well, rfl, rfl⟩

/-- The next file is passed over, or its number is applied, or it is published if it has a URL. -/
theorem publishNext_cases (h : b.publishNext t live file files = (run', b')) :
    (file.isTarget = true ∧ run' = .publishing t live files ∧ b' = b) ∨
    (file.isTarget = true ∧ t.isClosed live = false ∧
      b.generations.accepts t.uri t.generation = true ∧ run' = .applied t live file files ∧
      b' = { b with generations := (b.generations.tryApply t.uri t.generation).2 }) ∨
    (file.isTarget = false ∧ run' = .publishing t live files ∧
      b' = { b with workspace := (file.uri?.map fun uri =>
        b.workspace.publish uri file.diagnostics none).getD b.workspace }) := by
  unfold Bench.publishNext at h
  split at h
  · next target =>
    split at h
    · obtain ⟨rfl, rfl⟩ := Prod.mk.inj h
      exact .inl ⟨target, rfl, rfl⟩
    · next hopen =>
      by_cases fresh : b.generations.accepts t.uri t.generation
      · simp only [Generations.tryApply, if_pos fresh] at h
        obtain ⟨rfl, rfl⟩ := Prod.mk.inj h
        refine .inr (.inl ⟨target, by simpa using hopen, fresh, rfl, ?_⟩)
        rw [Generations.tryApply, if_pos fresh]
      · simp only [Generations.tryApply, if_neg fresh] at h
        obtain ⟨rfl, rfl⟩ := Prod.mk.inj h
        exact .inl ⟨target, rfl, rfl⟩
  · next other =>
    obtain ⟨rfl, rfl⟩ := Prod.mk.inj h
    exact .inr (.inr ⟨Bool.not_eq_true _ ▸ other, rfl, rfl⟩)

theorem step_of_issue (h : b.issue job = (next, b')) :
    Step b b' (.taken job) next ∧ b'.workspace.kept = b.workspace.kept := by
  obtain ⟨rfl, same, kept⟩ | ⟨path, -, rfl, rfl⟩ := issue_cases h
  · exact ⟨.finished _ rfl same, kept⟩
  · exact ⟨.numbered job path rfl, rfl⟩

theorem step_of_start (h : b.start t = (next, b')) :
    Step b b' (.issued t) next ∧ b'.workspace.kept = b.workspace.kept := by
  obtain ⟨rfl, rfl⟩ | ⟨result, w, begun, rfl, rfl⟩ | ⟨r, w, begun, rfl, rfl⟩ := start_cases h
  · exact ⟨.finished _ rfl rfl, rfl⟩
  · exact ⟨.went _ _ t rfl rfl rfl rfl rfl rfl, Workspace.kept_begin begun⟩
  · exact ⟨.went _ _ t rfl rfl rfl rfl rfl rfl, Workspace.kept_begin begun⟩

theorem step_of_collect? {r : Running} (h : b.collect? t r = some (next, b')) :
    Step b b' (.waiting t r) next ∧ b'.workspace.kept = b.workspace.kept := by
  obtain ⟨exit, machine, -, rfl, rfl⟩ := collect?_eq_some h
  exact ⟨.went _ _ t rfl rfl rfl rfl rfl rfl,
    Workspace.kept_finish { b.workspace with machine } r exit⟩

theorem step_of_resolve {result : RunResult} (h : b.resolve t result = (next, b')) :
    Step b b' (.ended t result) next ∧ b'.workspace.kept = b.workspace.kept := by
  obtain ⟨rfl, same, kept⟩ | ⟨-, rfl, rfl⟩ := resolve_cases h
  · exact ⟨.finished _ rfl same, kept⟩
  · exact ⟨.resolved t result _ rfl, rfl⟩

theorem step_of_publishNext (h : b.publishNext t live file files = (run', b')) :
    Step b b' (.publishing t live (file :: files)) (some run') ∧
      b'.workspace.given = b.workspace.given := by
  obtain ⟨-, rfl, rfl⟩ | ⟨-, hopen, fresh, rfl, rfl⟩ | ⟨-, rfl, rfl⟩ := publishNext_cases h
  · exact ⟨.passed t live file files rfl, rfl⟩
  · exact ⟨.accepted t live file files hopen fresh rfl, rfl⟩
  · refine ⟨.passed t live file files rfl, ?_⟩
    cases file.uri? <;> rfl

theorem step_and_given_of_step? (h : b.step? run = some (next, b')) :
    Step b b' run next ∧ b'.workspace.given = b.workspace.given := by
  have quiet {run : LintRun}
      (h : Step b b' run next ∧ b'.workspace.kept = b.workspace.kept) :
      Step b b' run next ∧ b'.workspace.given = b.workspace.given := ⟨h.1, congrArg Prod.fst h.2⟩
  unfold Bench.step? at h
  split at h
  · exact quiet (step_of_issue (Option.some.inj h))
  · exact quiet (step_of_start (Option.some.inj h))
  · exact quiet (step_of_collect? h)
  · exact quiet (step_of_resolve (Option.some.inj h))
  · obtain ⟨rfl, rfl⟩ := Prod.mk.inj (Option.some.inj h)
    exact ⟨.finished _ rfl rfl, rfl⟩
  · obtain ⟨rfl, rfl⟩ := Prod.mk.inj (Option.some.inj h)
    exact step_of_publishNext rfl
  · obtain ⟨rfl, rfl⟩ := Prod.mk.inj (Option.some.inj h)
    exact ⟨.published _ _ _ _ rfl rfl, rfl⟩

/-- A run goes on in one of the ways of `Step`. -/
theorem step_of_step? (h : b.step? run = some (next, b')) : Step b b' run next :=
  (step_and_given_of_step? h).1

/-- A step of a run leaves what the editor gave as it is. -/
theorem given_of_step? (h : b.step? run = some (next, b')) :
    b'.workspace.given = b.workspace.given :=
  (step_and_given_of_step? h).2

/-! ## What runs keep -/

theorem job_of_ticket? (h : run.ticket? = some t) : run.job = t.job := by
  cases run <;> cases h <;> rfl

/-- A run lints the same document to its end. -/
theorem Step.job_eq (h : Step b b' run (some run')) : run'.job = run.job := by
  cases h with
  | numbered => rfl
  | went _ _ t before after => rw [job_of_ticket? before, job_of_ticket? after]
  | resolved => rfl
  | passed => rfl
  | accepted => rfl
  | published => rfl

/-- A run keeps its number. -/
theorem Step.ticket?_eq (h : Step b b' run (some run'))
    (ticket : run.ticket? = some t) : run'.ticket? = some t := by
  cases h with
  | numbered => cases ticket
  | went _ _ t before after =>
    rw [before] at ticket
    rwa [after]
  | resolved => exact ticket
  | passed => exact ticket
  | accepted => exact ticket
  | published => exact ticket

end LintRun

end SqlLint
