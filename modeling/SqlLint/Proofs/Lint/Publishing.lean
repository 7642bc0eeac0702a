import SqlLint.Proofs.Lint.Numbers

/-!
# What a step of a lint publishes

A step of a run publishes the diagnostics of the next file if that is not the document itself, or those
of the document once their number is applied (`publications_of_step?`); a number is applied only when
the next file is the document (`applied_of_step?`).
-/

namespace SqlLint

namespace LintRun

variable {b b' : Bench} {run : LintRun} {next : Option LintRun} {t : LintTicket}
  {live : Option Document} {file : FileDiagnostics} {files : List FileDiagnostics}

/-- What the next step of a run publishes. -/
def tells : LintRun → List Publication
  | .publishing _ _ (file :: _) =>
    if file.isTarget then [] else file.uri?.toList.map fun uri => ⟨uri, file.diagnostics, none⟩
  | .applied t live file _ => [⟨t.uri, file.diagnostics, live.map (·.version)⟩]
  | _ => []

theorem exists_of_step?_publishing
    (h : b.step? (.publishing t live (file :: files)) = some (next, b')) :
    ∃ run', b.publishNext t live file files = (run', b') ∧ next = some run' := by
  have step : b.step? (.publishing t live (file :: files)) =
    some (some (b.publishNext t live file files).1, (b.publishNext t live file files).2) := rfl
  rw [step] at h
  obtain ⟨rfl, rfl⟩ := Prod.mk.inj (Option.some.inj h)
  exact ⟨_, rfl, rfl⟩

/-- A step publishes what it is to publish, and nothing else. -/
theorem publications_of_step? (h : b.step? run = some (next, b')) :
    b'.workspace.publications = b.workspace.publications ++ run.tells := by
  -- All steps before the files are known leave the publications alone.
  have quiet (kept : b'.workspace.kept = b.workspace.kept) :
      b'.workspace.publications = b.workspace.publications ++ [] := by
    rw [List.append_nil]
    exact congrArg Prod.snd kept
  cases run with
  | taken job => exact quiet (step_of_issue (Option.some.inj h)).2
  | issued t => exact quiet (step_of_start (Option.some.inj h)).2
  | waiting t r => exact quiet (step_of_collect? h).2
  | ended t result => exact quiet (step_of_resolve (Option.some.inj h)).2
  | publishing t live files =>
    cases files with
    | nil =>
      obtain ⟨-, rfl⟩ := Prod.mk.inj (Option.some.inj h)
      exact quiet rfl
    | cons file files =>
      obtain ⟨run', hnext, -⟩ := exists_of_step?_publishing h
      obtain ⟨target, -, rfl⟩ | ⟨target, -, -, -, rfl⟩ | ⟨other, -, rfl⟩ := publishNext_cases hnext
      · simp [tells, target]
      · simp [tells, target]
      · rw [tells, other]
        cases file.uri? with
        | none => exact (List.append_nil _).symm
        | some uri => exact Workspace.publications_publish _ _ _ _
  | applied t live file files =>
    obtain ⟨-, rfl⟩ := Prod.mk.inj (Option.some.inj h)
    exact Workspace.publications_publish _ _ _ _

/-- A step that applies a number is one at the document itself. -/
theorem applied_of_step? {uri : Url} (h : b.step? run = some (next, b'))
    (changed : (b'.generations.of uri).applied ≠ (b.generations.of uri).applied) :
    ∃ t live file files, run = .publishing t live (file :: files) ∧ file.isTarget = true ∧
      uri = t.uri := by
  have kept (same : b'.generations = b.generations) : False := changed (by rw [same])
  cases step_of_step? h with
  | finished _ _ same => exact (kept same).elim
  | numbered job path same =>
    rw [same, Generations.issue, Generations.of_set] at changed
    split at changed
    · next self => exact absurd (by rw [self]) changed
    · exact absurd rfl changed
  | went _ _ _ _ _ _ _ _ same => exact (kept same).elim
  | resolved _ _ _ same => exact (kept same).elim
  | passed _ _ _ _ same => exact (kept same).elim
  | published _ _ _ _ same _ => exact (kept same).elim
  | accepted t live file files _ fresh same =>
    obtain ⟨run', hnext, hrun⟩ := exists_of_step?_publishing h
    obtain rfl := Option.some.inj hrun
    obtain ⟨-, ⟨⟩, -⟩ | ⟨target, -, -, -, -⟩ | ⟨-, ⟨⟩, -⟩ := publishNext_cases hnext
    refine ⟨t, live, file, files, rfl, target, ?_⟩
    by_contra other
    rw [same, Generations.tryApply_of_accepts fresh, Generations.of_set, if_neg other] at changed
    exact changed rfl

end LintRun

end SqlLint
