import SqlLint.Lint.Run
import SqlLint.Proofs.Workspace.Given

/-!
# How the tool answers a lint

`LintOutcome` lists the ways in which a lint that was asked for can end, and `LintOutcome.lines` what
there is to read then: the output of a command that ended with an exit code for success, or the
violations that the dbt server found.  A run of the tool has the lines of its outcome if it succeeded
(`outcome?_of_begin_over`, `isOf_finish`).
-/

namespace SqlLint

open Text

/-- How a lint that was asked for ended: it made no sense; the dbt server failed or found violations;
the file is ignored; the command could not be started, or ended. -/
inductive LintOutcome where
  | rejected (e : InvocationError)
  | refused (e : RemoteError)
  | answered (path : Option String) (violations : Json)
  | ignored
  | notStarted (e : OsError)
  | exited (e : Exit)

namespace LintOutcome

/-- The tool did its work; a command that a signal ended has no exit code. -/
def succeeded : LintOutcome → Bool
  | answered _ _ => true
  | exited e => e.code.any isSuccess
  | _ => false

/-- What the tool found, line by line. -/
def lines : LintOutcome → List String
  | answered path violations => [(Workspace.remoteReport path violations).compress]
  | exited e =>
    if e.code.any isSuccess then (LineStream.linesOf e.output).map String.ofList else []
  | _ => []

end LintOutcome

/-- The result that a run has with an outcome. -/
def RunResult.IsOf (result : RunResult) (o : LintOutcome) : Prop :=
  result.succeeded = o.succeeded ∧ (o.succeeded = true → result.lines = o.lines)

namespace Workspace

/-- The outcome of a lint at the dbt server. -/
def remoteOutcome (w : Workspace) (c : Config) (t : Target) : LintOutcome :=
  let request := remoteRequest c t
  let w := w.note (remoteAnnouncement c .lint request)
  match (Remote.lint w.machine c.settings.dbt request).1 with
  | .error e => .refused e
  | .ok violations => .answered request.path violations

/-- The outcome of a lint when its command is to be started, none if the command runs. -/
def localOutcome? (w : Workspace) (c : Config) (i : Invocation) (t : Target) : Option LintOutcome :=
  let relative := t.path?.map fun path => targetPath path c.workingDirectory?
  let arguments := w.arguments c i t relative
  let w := w.note (announcement c t arguments)
  if w.isIgnored t relative then some .ignored
  else match w.machine.spawn (w.command c arguments t.contents?) with
    | .error e => some (.notStarted e)
    | .ok _ => none

/-- The outcome of a lint when it is asked for, none if a command runs. -/
def outcome? (w : Workspace) (i : Invocation) : Option LintOutcome :=
  match i.validate with
  | .error e => some (.rejected e)
  | .ok t =>
    if w.settings.dbt.enabled then some (w.remoteOutcome w.config t)
    else w.localOutcome? w.config i t

variable {w w' : Workspace} {i : Invocation} {r : Running} {result : RunResult}

theorem isOf_runRemote (w : Workspace) (c : Config) (t : Target) :
    (w.runRemote c .lint t).1.IsOf (w.remoteOutcome c t) := by
  unfold runRemote remoteOutcome
  dsimp only
  generalize w.note (remoteAnnouncement c .lint (remoteRequest c t)) = v
  obtain ⟨e | violations, machine⟩ := Remote.lint v.machine c.settings.dbt (remoteRequest c t)
  · exact ⟨rfl, fun h => by cases h⟩
  · exact ⟨rfl, fun _ => rfl⟩

theorem localOutcome?_of_over {c : Config} {t : Target}
    (h : w.beginLocal c i t = (.over result, w')) :
    ∃ o, w.localOutcome? c i t = some o ∧ result.IsOf o := by
  unfold beginLocal at h
  unfold localOutcome?
  dsimp only at h ⊢
  generalize t.path?.map (fun path => targetPath path c.workingDirectory?) = relative at h ⊢
  generalize w.arguments c i t relative = arguments at h ⊢
  generalize w.note (announcement c t arguments) = v at h ⊢
  split at h
  · next ignored =>
    obtain ⟨rfl⟩ := (Prod.mk.inj h).1
    exact ⟨.ignored, by rw [if_pos ignored], rfl, fun h => by cases h⟩
  · next heeded =>
    rw [if_neg heeded]
    -- That the file is ignored no longer makes no difference to the command.
    have same : (((relative.map v.unignore).getD v).machine.spawn
        (((relative.map v.unignore).getD v).command c arguments t.contents?)) =
        v.machine.spawn (v.command c arguments t.contents?) := by
      cases relative <;> rfl
    rw [same] at h
    split at h
    · next e spawned =>
      obtain ⟨rfl⟩ := (Prod.mk.inj h).1
      exact ⟨.notStarted e, by rw [spawned], rfl, fun h => by cases h⟩
    · cases (Prod.mk.inj h).1

/-- A lint that is over when it was asked for has an outcome. -/
theorem outcome?_of_begin_over (lint : i.kind = .lint)
    (h : w.begin i = .ok (.over result, w')) : ∃ o, w.outcome? i = some o ∧ result.IsOf o := by
  rw [begin_eq] at h
  unfold outcome?
  cases hv : i.validate with
  | error e =>
    rw [hv] at h
    cases h
  | ok t =>
    simp only [hv] at h ⊢
    split at h
    · next remote =>
      obtain ⟨⟨rfl⟩, -⟩ := Prod.mk.inj (Except.ok.inj h)
      rw [lint, if_pos remote]
      exact ⟨_, rfl, isOf_runRemote w _ _⟩
    · next off =>
      rw [if_neg off]
      exact localOutcome?_of_over (Except.ok.inj h)

/-- A lint whose command ended has the outcome that it ended with. -/
theorem isOf_finish (w : Workspace) (lint : r.kind = .lint) (e : Exit) :
    (w.finish r e).1.IsOf (.exited e) := by
  unfold finish
  dsimp only
  rw [lint]
  cases hcode : e.code with
  | none =>
    have failed : (LintOutcome.exited e).succeeded = false := by simp [LintOutcome.succeeded, hcode]
    exact ⟨failed.symm, fun h => by rw [failed] at h; cases h⟩
  | some code =>
    refine ⟨by simp [LintOutcome.succeeded, hcode], fun h => ?_⟩
    rw [LintOutcome.succeeded] at h
    rw [LintOutcome.lines, if_pos h]
    rfl

end Workspace

end SqlLint
