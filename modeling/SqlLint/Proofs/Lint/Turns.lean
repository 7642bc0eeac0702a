import Mathlib.Data.List.Perm.Basic
import SqlLint.Proofs.Lint.Lanes

/-!
# Runs over histories

`Linter.runs` are all lints on their way, of lanes and of projects.  In a move one of them may take a
step (`Linter.moving?`); or none does, and then at most a new one begins and one is given up
(`Linter.turn_of_move?`).  `Linter.trace` is what was noted of the moves of a history.
-/

namespace SqlLint

namespace Linter

variable {l l' m : Linter} {x : Move} {h : List Move} {lane lane' : Lane} {i j : Nat}

/-- The lints on their way. -/
def runs (l : Linter) : List LintRun :=
  l.lanes.flatMap (·.run.toList) ++ l.projects.flatMap (·.runs)

/-- The run that takes a step in a move. -/
def moving? (l : Linter) : Move → Option LintRun
  | .labour (.work i) => (l.lanes[i]?).bind (·.run)
  | .labour (.workAt i j) => (l.projects[i]?).bind (·.runs[j]?)
  | _ => none

/-- What is noted of the moves of a history. -/
def trace {α : Type} (note : Linter → Move → Option α) (l : Linter) : List Move → List α
  | [] => []
  | x :: h => (note l x).toList ++ ((l.move? x).map fun l' => trace note l' h).getD []

theorem trace_concat {α : Type} (note : Linter → Move → Option α)
    (hm : l.follow? h = some m) (x : Move) :
    trace note l (h ++ [x]) = trace note l h ++ (note m x).toList := by
  induction h generalizing l with
  | nil =>
    obtain rfl : l = m := Option.some.inj hm
    cases hx : l.move? x <;> simp [trace, hx]
  | cons y h ih =>
    rw [follow?_cons] at hm
    obtain ⟨l', hy, hm⟩ := Option.bind_eq_some_iff.1 hm
    rw [List.cons_append, trace, trace, hy, Option.map_some, Option.getD_some, ih hm,
      Option.map_some, Option.getD_some, List.append_assoc]

/-! ## Runs of one lane and of one project -/

theorem flatMap_set_perm {α β : Type} {as : List α} {a : α} (f : α → List β)
    (h : as[i]? = some a) :
    ∃ rest, (as.flatMap f).Perm (f a ++ rest) ∧
      ∀ a', ((as.set i a').flatMap f).Perm (f a' ++ rest) := by
  obtain ⟨hi, rfl⟩ := List.getElem?_eq_some_iff.1 h
  refine ⟨(as.eraseIdx i).flatMap f, ?_, fun a' => ?_⟩
  · exact ((List.getElem_cons_eraseIdx_perm hi).flatMap_right f).symm
  · exact (List.set_perm_cons_eraseIdx hi a').flatMap_right f

/-- The runs are those of one lane and the others. -/
theorem runs_perm_of_lane (hlane : l.lanes[i]? = some lane) :
    ∃ rest, l.runs.Perm (lane.run.toList ++ rest) ∧
      ∀ lane', ({ l with lanes := l.lanes.set i lane' } : Linter).runs.Perm
        (lane'.run.toList ++ rest) := by
  obtain ⟨rest, old, new⟩ := flatMap_set_perm (fun lane : Lane => lane.run.toList) hlane
  refine ⟨rest ++ l.projects.flatMap (·.runs), ?_, fun lane' => ?_⟩
  · exact (old.append_right _).trans (by rw [List.append_assoc])
  · exact ((new lane').append_right _).trans (by rw [List.append_assoc])

/-- The runs are those of one project and the others. -/
theorem runs_perm_of_project {p : ProjectLint} (hp : l.projects[i]? = some p) :
    ∃ rest, l.runs.Perm (p.runs ++ rest) ∧
      ∀ p', ({ l with projects := l.projects.set i p' } : Linter).runs.Perm (p'.runs ++ rest) := by
  obtain ⟨rest, old, new⟩ := flatMap_set_perm (fun p : ProjectLint => p.runs) hp
  refine ⟨l.lanes.flatMap (·.run.toList) ++ rest, ?_, fun p' => ?_⟩
  · exact (old.append_left _).trans (List.perm_append_comm_assoc _ _ _)
  · exact ((new p').append_left _).trans (List.perm_append_comm_assoc _ _ _)

/-- The runs are one of a project and the others. -/
theorem runs_perm_of_run {p : ProjectLint} {run : LintRun} (hp : l.projects[i]? = some p)
    (hrun : p.runs[j]? = some run) :
    ∃ rest, l.runs.Perm (run :: rest) ∧
      (∀ r, ({ l with projects := l.projects.set i { p with runs := p.runs.set j r } } :
        Linter).runs.Perm (r :: rest)) ∧
      ({ l with projects := l.projects.set i { p with runs := p.runs.eraseIdx j } } :
        Linter).runs.Perm rest := by
  obtain ⟨rest, old, new⟩ := runs_perm_of_project hp
  obtain ⟨hj, rfl⟩ := List.getElem?_eq_some_iff.1 hrun
  refine ⟨p.runs.eraseIdx j ++ rest, ?_, fun r => ?_, new _⟩
  · exact old.trans ((List.getElem_cons_eraseIdx_perm hj).symm.append_right rest)
  · exact (new _).trans ((List.set_perm_cons_eraseIdx hj r).append_right rest)

theorem runs_of_map (l : Linter) {f : Lane → Lane} (hf : ∀ lane, (f lane).run = lane.run) :
    ({ l with lanes := l.lanes.map f } : Linter).runs = l.runs := by
  simp [runs, List.flatMap_map, hf]

theorem runs_trigger (l : Linter) (uri : Url) (source : LintSource) (force : Bool) :
    (l.trigger uri source force).runs = l.runs := by
  obtain h | ⟨d, -, h⟩ := l.trigger_cases uri source force
  · rw [h]
  · rw [h]
    unfold enqueue
    split
    · exact l.runs_of_map fun lane => by split <;> rfl
    · simp [runs]

/-! ## Moves -/

/-- In a move one run takes a step; or none does, and then numbers change only by retiring, and at
most a run is given up and a new one begins. -/
inductive Turn (l l' : Linter) (x : Move) : Prop where
  | step (run : LintRun) (next : Option LintRun) (rest : List LintRun) :
      l.moving? x = some run → l.bench.step? run = some (next, l'.bench) →
      l.runs.Perm (run :: rest) → l'.runs.Perm (next.toList ++ rest) → Turn l l' x
  | other (old new rest : List LintRun) : l.moving? x = none →
      (l'.bench.generations = l.bench.generations ∨
        ∃ uri, l'.bench.generations = l.bench.generations.retire uri) →
      (∀ run ∈ new, ∃ job, run = .taken job) →
      l.runs.Perm (old ++ rest) → l'.runs.Perm (new ++ rest) → Turn l l' x

theorem turn_of_runs_eq (idle : l.moving? x = none)
    (numbers : l'.bench.generations = l.bench.generations ∨
      ∃ uri, l'.bench.generations = l.bench.generations.retire uri)
    (hruns : l'.runs = l.runs) : Turn l l' x :=
  .other [] [] l.runs idle numbers (by simp) (.refl _) (by rw [hruns]; exact .refl _)

theorem turn_of_labour? {y : Labour} (hy : l.labour? y = some l') : Turn l l' (.labour y) := by
  cases y with
  | take i =>
    obtain ⟨lane, job, delayer, hlane, -, rfl⟩ := take?_eq_some hy
    obtain ⟨rest, old, new⟩ := runs_perm_of_lane hlane
    exact .other lane.run.toList [.taken job] rest rfl (.inl rfl) (by simp) old (new _)
  | work i =>
    obtain ⟨lane, run, run', bench, hlane, hrun, hstep, rfl⟩ := work?_eq_some hy
    obtain ⟨rest, old, new⟩ := runs_perm_of_lane hlane
    rw [hrun] at old
    exact .step run run' rest (by simp [moving?, hlane, hrun]) hstep old (new _)
  | look i =>
    obtain ⟨p, hp, -, rfl⟩ := look?_eq_some hy
    obtain ⟨rest, old, new⟩ := runs_perm_of_project hp
    exact .other [] [] (p.runs ++ rest) rfl (.inl rfl) (by simp) old (new _)
  | start i =>
    obtain ⟨p, path, files, hp, -, -, ⟨-, rfl⟩ | ⟨d, -, rfl⟩⟩ := start?_eq_some hy
    · obtain ⟨rest, old, new⟩ := runs_perm_of_project hp
      exact .other [] [] (p.runs ++ rest) rfl (.inl rfl) (by simp) old (new _)
    · obtain ⟨rest, old, new⟩ := runs_perm_of_project hp
      refine .other [] [.taken ⟨d, .file, false⟩] (p.runs ++ rest) rfl (.inl rfl) (by simp) old ?_
      refine (new _).trans ?_
      rw [List.append_assoc]
      exact List.perm_append_comm_assoc _ _ _
  | workAt i j =>
    obtain ⟨p, run, run', bench, hp, hrun, hstep, h⟩ := workAt?_eq_some hy
    obtain ⟨rest, old, set, erase⟩ := runs_perm_of_run hp hrun
    have moving : l.moving? (.labour (.workAt i j)) = some run := by simp [moving?, hp, hrun]
    obtain ⟨r, rfl, rfl⟩ | ⟨rfl, h⟩ := h
    · exact .step run (some r) rest moving hstep old (set r)
    · obtain ⟨p', run', hp', -, rfl⟩ := leave?_eq_some h
      obtain rfl : p = p' := Option.some.inj (hp.symm.trans hp')
      exact .step run none rest moving hstep old erase
  | leave i j =>
    obtain ⟨p, run, hp, hrun, rfl⟩ := leave?_eq_some hy
    obtain ⟨rest, old, -, erase⟩ := runs_perm_of_run hp hrun
    exact .other [run] [] rest rfl (.inl rfl) (by simp) old erase

/-- What happens to the runs in a move. -/
theorem turn_of_move? (hx : l.move? x = some l') : Turn l l' x := by
  cases x with
  | elsewhere w =>
    obtain rfl := Option.some.inj hx
    exact turn_of_runs_eq rfl (.inl rfl) rfl
  | trigger uri source force =>
    obtain rfl := Option.some.inj hx
    exact turn_of_runs_eq rfl (.inl (by rw [bench_trigger])) (l.runs_trigger uri source force)
  | drop uri =>
    obtain rfl := Option.some.inj hx
    exact turn_of_runs_eq rfl (.inl rfl) (l.runs_of_map fun lane => by split <;> rfl)
  | retire uri =>
    obtain rfl := Option.some.inj hx
    exact turn_of_runs_eq rfl (.inr ⟨uri, rfl⟩) rfl
  | clear uri =>
    obtain rfl := Option.some.inj hx
    unfold clear
    split
    · exact turn_of_runs_eq rfl (.inl rfl) rfl
    · exact turn_of_runs_eq rfl (.inl rfl) rfl
  | reset =>
    obtain rfl := Option.some.inj hx
    exact turn_of_runs_eq rfl (.inl rfl) (l.runs_of_map fun _ => rfl)
  | startProject root force =>
    simp only [move?, startProject] at hx
    split at hx
    · cases hx
    · obtain rfl := Option.some.inj hx
      exact turn_of_runs_eq rfl (.inl rfl) (by simp [runs])
  | labour y => exact turn_of_labour? hx

end Linter

end SqlLint
