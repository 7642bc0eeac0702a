import Mathlib
import SqlLint.Proofs.Lint.Lanes

/-!
# How many lints the projects make at a time

The lint of a project looks for room and only then starts the lint of its next file; in between,
other projects may start lints of theirs on what they saw.  What can happen to the lint of a project
in a move is said by `ProjectLint.Step`.  From it follows that the number of lints in flight is that
of the lints which were started and are not over, whatever way they end, and that it exceeds the
ceiling at most by one for each project (`IsCounted`).  `inFlight_le_maxInFlight_iff` says what the
ceiling rests on: it holds if, and only if, there is still room whenever a lint is started.
-/

namespace SqlLint

namespace ProjectLint

/-- What may happen to the lint of the project with an index while the linter makes a move and the
number of lints in flight goes from `n` to `n'`: it sees room, it passes a file over, it starts a
lint, one of its lints goes on, or one of them is over. -/
inductive Step (x : Move) (i n n' : Nat) (p : ProjectLint) : ProjectLint → Prop where
  | seen : n < maxInFlight → n' = n → Step x i n n' p { p with mayStart := true }
  | passed (files : List String) : p.mayStart = true → n' = n →
      Step x i n n' p { p with files, mayStart := false }
  | started (files : List String) (run : LintRun) : x = .labour (.start i) → p.mayStart = true →
      n' = n + 1 → Step x i n n' p { p with
        files, mayStart := false, runs := p.runs ++ [run], started := p.started + 1 }
  | went (j : Nat) (run : LintRun) : n' = n → Step x i n n' p { p with runs := p.runs.set j run }
  | left (j : Nat) : j < p.runs.length → n' = n - 1 →
      Step x i n n' p { p with runs := p.runs.eraseIdx j }

variable {x : Move} {i n n' : Nat} {p p' : ProjectLint}

/-- The number of lints in flight changes as that of the lints of the project does. -/
theorem Step.runs_length (h : Step x i n n' p p') (counted : p.runs.length ≤ n) :
    p'.runs.length + n = p.runs.length + n' := by
  cases h with
  | seen _ same => rw [same]
  | passed _ _ same => rw [same]
  | started files run _ _ more =>
    rw [List.length_append, List.length_singleton, more]
    omega
  | went j run same => rw [List.length_set, same]
  | left j hj =>
    have fewer := List.length_eraseIdx_of_lt hj
    show (p.runs.eraseIdx j).length + n = _
    omega

/-- A lint is started only on room that was seen, and there is room when it is seen. -/
theorem Step.mayStart_toNat (h : Step x i n n' p p') :
    n' < maxInFlight ∨ n' + p'.mayStart.toNat ≤ n + p.mayStart.toNat := by
  cases h with
  | seen hroom same => exact .inl (same ▸ hroom)
  | passed files _ same => exact .inr (same ▸ Nat.add_le_add_left (Nat.zero_le _) _)
  | started files run _ hmay more =>
    right
    rw [hmay, more]
    exact Nat.le_refl (n + 1)
  | went j run same => exact .inr (same ▸ Nat.le_refl _)
  | left j _ fewer => exact .inr (Nat.add_le_add_right (fewer ▸ Nat.sub_le n 1) _)

/-- The number of lints in flight grows only with a lint that is started, and then by one. -/
theorem Step.inFlight_le (h : Step x i n n' p p') :
    n' ≤ n ∨ x = .labour (.start i) ∧ n' = n + 1 := by
  cases h with
  | seen _ same => exact .inl (Nat.le_of_eq same)
  | passed _ _ same => exact .inl (Nat.le_of_eq same)
  | started files run hx _ more => exact .inr ⟨hx, more⟩
  | went j run same => exact .inl (Nat.le_of_eq same)
  | left j _ fewer => exact .inl (fewer ▸ Nat.sub_le ..)

end ProjectLint

namespace Linter

variable {l l' m : Linter} {x : Move} {h : List Move} {i j : Nat}

/-- How many lints of the projects were started and are not over. -/
def unfinished (l : Linter) : Nat := (l.projects.flatMap (·.runs)).length

/-- How many projects have not seen room since they last started a lint. -/
def unsighted (l : Linter) : Nat := l.projects.countP (! ·.mayStart)

theorem unfinished_eq_zero_iff (l : Linter) :
    l.unfinished = 0 ↔ ∀ p ∈ l.projects, p.runs = [] := by
  rw [unfinished, List.length_eq_zero_iff, List.flatMap_eq_nil_iff]

/-- What a move does to the projects: nothing, one more project, or something to one of them. -/
inductive ProjectsStep (l l' : Linter) (x : Move) : Prop where
  | same : l'.projects = l.projects → l'.inFlight = l.inFlight → ProjectsStep l l' x
  | added (files : List String) : l'.projects = l.projects ++ [⟨files, false, [], 0⟩] →
      l'.inFlight = l.inFlight → ProjectsStep l l' x
  | one (i : Nat) (p p' : ProjectLint) : l.projects[i]? = some p →
      l'.projects = l.projects.set i p' → p.Step x i l.inFlight l'.inFlight p' →
      ProjectsStep l l' x

theorem projectsStep_of_labour? {x : Labour} (hx : l.labour? x = some l') :
    ProjectsStep l l' (.labour x) := by
  cases x with
  | take i =>
    obtain ⟨lane, job, delayer, -, -, rfl⟩ := take?_eq_some hx
    exact .same rfl rfl
  | work i =>
    obtain ⟨lane, run, run', bench, -, -, -, rfl⟩ := work?_eq_some hx
    exact .same rfl rfl
  | look i =>
    obtain ⟨p, hp, hroom, rfl⟩ := look?_eq_some hx
    exact .one i p _ hp rfl (.seen hroom rfl)
  | start i =>
    obtain ⟨p, path, files, hp, hmay, -, ⟨-, rfl⟩ | ⟨d, -, rfl⟩⟩ := start?_eq_some hx
    · exact .one i p _ hp rfl (.passed files hmay rfl)
    · exact .one i p _ hp rfl (.started files _ rfl hmay rfl)
  | workAt i j =>
    obtain ⟨p, run, run', bench, hp, -, -, ⟨r, -, rfl⟩ | ⟨-, hleave⟩⟩ := workAt?_eq_some hx
    · exact .one i p _ hp rfl (.went j r rfl)
    · obtain ⟨p, run, hp, hrun, rfl⟩ := leave?_eq_some hleave
      exact .one i p _ hp rfl (.left j (List.getElem?_eq_some_iff.1 hrun).1 rfl)
  | leave i j =>
    obtain ⟨p, run, hp, hrun, rfl⟩ := leave?_eq_some hx
    exact .one i p _ hp rfl (.left j (List.getElem?_eq_some_iff.1 hrun).1 rfl)

theorem trigger_projects (l : Linter) (uri : Url) (source : LintSource) (force : Bool) :
    (l.trigger uri source force).projects = l.projects ∧
      (l.trigger uri source force).inFlight = l.inFlight := by
  obtain h | ⟨d, -, h⟩ := trigger_cases l uri source force
  · rw [h]
    exact ⟨rfl, rfl⟩
  · rw [h, enqueue]
    split <;> exact ⟨rfl, rfl⟩

theorem projectsStep_of_move? (hx : l.move? x = some l') : ProjectsStep l l' x := by
  cases x with
  | labour x => exact projectsStep_of_labour? hx
  | startProject root force =>
    simp only [move?, startProject] at hx
    split at hx
    · cases hx
    · obtain rfl := Option.some.inj hx
      exact .added _ rfl rfl
  | trigger uri source force =>
    obtain rfl := Option.some.inj hx
    obtain ⟨projects, inFlight⟩ := trigger_projects l uri source force
    exact .same projects inFlight
  | clear uri =>
    obtain rfl := Option.some.inj hx
    rw [clear]
    split <;> exact .same rfl rfl
  | elsewhere w =>
    obtain rfl := Option.some.inj hx
    exact .same rfl rfl
  | drop uri =>
    obtain rfl := Option.some.inj hx
    exact .same rfl rfl
  | retire uri =>
    obtain rfl := Option.some.inj hx
    exact .same rfl rfl
  | reset =>
    obtain rfl := Option.some.inj hx
    exact .same rfl rfl

/-! ## The number of lints in flight -/

/-- The number of lints in flight is that of the lints that were started and are not over.  A project
that has seen room may raise it once without looking again, so that this is not counted among the
room that is left. -/
structure IsCounted (l : Linter) : Prop where
  inFlight_eq : l.inFlight = l.unfinished
  inFlight_lt : l.inFlight < maxInFlight + l.unsighted

theorem isCounted_of_nil (noProjects : l.projects = []) (zero : l.inFlight = 0) : l.IsCounted where
  inFlight_eq := by simp [zero, unfinished, noProjects]
  inFlight_lt := by simp [zero, unsighted, noProjects, maxInFlight]

/-- With one project changed, the number of lints that are not over changes as that of its lints. -/
theorem unfinished_of_set {p p' : ProjectLint} (hp : l.projects[i]? = some p)
    (hset : l'.projects = l.projects.set i p') :
    l'.unfinished + p.runs.length = l.unfinished + p'.runs.length := by
  obtain ⟨hi, rfl⟩ := List.getElem?_eq_some_iff.1 hp
  obtain ⟨before, after, old, -, new⟩ : ∃ before after,
      l.projects = before ++ l.projects[i] :: after ∧ before.length = i ∧
        l.projects.set i p' = before ++ p' :: after := List.exists_of_set hi
  rw [unfinished, unfinished, hset, new]
  conv_rhs => rw [old]
  simp only [List.flatMap_append, List.flatMap_cons, List.length_append]
  omega

theorem runs_length_le_unfinished {p : ProjectLint} (hp : l.projects[i]? = some p) :
    p.runs.length ≤ l.unfinished := by
  obtain ⟨before, after, all⟩ := List.append_of_mem (List.mem_of_getElem? hp)
  rw [unfinished, all]
  simp only [List.flatMap_append, List.flatMap_cons, List.length_append]
  omega

theorem IsCounted.move? (counted : l.IsCounted) (hx : l.move? x = some l') : l'.IsCounted := by
  cases projectsStep_of_move? hx with
  | same projects inFlight =>
    constructor
    · rw [inFlight, unfinished, projects]
      exact counted.inFlight_eq
    · rw [inFlight, unsighted, projects]
      exact counted.inFlight_lt
  | added files projects inFlight =>
    constructor
    · rw [inFlight, unfinished, projects]
      simpa [unfinished] using counted.inFlight_eq
    · have before := counted.inFlight_lt
      rw [inFlight, unsighted, projects, List.countP_append]
      exact Nat.lt_of_lt_of_le before (Nat.add_le_add_left (Nat.le_add_right ..) _)
  | one i p p' hp projects step =>
    constructor
    · have sum := unfinished_of_set hp projects
      have mine := runs_length_le_unfinished hp
      have each := step.runs_length (counted.inFlight_eq ▸ mine)
      have before := counted.inFlight_eq
      omega
    -- A lint that is started leaves its project without sight of room, which makes up for it.
    · obtain room | kept := step.mayStart_toNat
      · exact Nat.lt_add_right _ room
      · have before : l.inFlight < maxInFlight + l.projects.countP (! ·.mayStart) :=
          counted.inFlight_lt
        obtain ⟨hi, rfl⟩ := List.getElem?_eq_some_iff.1 hp
        rw [unsighted, projects, List.countP_set hi]
        cases hold : l.projects[i].mayStart <;> cases hnew : p'.mayStart <;>
          simp only [hold, hnew, Bool.toNat_true, Bool.toNat_false] at kept <;>
          simp only [Bool.not_true, Bool.not_false, Bool.false_eq_true, if_true, if_false] <;>
          omega

theorem isCounted_of_follow? (noProjects : l.projects = []) (zero : l.inFlight = 0)
    (hm : l.follow? h = some m) : m.IsCounted :=
  follow?_preserves (fun _ _ _ counted hx => counted.move? hx) (isCounted_of_nil noProjects zero) hm

/-- The lints of one project alone stay below the ceiling. -/
theorem IsCounted.inFlight_le_of_one (counted : l.IsCounted) (one : l.projects.length ≤ 1) :
    l.inFlight ≤ maxInFlight := by
  have below := counted.inFlight_lt
  have atMost : l.unsighted ≤ l.projects.length := List.countP_le_length
  omega

theorem inFlight_le_of_move? (hx : l.move? x = some l') :
    l'.inFlight ≤ l.inFlight ∨ ∃ i, x = .labour (.start i) ∧ l'.inFlight = l.inFlight + 1 := by
  cases projectsStep_of_move? hx with
  | same _ inFlight => exact .inl (Nat.le_of_eq inFlight)
  | added _ _ inFlight => exact .inl (Nat.le_of_eq inFlight)
  | one i p p' _ _ step =>
    obtain le | ⟨rfl, more⟩ := step.inFlight_le
    · exact .inl le
    · exact .inr ⟨i, rfl, more⟩

/-- In every moment of a history, the number of lints in flight is that of the lints of projects that
were started and are not over, which is none exactly if they all have ended, and it exceeds the
ceiling at most by one for each project that saw room before.  It never exceeds the ceiling if, and
only if, there is still room whenever a lint is started. -/
theorem inFlight_le_maxInFlight_iff (noProjects : l.projects = []) (zero : l.inFlight = 0)
    (h : List Move) :
    (∀ p q, p <+: h → l.follow? p = some q →
      q.inFlight = q.unfinished ∧ (q.inFlight = 0 ↔ ∀ r ∈ q.projects, r.runs = []) ∧
        q.inFlight < maxInFlight + q.unsighted) ∧
    ((∀ p q, p <+: h → l.follow? p = some q → q.inFlight ≤ maxInFlight) ↔
      ∀ p q q' i, p ++ [.labour (.start i)] <+: h → l.follow? p = some q → q.start? i = some q' →
        q.inFlight < q'.inFlight → q.inFlight < maxInFlight) := by
  refine ⟨fun p q _ hq => ?_, ?_, ?_⟩
  · have counted := isCounted_of_follow? noProjects zero hq
    refine ⟨counted.inFlight_eq, ?_, counted.inFlight_lt⟩
    rw [counted.inFlight_eq, unfinished_eq_zero_iff]
  · intro below p q q' i hpre hq hstart more
    have hq' : l.follow? (p ++ [.labour (.start i)]) = some q' := by
      rw [follow?_concat, hq]
      exact hstart
    exact Nat.lt_of_lt_of_le more (below _ q' hpre hq')
  -- By induction on the history: a start keeps the ceiling as it was made on room, and no other
  -- move adds to the lints in flight.
  · intro room p
    induction p using List.reverseRecOn with
    | nil =>
      rintro q - hq
      obtain rfl : l = q := Option.some.inj hq
      exact zero ▸ Nat.zero_le _
    | append_singleton p x ih =>
      intro q' hpre hq'
      obtain ⟨q, hq, hx⟩ := follow?_concat_eq_some hq'
      have before := ih q ((List.prefix_append p [x]).trans hpre) hq
      obtain le | ⟨i, rfl, more⟩ := inFlight_le_of_move? hx
      · exact Nat.le_trans le before
      · have below := room p q q' i hpre hq hx (by omega)
        omega

/-- A linter at a machine with one SQL file, which is open. -/
def withOneFile : Linter := eager { files := [(["a.sql"], .file [] false)] } [.plain]

/-- The lint of the project is asked for six times; all six look for room before the first of them
starts a lint. -/
def sixProjects : List Move :=
  List.replicate 6 (.startProject "/" true) ++ (List.range 6).map (fun i => .labour (.look i)) ++
    (List.range 6).map fun i => .labour (.start i)

theorem inFlight_le_maxInFlight_iff_sixProjects :
    withOneFile.projects = [] ∧ withOneFile.inFlight = 0 ∧
    (∀ p q, p <+: sixProjects → withOneFile.follow? p = some q →
      q.inFlight = q.unfinished ∧ (q.inFlight = 0 ↔ ∀ r ∈ q.projects, r.runs = []) ∧
        q.inFlight < maxInFlight + q.unsighted) ∧
    ((∀ p q, p <+: sixProjects → withOneFile.follow? p = some q → q.inFlight ≤ maxInFlight) ↔
      ∀ p q q' i, p ++ [.labour (.start i)] <+: sixProjects → withOneFile.follow? p = some q →
        q.start? i = some q' → q.inFlight < q'.inFlight → q.inFlight < maxInFlight) :=
  ⟨rfl, rfl, inFlight_le_maxInFlight_iff rfl rfl sixProjects⟩

/-- Six lints are in flight when six projects have looked for room at a time. -/
theorem inFlight_six :
    ∃ m, withOneFile.follow? sixProjects = some m ∧ m.inFlight = 6 ∧ maxInFlight < m.inFlight := by
  have after : (withOneFile.follow? sixProjects).map inFlight = some 6 := by cbv
  obtain ⟨m, hm, six⟩ := Option.map_eq_some_iff.1 after
  exact ⟨m, hm, six, by rw [six]; decide⟩

end Linter

end SqlLint
