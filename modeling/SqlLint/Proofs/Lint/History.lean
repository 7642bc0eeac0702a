import SqlLint.Lint.Linter

/-!
# Histories of the linter

Workers, the editor and the machine go on side by side.  `Labour` names the steps of workers, `Move`
everything that may happen next, and a history is any list of moves: `Linter.follow?` is the linter
after it.  The events of the linter are moves, or several moves one after the other
(`follow?_movesOf`), so that histories hold all orders in which events and steps may come, also the
steps that workers take while an event is under way.  What a step of a worker does is said once for
each kind of step, in the `_eq_some` lemmas.
-/

namespace SqlLint

/-- What every step preserves holds after any number of them. -/
theorem foldlM_preserves {σ μ : Type} {step? : σ → μ → Option σ} {P : σ → Prop} {s m : σ}
    {h : List μ} (step : ∀ s x s', P s → step? s x = some s' → P s') (hs : P s)
    (hm : h.foldlM step? s = some m) : P m := by
  induction h generalizing s with
  | nil =>
    obtain rfl : s = m := Option.some.inj hm
    exact hs
  | cons x h ih =>
    rw [List.foldlM_cons] at hm
    obtain ⟨s', hx, hm⟩ := Option.bind_eq_some_iff.1 hm
    exact ih (step s x s' hs hx) hm

/-- The last step leads on from where the steps before it led. -/
theorem foldlM_concat_eq_some {σ μ : Type} {step? : σ → μ → Option σ} {s m : σ} {h : List μ} {x : μ}
    (hm : (h ++ [x]).foldlM step? s = some m) :
    ∃ s', h.foldlM step? s = some s' ∧ step? s' x = some m := by
  rw [List.foldlM_append, Option.bind_eq_bind, Option.bind_eq_some_iff] at hm
  obtain ⟨s', hs', hm⟩ := hm
  rw [List.foldlM_cons, Option.bind_eq_bind, Option.bind_eq_some_iff] at hm
  obtain ⟨m', hx, hm⟩ := hm
  exact ⟨s', hs', hx.trans hm⟩

/-- A step of a worker: of that of a lane, of the lint of a project, or of one of its runs. -/
inductive Labour where
  | take (i : Nat)
  | work (i : Nat)
  | look (i : Nat)
  | start (i : Nat)
  | workAt (i j : Nat)
  | leave (i j : Nat)
  deriving DecidableEq, Repr

/-- What may happen next: anything to the workspace besides the linter, a part of an event, or a
step of a worker. -/
inductive Move where
  | elsewhere (w : Workspace)
  | trigger (uri : Url) (source : LintSource) (force : Bool)
  | drop (uri : Url)
  | retire (uri : Url)
  | clear (uri : Url)
  | reset
  | startProject (root : String) (force : Bool)
  | labour (x : Labour)

/-- An event of the linter. -/
inductive Occasion where
  | opened (uri : Url)
  | changed (uri : Url)
  | saved (uri : Url)
  | closed (uri : Url)
  | forced (uri : Url)
  | lintOpen (force : Bool)
  | reset
  deriving DecidableEq, Repr

/-- A document as an editor opens it. -/
def Document.plain : Document where
  uri := ⟨"file", some {}, "/a.sql", none, none⟩
  language := "sql"
  version := 1
  text := "SELECT 1"

namespace Linter

variable {l l' m : Linter} {g h : List Move}

/-- The linter after a step of a worker; none if the worker cannot take it. -/
def labour? (l : Linter) : Labour → Option Linter
  | .take i => l.take? i
  | .work i => l.work? i
  | .look i => l.look? i
  | .start i => l.start? i
  | .workAt i j => l.workAt? i j
  | .leave i j => l.leave? i j

/-- The linter after a move; none if the move cannot be made. -/
def move? (l : Linter) : Move → Option Linter
  | .elsewhere w => some (l.withWorkspace w)
  | .trigger uri source force => some (l.trigger uri source force)
  | .drop uri => some (l.drop uri)
  | .retire uri => some (l.retire uri)
  | .clear uri => some (l.clear uri)
  | .reset => some l.reset
  | .startProject root force => l.startProject root force
  | .labour x => l.labour? x

/-- The linter after a history; none if one of its moves cannot be made. -/
def follow? (l : Linter) (h : List Move) : Option Linter := h.foldlM move? l

theorem follow?_cons (l : Linter) (x : Move) (h : List Move) :
    l.follow? (x :: h) = (l.move? x).bind (·.follow? h) := by
  rw [follow?, List.foldlM_cons]
  rfl

theorem follow?_append (l : Linter) (g h : List Move) :
    l.follow? (g ++ h) = (l.follow? g).bind (·.follow? h) := by
  rw [follow?, List.foldlM_append]
  rfl

theorem follow?_concat (l : Linter) (h : List Move) (x : Move) :
    l.follow? (h ++ [x]) = (l.follow? h).bind (·.move? x) := by
  rw [follow?_append]
  refine congrArg _ (funext fun m => ?_)
  rw [follow?_cons]
  cases m.move? x <;> rfl

/-- A history with one more move comes to where the move leads from where the history came to. -/
theorem follow?_concat_eq_some {x : Move} (hm : l.follow? (h ++ [x]) = some m) :
    ∃ l', l.follow? h = some l' ∧ l'.move? x = some m :=
  foldlM_concat_eq_some hm

/-- What every move preserves holds after every history. -/
theorem follow?_preserves {P : Linter → Prop}
    (step : ∀ l x l', P l → l.move? x = some l' → P l') (hl : P l) (hm : l.follow? h = some m) :
    P m :=
  foldlM_preserves step hl hm

/-! ## Steps of workers -/

/-- The worker of a lane takes a task: the delayer gives it, and it becomes the run of the lane. -/
theorem take?_eq_some {i : Nat} (h : l.take? i = some l') :
    ∃ lane job delayer, l.lanes[i]? = some lane ∧
      lane.delayer.take? l.now = some (job, delayer) ∧
      l' = { l with lanes := l.lanes.set i { lane with delayer, run := some (.taken job) } } := by
  simp only [take?, Option.bind_eq_bind, Option.bind_eq_some_iff] at h
  obtain ⟨lane, hlane, ⟨job, delayer⟩, htake, h⟩ := h
  exact ⟨lane, job, delayer, hlane, htake, (Option.some.inj h).symm⟩

/-- The worker of a lane goes on with its run: the delayer is told when the run is over. -/
theorem work?_eq_some {i : Nat} (h : l.work? i = some l') :
    ∃ lane run run' bench, l.lanes[i]? = some lane ∧ lane.run = some run ∧
      l.bench.step? run = some (run', bench) ∧
      l' = { l with bench, lanes := l.lanes.set i { lane with
        delayer := if run'.isNone then lane.delayer.finish else lane.delayer, run := run' } } := by
  simp only [work?, Option.bind_eq_bind, Option.bind_eq_some_iff] at h
  obtain ⟨lane, hlane, run, hrun, ⟨run', bench⟩, hstep, h⟩ := h
  exact ⟨lane, run, run', bench, hlane, hrun, hstep, (Option.some.inj h).symm⟩

theorem work?_of_step? {i : Nat} {lane : Lane} {run : LintRun} {run' : Option LintRun}
    {bench : Bench} (hlane : l.lanes[i]? = some lane) (hrun : lane.run = some run)
    (hstep : l.bench.step? run = some (run', bench)) :
    l.work? i = some { l with bench, lanes := l.lanes.set i { lane with
      delayer := if run'.isNone then lane.delayer.finish else lane.delayer, run := run' } } := by
  simp only [work?, hlane, hrun, hstep, Option.bind_eq_bind, Option.bind_some]
  rfl

/-- The lint of a project sees that there is room. -/
theorem look?_eq_some {i : Nat} (h : l.look? i = some l') :
    ∃ p, l.projects[i]? = some p ∧ l.inFlight < maxInFlight ∧
      l' = { l with projects := l.projects.set i { p with mayStart := true } } := by
  simp only [look?, Option.bind_eq_bind, Option.bind_eq_some_iff] at h
  obtain ⟨p, hp, h⟩ := h
  split at h
  · simp at h
  · next hroom =>
    simp only [not_or, Nat.not_le] at hroom
    exact ⟨p, hp, hroom.2.2, (Option.some.inj h).symm⟩

/-- The lint of a project passes a file over, or starts a run for it. -/
theorem start?_eq_some {i : Nat} (h : l.start? i = some l') :
    ∃ p path files, l.projects[i]? = some p ∧ p.mayStart = true ∧ p.files = path :: files ∧
      (l.fileDocument? path = none ∧
        l' = { l with projects := l.projects.set i { p with files, mayStart := false } } ∨
      ∃ d, l.fileDocument? path = some d ∧
        l' = { l with
          projects := l.projects.set i { p with
            files, mayStart := false, runs := p.runs ++ [.taken ⟨d, .file, false⟩],
            started := p.started + 1 }
          inFlight := l.inFlight + 1 }) := by
  simp only [start?, Option.bind_eq_bind, Option.bind_eq_some_iff] at h
  obtain ⟨p, hp, h⟩ := h
  split at h
  · simp at h
  · next hmay =>
    split at h
    · simp at h
    · next path files hfiles =>
      refine ⟨p, path, files, hp, by simpa using hmay, hfiles, ?_⟩
      split at h
      · next hd => exact .inl ⟨hd, (Option.some.inj h).symm⟩
      · next d hd => exact .inr ⟨d, hd, (Option.some.inj h).symm⟩

/-- A run of a project is over. -/
theorem leave?_eq_some {i j : Nat} (h : l.leave? i j = some l') :
    ∃ p run, l.projects[i]? = some p ∧ p.runs[j]? = some run ∧
      l' = { l with
        projects := l.projects.set i { p with runs := p.runs.eraseIdx j }
        inFlight := l.inFlight - 1 } := by
  simp only [leave?, Option.bind_eq_bind, Option.bind_eq_some_iff] at h
  obtain ⟨p, hp, run, hrun, h⟩ := h
  exact ⟨p, run, hp, hrun, (Option.some.inj h).symm⟩

/-- A run of a project goes on, or is over with its last step. -/
theorem workAt?_eq_some {i j : Nat} (h : l.workAt? i j = some l') :
    ∃ p run run' bench, l.projects[i]? = some p ∧ p.runs[j]? = some run ∧
      l.bench.step? run = some (run', bench) ∧
      ((∃ r, run' = some r ∧
          l' = { l with bench, projects := l.projects.set i { p with runs := p.runs.set j r } }) ∨
        run' = none ∧ leave? { l with bench } i j = some l') := by
  simp only [workAt?, Option.bind_eq_bind, Option.bind_eq_some_iff] at h
  obtain ⟨p, hp, run, hrun, ⟨run', bench⟩, hstep, h⟩ := h
  refine ⟨p, run, run', bench, hp, hrun, hstep, ?_⟩
  cases run' with
  | none => exact .inr ⟨rfl, h⟩
  | some r => exact .inl ⟨r, rfl, (Option.some.inj h).symm⟩

/-! ## Events -/

/-- The linter after an event. -/
def meet (l : Linter) : Occasion → Linter
  | .opened uri => l.opened uri
  | .changed uri => l.changed uri
  | .saved uri => l.saved uri
  | .closed uri => l.closed uri
  | .forced uri => l.forced uri
  | .lintOpen force => l.lintOpen force
  | .reset => l.reset

/-- The moves that an event is made of, as the documents and the settings stand. -/
def movesOf (l : Linter) : Occasion → List Move
  | .opened uri => [.trigger uri .file false]
  | .changed uri => if l.settings.linter.run = .onType then [.trigger uri .buffer false] else []
  | .saved uri => [.trigger uri .file false]
  | .closed uri => [.drop uri, .retire uri, .clear uri]
  | .forced uri => [.trigger uri (((l.documents.get? uri).map sourceOf).getD .file) true]
  | .lintOpen force => l.documents.map fun d => .trigger d.uri (sourceOf d) force
  | .reset => [.reset]

theorem follow?_map_trigger (l : Linter) (ds : Documents) (force : Bool) :
    l.follow? (ds.map fun d => .trigger d.uri (sourceOf d) force) =
      some (ds.foldl (fun l d => l.trigger d.uri (sourceOf d) force) l) := by
  induction ds generalizing l with
  | nil => rfl
  | cons d ds ih =>
    rw [List.map_cons, follow?_cons, List.foldl_cons]
    exact ih _

/-- An event is its moves, one after the other with nothing between them. -/
theorem follow?_movesOf (l : Linter) (o : Occasion) : l.follow? (l.movesOf o) = some (l.meet o) := by
  cases o with
  | opened uri => rfl
  | changed uri =>
    simp only [movesOf, meet, changed]
    split <;> rfl
  | saved uri => rfl
  | closed uri => rfl
  | forced uri =>
    simp only [movesOf, meet, forced]
    cases l.documents.get? uri <;> rfl
  | lintOpen force => exact follow?_map_trigger l _ force
  | reset => rfl

/-! ## Beginnings -/

/-- A machine where the tool writes a text and ends well. -/
def writing (text : String) : Machine where
  start _ _ _ _ := .ok { exit := ⟨some 0, [Text.Utf8.encode text], []⟩ }

/-- The report of the file that the tool was given, without violations. -/
def ownReport : String := "[\x7b\x7d]\n"

/-- A linter at a machine that has linted nothing yet and lints open documents without delay. -/
def eager (machine : Machine) (documents : Documents) : Linter where
  bench.workspace := {
    machine
    config.settings.linter.delay := 0
    documents }

end Linter

end SqlLint
