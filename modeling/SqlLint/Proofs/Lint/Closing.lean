import Mathlib.Data.List.Infix
import SqlLint.Proofs.Lint.Overtaking
import SqlLint.Proofs.Lint.Publishing

/-!
# Lints that outlive their document

When a document is closed its lane is given up, the numbers issued for it count as applied, and its
diagnostics are cleared.  What the lane then still lints should publish nothing any more, also after
the document was opened again.  `publishes_iff_of_closed` says in which cases, and in no others, it
does (`Outlives`): its number was accepted before the closing was over; or it had no number yet when
the numbers were retired, and then found the document open again; or it found something in another
file.
-/

namespace SqlLint

namespace LintRun

variable {b b' : Bench} {run : LintRun} {t : LintTicket} {live : Option Document}
  {file : FileDiagnostics} {files : List FileDiagnostics}

/-- The files whose diagnostics a run is still to publish. -/
def remaining : LintRun → List FileDiagnostics
  | .publishing _ _ files => files
  | _ => []

/-- The number of the run was accepted, and the diagnostics are still to be published. -/
def isAccepted (run : LintRun) : Bool := run.outstanding?.isSome

theorem exists_of_isAccepted (h : run.isAccepted = true) :
    ∃ t live file files, run = .applied t live file files := by
  cases run with
  | applied t live file files => exact ⟨t, live, file, files, rfl⟩
  | _ => cases h

/-- What publishes something is at another file, or at the document, whose number was accepted. -/
theorem cases_of_tells (h : run.tells ≠ []) :
    (∃ t live file files other, run = .publishing t live (file :: files) ∧
      file.isTarget = false ∧ file.uri? = some other) ∨
    ∃ t live file files, run = .applied t live file files := by
  cases run with
  | publishing t live files =>
    cases files with
    | nil => exact absurd rfl h
    | cons file files =>
      cases target : file.isTarget with
      | true => exact absurd (by simp [tells, target]) h
      | false =>
        cases huri : file.uri? with
        | none => exact absurd (by simp [tells, huri]) h
        | some other => exact .inl ⟨t, live, file, files, other, rfl, target, huri⟩
  | applied t live file files => exact .inr ⟨t, live, file, files, rfl⟩
  | _ => exact absurd rfl h

/-- A number that was accepted was so in the last step, at the document itself. -/
theorem publishing_of_applied
    (h : b.step? run = some (some (.applied t live file files), b')) :
    run = .publishing t live (file :: files) ∧ file.isTarget = true ∧ t.isClosed live = false ∧
      (b.generations.of t.uri).applied < t.generation := by
  generalize hnext : some (LintRun.applied t live file files) = next at h
  cases step_of_step? h with
  | finished => cases hnext
  | numbered => cases hnext
  | went _ run' _ _ _ _ quiet =>
    obtain rfl := Option.some.inj hnext
    cases quiet
  | resolved => cases hnext
  | passed => cases hnext
  | published => cases hnext
  | accepted t' live' file' files' isOpen fresh =>
    obtain ⟨rfl, rfl, rfl, rfl⟩ := LintRun.applied.inj (Option.some.inj hnext)
    refine ⟨rfl, ?_, isOpen, Generations.applied_lt_of_accepts fresh⟩
    obtain ⟨run', hnext, hrun⟩ := exists_of_step?_publishing h
    obtain rfl := Option.some.inj hrun
    obtain ⟨-, ⟨⟩, -⟩ | ⟨target, -⟩ | ⟨-, ⟨⟩, -⟩ := publishNext_cases hnext
    exact target

/-- A number is accepted at the document itself, if it is open and the number is new. -/
theorem step?_of_fresh {next : Option LintRun} (target : file.isTarget = true)
    (isOpen : t.isClosed live = false) (fresh : (b.generations.of t.uri).applied < t.generation)
    (h : b.step? (.publishing t live (file :: files)) = some (next, b')) :
    next = some (.applied t live file files) := by
  obtain ⟨run', hnext, rfl⟩ := exists_of_step?_publishing h
  have accepts : b.generations.accepts t.uri t.generation = true := decide_eq_true fresh
  rw [Bench.publishNext, if_pos target, isOpen, Generations.tryApply, if_pos accepts] at hnext
  exact congrArg some (Prod.mk.inj hnext).1.symm

end LintRun

namespace Linter

variable {l l' m m' q l₀ l₁ l₂ l₃ l₄ : Linter} {x : Move} {g h j k p : List Move} {lane : Lane}
  {i : Nat} {uri : Url} {run : LintRun}

/-- The lint that a lane makes. -/
def runAt? (l : Linter) (i : Nat) : Option LintRun := (l.lanes[i]?).bind (·.run)

theorem runAt?_drop (l : Linter) (uri : Url) (i : Nat) : (l.drop uri).runAt? i = l.runAt? i := by
  rw [runAt?, drop, List.getElem?_map, Option.bind_map, runAt?]
  refine congrArg _ (funext fun lane => ?_)
  rw [Function.comp_apply]
  split <;> rfl

theorem runAt?_clear (l : Linter) (uri : Url) (i : Nat) : (l.clear uri).runAt? i = l.runAt? i := by
  rw [runAt?, lanes_of_clear, runAt?]

/-- The lane of a document was given up. -/
structure IsGivenUp (l : Linter) (i : Nat) (uri : Url) : Prop where
  orderly : l.IsOrderly
  numbered : l.IsNumbered
  lane : ∃ lane, l.lanes[i]? = some lane ∧ lane.uri = uri ∧ lane.isClosed = true

/-- In a history the worker of a lane takes a step that publishes something. -/
def Publishes (l : Linter) (i : Nat) (h : List Move) : Prop :=
  ∃ p q q', p ++ [.labour (.work i)] <+: h ∧ l.follow? p = some q ∧
    q.move? (.labour (.work i)) = some q' ∧
    q'.workspace.publications ≠ q.workspace.publications

/-- In which cases a lane still publishes something in the history after its document was closed, of
which `l` is the linter when the numbers were retired and `m` the linter when the closing was over:
its number was accepted by then; or it had no number when the numbers were retired, then saw that
the document is open, and its number is accepted; or it found something in another file. -/
inductive Outlives (l m : Linter) (i : Nat) (uri : Url) (h : List Move) : Prop where
  | accepted {t : LintTicket} {live : Option Document} {file : FileDiagnostics}
      {files : List FileDiagnostics} : m.runAt? i = some (.applied t live file files) →
      .labour (.work i) ∈ h → Outlives l m i uri h
  | reopened {job : LintJob} {p r : List Move} {q : Linter} {t : LintTicket} {d : Document}
      {file : FileDiagnostics} {files : List FileDiagnostics} :
      l.runAt? i = some (.taken job) →
      h = p ++ .labour (.work i) :: r → .labour (.work i) ∈ r → m.follow? p = some q →
      q.runAt? i = some (.publishing t (some d) (file :: files)) → file.isTarget = true →
      (l.bench.generations.of uri).issued < t.generation →
      (q.bench.generations.of uri).applied < t.generation → Outlives l m i uri h
  | elsewhere {p : List Move} {q : Linter} {t : LintTicket} {live : Option Document}
      {file : FileDiagnostics} {files : List FileDiagnostics} {other : Url} :
      p ++ [.labour (.work i)] <+: h → m.follow? p = some q →
      q.runAt? i = some (.publishing t live (file :: files)) → file.isTarget = false →
      file.uri? = some other → Outlives l m i uri h

/-! ## The lint of a lane that was given up -/

theorem IsGivenUp.move? (given : l.IsGivenUp i uri) (hx : l.move? x = some l') :
    l'.IsGivenUp i uri := by
  obtain ⟨lane, hlane, huri, hclosed⟩ := given.lane
  obtain ⟨lane', hlane', step⟩ := exists_lane_of_move? hx hlane
  exact ⟨given.orderly.move? hx, (given.numbered.move? hx).2, lane', hlane',
    step.uri_eq.trans huri, step.isClosed hclosed⟩

theorem IsGivenUp.follow? (given : l.IsGivenUp i uri) (hm : l.follow? h = some m) :
    m.IsGivenUp i uri :=
  follow?_preserves (P := fun m => m.IsGivenUp i uri) (fun _ _ _ given hx => given.move? hx) given
    hm

/-- What the lane lints is the document, of which it publishes nothing if it is closed. -/
theorem IsGivenUp.job (given : l.IsGivenUp i uri) (hrun : l.runAt? i = some run) :
    run.job.uri = uri ∧ run.job.mustBeOpen = true := by
  obtain ⟨lane, hlane, hrun⟩ := Option.bind_eq_some_iff.1 hrun
  obtain ⟨lane', hlane', huri, -⟩ := given.lane
  obtain rfl : lane = lane' := Option.some.inj (hlane.symm.trans hlane')
  exact huri ▸ (given.orderly.lanes lane (List.mem_of_getElem? hlane)).runs run hrun

theorem IsGivenUp.uri_eq {t : LintTicket} (given : l.IsGivenUp i uri) (hrun : l.runAt? i = some run)
    (ticket : run.ticket? = some t) : t.uri = uri := by
  have own := (given.job hrun).1
  rwa [LintRun.job_of_ticket? ticket] at own

theorem IsGivenUp.le_issued {t : LintTicket} (given : l.IsGivenUp i uri)
    (hrun : l.runAt? i = some run) (ticket : run.ticket? = some t) :
    t.generation ≤ (l.bench.generations.of uri).issued := by
  obtain ⟨lane, hlane, hlint⟩ := Option.bind_eq_some_iff.1 hrun
  have mem : run ∈ l.runs := List.mem_append_left _
    (List.mem_flatMap.2 ⟨lane, List.mem_of_getElem? hlane, by simp [hlint]⟩)
  exact given.uri_eq hrun ticket ▸ given.numbered.runs run mem t ticket

/-- The lint goes on in the steps of its worker. -/
theorem exists_step_of_work (hx : l.move? (.labour (.work i)) = some l') :
    ∃ run next, l.runAt? i = some run ∧ l.bench.step? run = some (next, l'.bench) ∧
      l'.runAt? i = next := by
  obtain ⟨lane, run, next, bench, hlane, hrun, hstep, rfl⟩ := work?_eq_some hx
  refine ⟨run, next, by simp [runAt?, hlane, hrun], hstep, ?_⟩
  simp [runAt?, (List.getElem?_eq_some_iff.1 hlane).1]

/-- In all other moves it stays as it is. -/
theorem IsGivenUp.runAt?_of_ne (given : l.IsGivenUp i uri) (hx : l.move? x = some l')
    (other : x ≠ .labour (.work i)) : l'.runAt? i = l.runAt? i := by
  obtain ⟨lane, hlane, -, hclosed⟩ := given.lane
  obtain ⟨lane', hlane', step⟩ := exists_lane_of_move? hx hlane
  rw [runAt?, runAt?, hlane, hlane', Option.bind_some, Option.bind_some]
  cases step with
  | same => rfl
  | given => rfl
  | closed => rfl
  | taken job delayer _ htake =>
    rw [(Lane.isClosed_of_take? htake).1] at hclosed
    cases hclosed
  | worked run next hwork => exact absurd hwork other

theorem IsGivenUp.runAt?_of_not_mem (given : l.IsGivenUp i uri) (hq : l.follow? p = some q)
    (still : .labour (.work i) ∉ p) : q.runAt? i = l.runAt? i := by
  induction p using List.reverseRecOn generalizing q with
  | nil =>
    obtain rfl : l = q := Option.some.inj hq
    rfl
  | append_singleton p x ih =>
    obtain ⟨m, hm, hx⟩ := follow?_concat_eq_some hq
    rw [List.mem_append, not_or, List.mem_singleton] at still
    rw [(given.follow? hm).runAt?_of_ne hx (Ne.symm still.2), ih hm still.1]

/-- A lane that was given up makes no other lint: what it makes it made from the beginning, with the
number that it had then, if any. -/
theorem IsGivenUp.exists_of_follow? (given : l.IsGivenUp i uri) (hq : l.follow? p = some q)
    (hrun : q.runAt? i = some run) :
    ∃ first, l.runAt? i = some first ∧ ∀ t, first.ticket? = some t → run.ticket? = some t := by
  induction p using List.reverseRecOn generalizing q run with
  | nil =>
    obtain rfl : l = q := Option.some.inj hq
    exact ⟨run, hrun, fun _ => id⟩
  | append_singleton p x ih =>
    obtain ⟨m, hm, hx⟩ := follow?_concat_eq_some hq
    by_cases work : x = .labour (.work i)
    · subst work
      obtain ⟨before, next, hbefore, hstep, hnext⟩ := exists_step_of_work hx
      obtain rfl : next = some run := hnext.symm.trans hrun
      obtain ⟨first, hfirst, keeps⟩ := ih hm hbefore
      exact ⟨first, hfirst, fun t ht =>
        (LintRun.step_of_step? hstep).ticket?_eq (keeps t ht)⟩
    · rw [(given.follow? hm).runAt?_of_ne hx work] at hrun
      exact ih hm hrun

/-- A number that is accepted in the end was so from the beginning, or it was accepted in a step of
the worker and nothing of it was published since. -/
theorem IsGivenUp.cases_of_applied {t : LintTicket} {live : Option Document}
    {file : FileDiagnostics} {files : List FileDiagnostics} (given : l.IsGivenUp i uri)
    (hq : l.follow? p = some q) (hrun : q.runAt? i = some (.applied t live file files)) :
    l.runAt? i = some (.applied t live file files) ∨
    ∃ p' r m, p = p' ++ .labour (.work i) :: r ∧ l.follow? p' = some m ∧
      m.runAt? i = some (.publishing t live (file :: files)) ∧ file.isTarget = true ∧
      t.isClosed live = false ∧ (m.bench.generations.of t.uri).applied < t.generation := by
  induction p using List.reverseRecOn generalizing q with
  | nil =>
    obtain rfl : l = q := Option.some.inj hq
    exact .inl hrun
  | append_singleton p x ih =>
    obtain ⟨m, hm, hx⟩ := follow?_concat_eq_some hq
    by_cases work : x = .labour (.work i)
    · subst work
      obtain ⟨before, next, hbefore, hstep, hnext⟩ := exists_step_of_work hx
      obtain rfl : next = some (.applied t live file files) := hnext.symm.trans hrun
      obtain ⟨rfl, target, isOpen, fresh⟩ := LintRun.publishing_of_applied hstep
      exact .inr ⟨p, [], m, rfl, hm, hbefore, target, isOpen, fresh⟩
    · rw [(given.follow? hm).runAt?_of_ne hx work] at hrun
      obtain first | ⟨p', r, m', rfl, rest⟩ := ih hm hrun
      · exact .inl first
      · exact .inr ⟨p', r ++ [x], m', by simp, rest⟩

/-! ## Steps that publish -/

theorem exists_move?_of_prefix (hm : l.follow? h = some m) (within : p ++ [x] <+: h)
    (hq : l.follow? p = some q) : ∃ q', q.move? x = some q' := by
  obtain ⟨r, rfl⟩ := within
  rw [List.append_assoc, follow?_append, hq, Option.bind_some, List.singleton_append, follow?_cons]
    at hm
  obtain ⟨q', hq', -⟩ := Option.bind_eq_some_iff.1 hm
  exact ⟨q', hq'⟩

theorem publishes_of_tells (hm : l.follow? h = some m) (within : p ++ [.labour (.work i)] <+: h)
    (hq : l.follow? p = some q) (hrun : q.runAt? i = some run) (tells : run.tells ≠ []) :
    l.Publishes i h := by
  obtain ⟨q', hx⟩ := exists_move?_of_prefix hm within hq
  obtain ⟨run', next, hrun', hstep, -⟩ := exists_step_of_work hx
  obtain rfl : run = run' := Option.some.inj (hrun.symm.trans hrun')
  refine ⟨p, q, q', within, hq, hx, fun same => tells ?_⟩
  have more := (LintRun.publications_of_step? hstep).symm.trans same
  exact List.append_right_eq_self.1 more

/-- What was accepted is published in the next step of the worker. -/
theorem IsGivenUp.publishes_of_applied {t : LintTicket} {live : Option Document}
    {file : FileDiagnostics} {files : List FileDiagnostics} {r : List Move}
    (given : l.IsGivenUp i uri) (hm : l.follow? h = some m) (split : h = p ++ r)
    (hq : l.follow? p = some q) (hrun : q.runAt? i = some (.applied t live file files))
    (goesOn : .labour (.work i) ∈ r) : l.Publishes i h := by
  obtain ⟨before, after, rfl, still⟩ := List.eq_append_cons_of_mem goesOn
  have whole : l.follow? (p ++ before) = q.follow? before := by
    rw [follow?_append, hq, Option.bind_some]
  obtain ⟨q', hq'⟩ : ∃ q', l.follow? (p ++ before) = some q' := by
    rw [split, ← List.append_assoc, follow?_append] at hm
    obtain ⟨q', hq', -⟩ := Option.bind_eq_some_iff.1 hm
    exact ⟨q', hq'⟩
  have hrun' : q'.runAt? i = some (.applied t live file files) :=
    ((given.follow? hq).runAt?_of_not_mem (whole ▸ hq') still).trans hrun
  refine publishes_of_tells hm ⟨after, ?_⟩ hq' hrun' (List.cons_ne_nil _ _)
  simp [split]

/-! ## Closing -/

/-- All lanes of a document are given up when it is dropped. -/
theorem isClosed_of_drop (hlane : (l.drop uri).lanes[i]? = some lane) (huri : lane.uri = uri) :
    lane.isClosed = true := by
  have h : (l.lanes.map fun lane => if lane.serves uri then lane.close else lane)[i]? =
    some lane := hlane
  rw [List.getElem?_map] at h
  obtain ⟨old, -, hold⟩ := Option.map_eq_some_iff.1 h
  split at hold
  · exact hold ▸ rfl
  · next notServes =>
    subst hold
    simpa [Lane.serves, huri] using notServes

theorem isGivenUp_drop (fresh : l₀.IsFresh) (h₁ : l₀.follow? g = some l₁)
    (hlane : l₁.lanes[i]? = some lane) : (l₁.drop lane.uri).IsGivenUp i lane.uri := by
  have hdrop : l₁.move? (.drop lane.uri) = some (l₁.drop lane.uri) := rfl
  obtain ⟨lane₁, hlane₁, step⟩ := exists_lane_of_move? hdrop hlane
  exact ⟨(isOrderly_of_follow? fresh.lanes h₁).move? hdrop,
    ((fresh.isNumbered.follow? h₁).2.move? hdrop).2, lane₁, hlane₁, step.uri_eq,
    isClosed_of_drop hlane₁ step.uri_eq⟩

/-- The document of a lane is being closed: `l` is the linter when its numbers are retired, after the
lane was given up, and `m` is the linter when the closing is over. -/
structure IsClosing (l m : Linter) (i : Nat) (uri : Url) : Prop where
  given : l.IsGivenUp i uri
  ended : ∃ j l₃, (l.retire uri).follow? j = some l₃ ∧ m = l₃.clear uri

theorem IsClosing.exists_follow? (closing : IsClosing l m i uri) :
    ∃ j, (l.retire uri).follow? j = some m := by
  obtain ⟨j, l₃, h₃, rfl⟩ := closing.ended
  refine ⟨j ++ [.clear uri], ?_⟩
  rw [follow?_concat, h₃]
  rfl

theorem IsClosing.isGivenUp_retire (closing : IsClosing l m i uri) :
    (l.retire uri).IsGivenUp i uri :=
  closing.given.move? (x := .retire uri) rfl

theorem IsClosing.isGivenUp (closing : IsClosing l m i uri) : m.IsGivenUp i uri := by
  obtain ⟨j, hj⟩ := closing.exists_follow?
  exact closing.isGivenUp_retire.follow? hj

/-- A number that is new once the document was closed was issued after the numbers were retired, to
a lint that had none then. -/
theorem IsClosing.exists_taken {t : LintTicket} (closing : IsClosing l m i uri)
    (hq : m.follow? p = some q) (hrun : q.runAt? i = some run) (ticket : run.ticket? = some t)
    (fresh : (q.bench.generations.of uri).applied < t.generation) :
    (l.bench.generations.of uri).issued < t.generation ∧ ∃ job, l.runAt? i = some (.taken job) := by
  obtain ⟨j, hj⟩ := closing.exists_follow?
  have whole : (l.retire uri).follow? (j ++ p) = some q := by
    rw [follow?_append, hj, Option.bind_some, hq]
  have late : (l.bench.generations.of uri).issued < t.generation := by
    have grows := ((closing.isGivenUp_retire.numbered.follow? whole).1 uri).2
    have retired : ((l.retire uri).bench.generations.of uri).applied =
        (l.bench.generations.of uri).issued :=
      congrArg Generation.applied (Generations.of_retire l.bench.generations uri)
    omega
  obtain ⟨first, hfirst, keeps⟩ := closing.isGivenUp_retire.exists_of_follow? whole hrun
  have hfirst : l.runAt? i = some first := hfirst
  refine ⟨late, ?_⟩
  cases hticket : first.ticket? with
  | some t' =>
    obtain rfl : t = t' := Option.some.inj (ticket.symm.trans (keeps t' hticket))
    exact absurd (closing.given.le_issued hfirst hticket) (Nat.not_le.2 late)
  | none =>
    cases first with
    | taken job => exact ⟨job, hfirst⟩
    | _ => cases hticket

/-- What is published of the document was accepted before the closing was over, or was found open
again. -/
theorem IsClosing.outlives_of_applied {t : LintTicket} {live : Option Document}
    {file : FileDiagnostics} {files : List FileDiagnostics} (closing : IsClosing l m i uri)
    (within : p ++ [.labour (.work i)] <+: h) (hq : m.follow? p = some q)
    (hrun : q.runAt? i = some (.applied t live file files)) : Outlives l m i uri h := by
  obtain ⟨r, rfl⟩ := within
  obtain first | ⟨p', r', q', rfl, hq', hbefore, target, isOpen, fresh⟩ :=
    closing.isGivenUp.cases_of_applied hq hrun
  · exact .accepted first (by simp)
  · have given := closing.isGivenUp.follow? hq'
    have must : t.job.mustBeOpen = true := (given.job hbefore).2
    obtain ⟨d, rfl⟩ : ∃ d, live = some d := by
      simpa [LintTicket.isClosed, must, Option.isSome_iff_exists] using isOpen
    rw [given.uri_eq hbefore rfl] at fresh
    obtain ⟨late, job, htaken⟩ := closing.exists_taken hq' hbefore rfl fresh
    have split : p' ++ .labour (.work i) :: r' ++ [.labour (.work i)] ++ r =
        p' ++ .labour (.work i) :: (r' ++ .labour (.work i) :: r) := by simp
    exact .reopened htaken split (by simp) hq' hbefore target late fresh

theorem IsClosing.outlives (closing : IsClosing l m i uri) (publishes : m.Publishes i h) :
    Outlives l m i uri h := by
  obtain ⟨p, q, q', within, hq, hx, more⟩ := publishes
  obtain ⟨run, next, hrun, hstep, -⟩ := exists_step_of_work hx
  have tells : run.tells ≠ [] := by
    intro silent
    refine more ((LintRun.publications_of_step? hstep).trans ?_)
    rw [silent, List.append_nil]
    rfl
  obtain ⟨t, live, file, files, other, rfl, target, huri⟩ | ⟨t, live, file, files, rfl⟩ :=
    LintRun.cases_of_tells tells
  · exact .elsewhere within hq hrun target huri
  · exact closing.outlives_of_applied within hq hrun

theorem IsClosing.publishes (closing : IsClosing l m i uri) (hm : m.follow? h = some m')
    (outlives : Outlives l m i uri h) : m.Publishes i h := by
  cases outlives with
  | accepted first goesOn =>
    exact closing.isGivenUp.publishes_of_applied hm (p := []) rfl rfl first goesOn
  | @reopened job p r q t d file files _ split goesOn hq hrun target _ fresh =>
    have within : p ++ [.labour (.work i)] <+: h := ⟨r, by simp [split]⟩
    obtain ⟨q', hx⟩ := exists_move?_of_prefix hm within hq
    obtain ⟨run, next, hrun', hstep, hnext⟩ := exists_step_of_work hx
    obtain rfl := Option.some.inj (hrun.symm.trans hrun')
    rw [← (closing.isGivenUp.follow? hq).uri_eq hrun rfl] at fresh
    rw [LintRun.step?_of_fresh target (by simp [LintTicket.isClosed]) fresh hstep] at hnext
    have hq' : m.follow? (p ++ [.labour (.work i)]) = some q' := by
      rw [follow?_concat, hq, Option.bind_some, hx]
    exact closing.isGivenUp.publishes_of_applied hm (split.trans (by simp)) hq' hnext goesOn
  | elsewhere within hq hrun target other =>
    exact publishes_of_tells hm within hq hrun (by simp [LintRun.tells, target, other])

/-- A document is closed: its lane is given up, its numbers are retired, and its diagnostics are
cleared, perhaps with other moves in between.  In the history that follows, in which it may be opened
again, the lanes it had publish something if, and only if, one of their lints outlives it. -/
theorem publishes_iff_of_closed (fresh : l₀.IsFresh) (h₁ : l₀.follow? g = some l₁)
    (hlane : l₁.lanes[i]? = some lane) (h₂ : (l₁.drop lane.uri).follow? k = some l₂)
    (h₃ : (l₂.retire lane.uri).follow? j = some l₃)
    (h₄ : (l₃.clear lane.uri).follow? h = some l₄) :
    (l₃.clear lane.uri).Publishes i h ↔ Outlives l₂ (l₃.clear lane.uri) i lane.uri h := by
  have closing : IsClosing l₂ (l₃.clear lane.uri) i lane.uri :=
    ⟨(isGivenUp_drop fresh h₁ hlane).follow? h₂, j, l₃, h₃, rfl⟩
  exact ⟨closing.outlives, closing.publishes h₄⟩

/-- A document is opened, and the lint of it goes on until its number was accepted. -/
def acceptedOnce : List Move :=
  [.trigger Document.plain.uri .file false, .labour (.take 0)] ++
    List.replicate 5 (.labour (.work 0))

/-- A lint whose number was accepted before its document was closed publishes its diagnostics after
that. -/
theorem publishes_iff_of_closed_accepted :
    ∃ l₁ lane l₂, (eager (writing ownReport) [.plain]).follow? acceptedOnce = some l₁ ∧
      l₁.lanes[0]? = some lane ∧
      (((l₁.drop lane.uri).retire lane.uri).clear lane.uri).follow? [.labour (.work 0)] = some l₂ ∧
      (((l₁.drop lane.uri).retire lane.uri).clear lane.uri).Publishes 0 [.labour (.work 0)] := by
  have possible : ((eager (writing ownReport) [.plain]).follow? (acceptedOnce ++
      [.drop Document.plain.uri, .retire Document.plain.uri, .clear Document.plain.uri,
        .labour (.work 0)])).isSome = true := by
    decide +kernel
  have found : ((eager (writing ownReport) [.plain]).follow? acceptedOnce).any (fun l =>
      l.lanes[0]?.any fun lane => lane.uri = Document.plain.uri ∧ lane.run.any (·.isAccepted)) =
      true := by
    decide +kernel
  obtain ⟨l₁, h₁, found⟩ := (Option.any_eq_true _ _).1 found
  obtain ⟨lane, hlane, found⟩ := (Option.any_eq_true _ _).1 found
  obtain ⟨huri, found⟩ := of_decide_eq_true found
  obtain ⟨run, hlint, accepted⟩ := (Option.any_eq_true _ _).1 found
  obtain ⟨t, live, file, files, rfl⟩ := LintRun.exists_of_isAccepted accepted
  rw [follow?_append, h₁, Option.bind_some, ← huri] at possible
  obtain ⟨l₂, h₂⟩ := Option.isSome_iff_exists.1 possible
  have hrun : (((l₁.drop lane.uri).retire lane.uri).clear lane.uri).runAt? 0 =
      some (.applied t live file files) := by
    rw [runAt?_clear]
    refine (runAt?_drop l₁ lane.uri 0).trans ?_
    rw [runAt?, hlane, Option.bind_some, hlint]
  exact ⟨l₁, lane, l₂, h₁, hlane, h₂,
    (publishes_iff_of_closed (isFresh_eager _ _) h₁ hlane (k := []) rfl (j := []) rfl h₂).2
      (.accepted hrun (by simp))⟩

/-- What a lint found in another file is published, whether its document is open or not. -/
theorem workspace_of_other {t : LintTicket} {live : Option Document} {file : FileDiagnostics}
    {files : List FileDiagnostics} {other : Url}
    (hrun : l.runAt? i = some (.publishing t live (file :: files))) (hfile : file.isTarget = false)
    (hother : file.uri? = some other) :
    ∃ l', l.move? (.labour (.work i)) = some l' ∧
      l'.workspace = l.workspace.publish other file.diagnostics none := by
  obtain ⟨lane, hlane, hrun⟩ := Option.bind_eq_some_iff.1 hrun
  have hstep : l.bench.step? (.publishing t live (file :: files)) =
      some (some (.publishing t live files),
        { l.bench with workspace := l.bench.workspace.publish other file.diagnostics none }) := by
    rw [Bench.step?, Bench.publishNext, if_neg (by simp [hfile]), hother]
    rfl
  exact ⟨_, work?_of_step? hlane hrun hstep, rfl⟩

/-- A document is opened and closed, perhaps opened again, with steps of its first worker before
and after. -/
def closedAfter (text : String) (before after : Nat) (reopen : Bool) (d : Document) : List Move :=
  [.trigger d.uri .file false, .labour (.take 0)] ++
  List.replicate before (.labour (.work 0)) ++
  [.elsewhere (eager (writing text) []).workspace, .drop d.uri, .retire d.uri, .clear d.uri] ++
  (if reopen then
    [.elsewhere (eager (writing text) [d]).workspace, .trigger d.uri .file false] else []) ++
  List.replicate after (.labour (.work 0))

/-- A report of another file, without violations. -/
def otherReport : String := "[\x7b\"filepath\":\"/b\"\x7d]\n"

/-- A lint that began before its document was closed finds something in another file. -/
theorem exists_other_of_closedAfter :
    ∃ l t live file,
      (eager (writing otherReport) [.plain]).follow? (closedAfter otherReport 1 3 false .plain) =
        some l ∧ l.runAt? 0 = some (.publishing t live [file]) ∧ file.path = "/b" ∧
      file.isTarget = false ∧ file.diagnostics = [] := by
  have found : ((eager (writing otherReport) [.plain]).follow?
      (closedAfter otherReport 1 3 false .plain)).map (fun l => (l.runAt? 0).map fun run =>
        run.remaining.map fun file => (file.path, file.isTarget, file.diagnostics.isEmpty)) =
      some (some [("/b", false, true)]) := by
    decide +kernel
  obtain ⟨l, hl, found⟩ := Option.map_eq_some_iff.1 found
  obtain ⟨run, hrun, found⟩ := Option.map_eq_some_iff.1 found
  obtain ⟨t, live, hpublishing⟩ : ∃ t live, run = .publishing t live run.remaining := by
    cases run with
    | publishing t live files => exact ⟨t, live, rfl⟩
    | _ => cases found
  obtain ⟨file, hfile, found⟩ := List.map_eq_singleton_iff.1 found
  simp only [Prod.mk.injEq, List.isEmpty_iff] at found
  refine ⟨l, t, live, file, hl, ?_, found⟩
  rw [hrun, hpublishing, hfile]

/-- After a document was closed a lint of it that gets its number only then publishes its diagnostics
if the document was opened again; one whose number was accepted before publishes them; and a lint
publishes what it found in another file. -/
theorem published_after_closing :
    (((eager (writing ownReport) [.plain]).follow? (closedAfter ownReport 0 5 true .plain)).map
      fun l => l.publication? Document.plain.uri (.labour (.work 0))) = some (some 1) ∧
    (((eager (writing ownReport) [.plain]).follow? (closedAfter ownReport 5 0 false .plain)).map
      fun l => l.publication? Document.plain.uri (.labour (.work 0))) = some (some 1) ∧
    ∃ l l', (eager (writing otherReport) [.plain]).follow? (closedAfter otherReport 1 3 false .plain) =
        some l ∧
      l.move? (.labour (.work 0)) = some l' ∧
      l'.workspace = l.workspace.publish ⟨"file", some {}, "/b", none, none⟩ [] none := by
  refine ⟨by decide +kernel, by decide +kernel, ?_⟩
  obtain ⟨l, t, live, file, hl, hrun, hpath, hfile, hnone⟩ := exists_other_of_closedAfter
  have huri : file.uri? = some ⟨"file", some {}, "/b", none, none⟩ := by
    rw [FileDiagnostics.uri?, hpath]
    cbv
  obtain ⟨l', hl', hw⟩ := workspace_of_other hrun hfile huri
  exact ⟨l, l', hl, hl', hnone ▸ hw⟩

end Linter

end SqlLint
