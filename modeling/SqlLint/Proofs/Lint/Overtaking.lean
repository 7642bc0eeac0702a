import Mathlib.Data.List.Induction
import Mathlib.Data.List.Sort
import SqlLint.Proofs.Lint.Numbers

/-!
# The order in which results are published

`Linter.acceptances` and `Linter.publications` are the numbers of a document that were accepted and
published in a history, in this order.  Numbers are accepted in increasing order, and what is
published was accepted; but accepting and publishing are two steps, and between them another lint
can overtake.  `publications_pairwise_iff` says that the numbers published increase if, and only if,
none overtakes: they are published in the order in which they were accepted.
-/

namespace SqlLint

/-- The number with which diagnostics of a document were accepted that are still to be published. -/
def LintRun.pendingNumber? (uri : Url) (run : LintRun) : Option Nat :=
  (run.outstanding?.filter (·.uri = uri)).map (·.generation)

namespace Linter

variable {l l' m : Linter} {x : Move} {h : List Move} {uri : Url} {A P : List Nat}

/-- The number of a document that is accepted in a move. -/
def acceptance? (uri : Url) (l : Linter) (x : Move) : Option Nat := do
  let run ← l.moving? x
  let (next, _) ← l.bench.step? run
  (← next).pendingNumber? uri

/-- The number of a document whose diagnostics are published in a move. -/
def publication? (uri : Url) (l : Linter) (x : Move) : Option Nat := do
  (← l.moving? x).pendingNumber? uri

/-- The numbers of a document accepted in a history. -/
def acceptances (l : Linter) (h : List Move) (uri : Url) : List Nat := l.trace (acceptance? uri) h

/-- The numbers of a document published in a history. -/
def publications (l : Linter) (h : List Move) (uri : Url) : List Nat :=
  l.trace (publication? uri) h

/-- A move that publishes a number tells the editor diagnostics of the document. -/
theorem events_of_publication? {n : Nat} (hx : l.move? x = some l')
    (published : l.publication? uri x = some n) :
    ∃ diagnostics version, l'.workspace = l.workspace.publish uri diagnostics version := by
  obtain ⟨run, moving, pending⟩ := Option.bind_eq_some_iff.1 published
  cases turn_of_move? hx with
  | step run' next rest moving' hstep =>
    obtain rfl : run = run' := Option.some.inj (moving.symm.trans moving')
    cases LintRun.step_of_step? hstep with
    | published t live file files _ hw =>
      have huri : t.uri = uri := by
        by_contra hne
        simp [LintRun.pendingNumber?, LintRun.outstanding?, Option.filter, hne] at pending
      exact ⟨_, _, huri ▸ hw⟩
    | finished _ quiet => simp [LintRun.pendingNumber?, quiet] at pending
    | went _ _ _ _ _ quiet => simp [LintRun.pendingNumber?, quiet] at pending
    | numbered => simp [LintRun.pendingNumber?, LintRun.outstanding?] at pending
    | resolved => simp [LintRun.pendingNumber?, LintRun.outstanding?] at pending
    | passed => simp [LintRun.pendingNumber?, LintRun.outstanding?] at pending
    | accepted => simp [LintRun.pendingNumber?, LintRun.outstanding?] at pending
  | other _ _ _ idle =>
    rw [idle] at moving
    cases moving

/-- The numbers accepted increase up to the last one applied, and with the numbers that are still to
be published those published are among them. -/
structure Accounts (l : Linter) (uri : Url) (A P : List Nat) : Prop where
  increasing : A.Pairwise (· < ·)
  applied : ∀ n ∈ A, n ≤ (l.bench.generations.of uri).applied
  pending : List.Subperm (P ++ l.runs.filterMap (·.pendingNumber? uri)) A

end Linter

/-- What a step of a run does to the numbers of a document: it accepts at most one, greater than all
applied before. -/
theorem LintRun.Step.applied {b b' : Bench} {run : LintRun} {next : Option LintRun}
    (h : Step b b' run next) (uri : Url) :
    ∀ n ∈ next.bind (·.pendingNumber? uri),
      (b.generations.of uri).applied < n ∧ n ≤ (b'.generations.of uri).applied := by
  cases h with
  | finished => simp
  | numbered => simp [pendingNumber?, outstanding?]
  | went _ _ _ _ _ _ quiet => simp [pendingNumber?, quiet]
  | resolved => simp [pendingNumber?, outstanding?]
  | passed => simp [pendingNumber?, outstanding?]
  | accepted t live file files _ fresh hg =>
    rintro n hn
    by_cases huri : t.uri = uri
    · subst huri
      obtain rfl : t.generation = n := by
        simpa [pendingNumber?, outstanding?, Option.filter] using hn
      rw [hg, Generations.of_tryApply fresh]
      exact ⟨Generations.applied_lt_of_accepts fresh, Nat.le_refl _⟩
    · simp [pendingNumber?, outstanding?, Option.filter, huri] at hn
  | published => simp [pendingNumber?, outstanding?]

namespace Linter

variable {l l' m : Linter} {x : Move} {h : List Move} {uri : Url} {A P : List Nat}

theorem IsFresh.accounts (fresh : l.IsFresh) (uri : Url) : l.Accounts uri [] [] where
  increasing := .nil
  applied := by simp
  pending := by simp [fresh.runs]

theorem filterMap_toList_append (f : LintRun → Option Nat) (next : Option LintRun)
    (rest : List LintRun) :
    (next.toList ++ rest).filterMap f = (next.bind f).toList ++ rest.filterMap f := by
  cases next with
  | none => rfl
  | some run =>
    rw [List.filterMap_append]
    cases hf : f run <;> simp [hf]

/-- What is accepted goes to both sides, and what is published only changes places. -/
theorem subperm_append_of_subperm {a p rest : List Nat} (h : (P ++ (p ++ rest)).Subperm A) :
    (P ++ p ++ (a ++ rest)).Subperm (A ++ a) := by
  have moved : (P ++ p ++ (a ++ rest)).Perm (a ++ (P ++ (p ++ rest))) := by
    rw [← List.append_assoc P]
    exact List.perm_append_comm_assoc _ _ _
  refine moved.subperm.trans ?_
  exact ((List.subperm_append_left a).2 h).trans List.perm_append_comm.subperm

/-- A step of a run leaves the numbers accounted for. -/
theorem Accounts.step {run : LintRun} {next : Option LintRun} {rest : List LintRun}
    (accounts : l.Accounts uri A P) (numbered : l.IsNumbered)
    (moving : l.moving? x = some run) (hstep : l.bench.step? run = some (next, l'.bench))
    (old : l.runs.Perm (run :: rest)) (new : l'.runs.Perm (next.toList ++ rest)) :
    l'.Accounts uri (A ++ (l.acceptance? uri x).toList) (P ++ (l.publication? uri x).toList) := by
  have step := LintRun.step_of_step? hstep
  have mine := numbered.runs run (old.mem_iff.2 (List.mem_cons_self ..))
  have grows := (step.numbers numbered.sound mine).1
  have hA : l.acceptance? uri x = next.bind (·.pendingNumber? uri) := by
    simp [acceptance?, moving, hstep]
  have hP : l.publication? uri x = run.pendingNumber? uri := by simp [publication?, moving]
  rw [hA, hP]
  have fresh := step.applied uri
  refine ⟨?_, ?_, ?_⟩
  · refine List.pairwise_append.2 ⟨accounts.increasing, ?_, fun a ha n hn => ?_⟩
    · cases next.bind (·.pendingNumber? uri) <;> simp
    · exact Nat.lt_of_le_of_lt (accounts.applied a ha) (fresh n (by simpa using hn)).1
  · intro n hn
    obtain hn | hn := List.mem_append.1 hn
    · exact Nat.le_trans (accounts.applied n hn) (grows uri).2
    · exact (fresh n (by simpa using hn)).2
  · have before := (old.filterMap (·.pendingNumber? uri)).append_left P
    have after := (new.filterMap (·.pendingNumber? uri)).append_left
      (P ++ (run.pendingNumber? uri).toList)
    rw [← List.singleton_append, ← Option.toList_some, filterMap_toList_append] at before
    rw [filterMap_toList_append] at after
    refine after.subperm.trans (subperm_append_of_subperm ?_)
    exact before.symm.subperm.trans accounts.pending

theorem Accounts.move? (accounts : l.Accounts uri A P) (numbered : l.IsNumbered)
    (hx : l.move? x = some l') :
    l'.Accounts uri (A ++ (l.acceptance? uri x).toList) (P ++ (l.publication? uri x).toList) := by
  cases turn_of_move? hx with
  | step run next rest moving hstep old new =>
    exact accounts.step numbered moving hstep old new
  | other old new rest idle hg hnew hold hnew' =>
    have grows := (numbered.move? hx).1 uri
    have hA : l.acceptance? uri x = none := by simp [acceptance?, idle]
    have hP : l.publication? uri x = none := by simp [publication?, idle]
    rw [hA, hP, Option.toList_none, List.append_nil, List.append_nil]
    refine ⟨accounts.increasing, fun n hn => Nat.le_trans (accounts.applied n hn) grows.2, ?_⟩
    have hnone : new.filterMap (·.pendingNumber? uri) = [] := by
      refine List.filterMap_eq_nil_iff.2 fun run hrun => ?_
      obtain ⟨job, rfl⟩ := hnew run hrun
      rfl
    have after := hnew'.filterMap (·.pendingNumber? uri)
    have before := hold.filterMap (·.pendingNumber? uri)
    rw [List.filterMap_append, hnone, List.nil_append] at after
    rw [List.filterMap_append] at before
    have fewer : (rest.filterMap (·.pendingNumber? uri)).Subperm
        (l.runs.filterMap (·.pendingNumber? uri)) :=
      (List.sublist_append_right _ _).subperm.trans before.symm.subperm
    refine (after.append_left P).subperm.trans ?_
    exact ((List.subperm_append_left P).2 fewer).trans accounts.pending

/-- After every history the numbers are accounted for. -/
theorem accounts_of_follow? (fresh : l.IsFresh) (hm : l.follow? h = some m) (uri : Url) :
    m.Accounts uri (l.acceptances h uri) (l.publications h uri) := by
  induction h using List.reverseRecOn generalizing m with
  | nil =>
    obtain rfl : l = m := Option.some.inj hm
    exact fresh.accounts uri
  | append_singleton h x ih =>
    obtain ⟨m₀, hm₀, hx⟩ := follow?_concat_eq_some hm
    rw [acceptances, publications, trace_concat _ hm₀, trace_concat _ hm₀]
    exact (ih hm₀).move? (fresh.isNumbered.follow? hm₀).2 hx

/-- The numbers accepted increase, and what is published was accepted.  The numbers published
increase exactly if they are published in the order in which they were accepted; the last one is
then the newest. -/
theorem publications_pairwise_iff (fresh : l.IsFresh) (hm : l.follow? h = some m) (uri : Url) :
    (l.acceptances h uri).Pairwise (· < ·) ∧
    (l.publications h uri).Subperm (l.acceptances h uri) ∧
    ((l.publications h uri).Pairwise (· < ·) ↔
      (l.publications h uri).Sublist (l.acceptances h uri)) ∧
    ((l.publications h uri).Sublist (l.acceptances h uri) →
      ∀ n ∈ (l.publications h uri).getLast?, ∀ k ∈ l.publications h uri, k ≤ n) := by
  obtain ⟨increasing, -, pending⟩ := accounts_of_follow? fresh hm uri
  have published : (l.publications h uri).Subperm (l.acceptances h uri) :=
    (List.sublist_append_left _ _).subperm.trans pending
  refine ⟨increasing, published, ⟨fun sorted => ?_, fun ordered => ?_⟩, ?_⟩
  · exact List.sublist_of_subperm_of_pairwise published sorted increasing
  · exact increasing.sublist ordered
  · intro ordered n hn k hk
    obtain ⟨before, hlast⟩ := List.getLast?_eq_some_iff.1 hn
    have sorted := increasing.sublist ordered
    rw [hlast] at sorted hk
    obtain hk | hk := List.mem_append.1 hk
    · exact Nat.le_of_lt ((List.pairwise_append.1 sorted).2.2 k hk n (List.mem_singleton_self n))
    · exact Nat.le_of_eq (List.mem_singleton.1 hk)

/-- A document is linted, and once more after a reset; the first lint is accepted, the second is
accepted and publishes, and then the first publishes. -/
def overtaken (d : Document) : List Move :=
  [.trigger d.uri .file false, .labour (.take 0), .labour (.work 0), .reset,
    .trigger d.uri .file false, .labour (.take 1), .labour (.work 1)] ++
  List.replicate 4 (.labour (.work 0)) ++ List.replicate 5 (.labour (.work 1)) ++
  [.labour (.work 0)]

theorem publications_pairwise_iff_overtaken :
    (eager (writing ownReport) [.plain]).IsFresh ∧
    (∃ m, (eager (writing ownReport) [.plain]).follow? (overtaken .plain) = some m) ∧
    ((eager (writing ownReport) [.plain]).publications (overtaken .plain) Document.plain.uri).Subperm
      ((eager (writing ownReport) [.plain]).acceptances (overtaken .plain) Document.plain.uri) := by
  have possible : ((eager (writing ownReport) [.plain]).follow? (overtaken .plain)).isSome = true := by
    decide +kernel
  obtain ⟨m, hm⟩ := Option.isSome_iff_exists.1 possible
  exact ⟨isFresh_eager _ _, ⟨m, hm⟩,
    (publications_pairwise_iff (isFresh_eager _ _) hm Document.plain.uri).2.1⟩

/-- The older of two results is published after the newer one. -/
theorem publications_two_one :
    ((eager (writing ownReport) [.plain]).follow? (overtaken .plain)).isSome = true ∧
    (eager (writing ownReport) [.plain]).acceptances (overtaken .plain) Document.plain.uri = [1, 2] ∧
    (eager (writing ownReport) [.plain]).publications (overtaken .plain) Document.plain.uri = [2, 1] := by
  decide +kernel

end Linter

end SqlLint
