import SqlLint.Proofs.Lint.Turns

/-!
# The numbers of lints

Numbers only grow: `Generations.Grows` says it of two moments, for the last number issued and the
last one applied of every URL.  After every history no number was applied that was not issued, and
no lint has one that was not (`Linter.IsNumbered.follow?`).
-/

namespace SqlLint

namespace Generations

variable {g g' g'' : Generations} {uri other : Url} {n : Nat}

/-- The numbers of no URL have become less. -/
def Grows (g g' : Generations) : Prop :=
  ∀ uri, (g.of uri).issued ≤ (g'.of uri).issued ∧ (g.of uri).applied ≤ (g'.of uri).applied

theorem Grows.refl (g : Generations) : Grows g g := fun _ => ⟨Nat.le_refl _, Nat.le_refl _⟩

theorem Grows.trans (h : Grows g g') (h' : Grows g' g'') : Grows g g'' := fun uri =>
  ⟨Nat.le_trans (h uri).1 (h' uri).1, Nat.le_trans (h uri).2 (h' uri).2⟩

/-- Only numbers that were issued count as applied. -/
def IsSound (g : Generations) : Prop := ∀ uri, (g.of uri).applied ≤ (g.of uri).issued

theorem of_set (g : Generations) (uri other : Url) (new : Generation) :
    (g.set uri new).of other = if other = uri then new else g.of other := by
  split
  · next h => rw [h, of_set_self]
  · next h => rw [of_set_of_ne g new h]

theorem grows_set {new : Generation} (issued : (g.of uri).issued ≤ new.issued)
    (applied : (g.of uri).applied ≤ new.applied) : Grows g (g.set uri new) := by
  intro other
  rw [of_set]
  split
  · next h => exact h ▸ ⟨issued, applied⟩
  · exact ⟨Nat.le_refl _, Nat.le_refl _⟩

theorem IsSound.set (sound : g.IsSound) {new : Generation} (h : new.applied ≤ new.issued) :
    (g.set uri new).IsSound := by
  intro other
  rw [of_set]
  split
  · exact h
  · exact sound other

/-! ## Issuing -/

theorem of_issue (g : Generations) (uri : Url) :
    (g.issue uri).2.of uri = { g.of uri with issued := (g.of uri).issued + 1 } :=
  of_set_self g uri _

theorem grows_issue (g : Generations) (uri : Url) : Grows g (g.issue uri).2 :=
  grows_set (Nat.le_succ _) (Nat.le_refl _)

theorem IsSound.issue (sound : g.IsSound) (uri : Url) : (g.issue uri).2.IsSound :=
  sound.set (Nat.le_succ_of_le (sound uri))

/-! ## Retiring -/

theorem of_retire (g : Generations) (uri : Url) :
    (g.retire uri).of uri = { g.of uri with applied := (g.of uri).issued } :=
  of_set_self g uri _

theorem grows_retire (sound : g.IsSound) (uri : Url) : Grows g (g.retire uri) :=
  grows_set (Nat.le_refl _) (sound uri)

theorem IsSound.retire (sound : g.IsSound) (uri : Url) : (g.retire uri).IsSound :=
  sound.set (Nat.le_refl _)

/-! ## Applying -/

theorem tryApply_of_accepts (h : g.accepts uri n = true) :
    (g.tryApply uri n).2 = g.set uri { g.of uri with applied := n } := by
  rw [tryApply, if_pos h]

theorem applied_lt_of_accepts (h : g.accepts uri n = true) : (g.of uri).applied < n := by
  simpa [accepts] using h

theorem of_tryApply (h : g.accepts uri n = true) :
    (g.tryApply uri n).2.of uri = { g.of uri with applied := n } := by
  rw [tryApply_of_accepts h, of_set_self]

theorem grows_tryApply (h : g.accepts uri n = true) : Grows g (g.tryApply uri n).2 := by
  rw [tryApply_of_accepts h]
  exact grows_set (Nat.le_refl _) (Nat.le_of_lt (applied_lt_of_accepts h))

theorem IsSound.tryApply (sound : g.IsSound) (h : g.accepts uri n = true)
    (issued : n ≤ (g.of uri).issued) : (g.tryApply uri n).2.IsSound := by
  rw [tryApply_of_accepts h]
  exact sound.set issued

end Generations

/-- The number of a run is one that was issued. -/
def LintRun.IsNumbered (g : Generations) (run : LintRun) : Prop :=
  ∀ t, run.ticket? = some t → t.generation ≤ (g.of t.uri).issued

theorem LintRun.IsNumbered.grows {g g' : Generations} {run : LintRun}
    (numbered : run.IsNumbered g) (h : g.Grows g') : run.IsNumbered g' :=
  fun t ht => Nat.le_trans (numbered t ht) (h t.uri).1

/-- A step of a run makes numbers grow, and leaves it with a number that was issued. -/
theorem LintRun.Step.numbers {b b' : Bench} {run : LintRun} {next : Option LintRun}
    (h : Step b b' run next) (sound : b.generations.IsSound)
    (numbered : run.IsNumbered b.generations) :
    b.generations.Grows b'.generations ∧ b'.generations.IsSound ∧
      ∀ run' ∈ next, run'.IsNumbered b'.generations := by
  have same (hg : b'.generations = b.generations)
      (keeps : ∀ run' ∈ next, ∀ t, run'.ticket? = some t → run.ticket? = some t) :
      b.generations.Grows b'.generations ∧ b'.generations.IsSound ∧
        ∀ run' ∈ next, run'.IsNumbered b'.generations := by
    rw [hg]
    exact ⟨.refl _, sound, fun run' h t ht => numbered t (keeps run' h t ht)⟩
  cases h with
  | finished _ _ hg => exact same hg (by simp)
  | numbered job path hg =>
    rw [hg]
    refine ⟨Generations.grows_issue _ _, sound.issue _, ?_⟩
    rintro _ ⟨⟩ _ ⟨⟩
    show _ ≤ ((b.generations.issue job.uri).2.of job.uri).issued
    rw [Generations.of_issue]
    exact Nat.le_refl _
  | went _ _ t before after _ _ _ hg =>
    refine same hg ?_
    rintro _ ⟨⟩ t' ht'
    rw [before, ← after, ht']
  | resolved _ _ _ hg =>
    refine same hg ?_
    rintro _ ⟨⟩ t' ht'
    exact ht'
  | passed _ _ _ _ hg =>
    refine same hg ?_
    rintro _ ⟨⟩ t' ht'
    exact ht'
  | accepted t live file files _ fresh hg =>
    rw [hg]
    have issued : t.generation ≤ (b.generations.of t.uri).issued := numbered t rfl
    refine ⟨Generations.grows_tryApply fresh, sound.tryApply fresh issued, ?_⟩
    rintro _ ⟨⟩ t' ⟨⟩
    exact Nat.le_trans issued (Generations.grows_tryApply fresh t.uri).1
  | published _ _ _ _ hg _ =>
    refine same hg ?_
    rintro _ ⟨⟩ t' ht'
    exact ht'

namespace Linter

variable {l l' m : Linter} {x : Move} {h : List Move}

/-- Only numbers that were issued count as applied, and lints have only such. -/
structure IsNumbered (l : Linter) : Prop where
  sound : l.bench.generations.IsSound
  runs : ∀ run ∈ l.runs, run.IsNumbered l.bench.generations

/-- A linter that has linted nothing yet. -/
structure IsFresh (l : Linter) : Prop where
  lanes : l.lanes = []
  projects : l.projects = []
  generations : l.bench.generations = []

theorem IsFresh.runs (fresh : l.IsFresh) : l.runs = [] := by
  simp [Linter.runs, fresh.lanes, fresh.projects]

theorem isFresh_eager (machine : Machine) (documents : Documents) :
    (eager machine documents).IsFresh :=
  ⟨rfl, rfl, rfl⟩

theorem IsFresh.isNumbered (fresh : l.IsFresh) : l.IsNumbered where
  sound uri := by
    rw [fresh.generations]
    exact Nat.le_refl 0
  runs run h := by
    rw [fresh.runs] at h
    cases h

/-- A move makes numbers grow and leaves them in order. -/
theorem IsNumbered.move? (numbered : l.IsNumbered) (hx : l.move? x = some l') :
    l.bench.generations.Grows l'.bench.generations ∧ l'.IsNumbered := by
  cases turn_of_move? hx with
  | step run next rest _ hstep old new =>
    have mem : run ∈ l.runs := old.mem_iff.2 (List.mem_cons_self ..)
    obtain ⟨grows, sound, after⟩ :=
      (LintRun.step_of_step? hstep).numbers numbered.sound (numbered.runs run mem)
    refine ⟨grows, sound, fun r hr => ?_⟩
    obtain hnext | hrest := List.mem_append.1 (new.mem_iff.1 hr)
    · exact after r (by simpa using hnext)
    · exact (numbered.runs r (old.mem_iff.2 (List.mem_cons_of_mem _ hrest))).grows grows
  | other old new rest _ hg hnew hold hnew' =>
    have grows : l.bench.generations.Grows l'.bench.generations := by
      obtain hg | ⟨uri, hg⟩ := hg
      · exact hg ▸ .refl _
      · exact hg ▸ Generations.grows_retire numbered.sound uri
    refine ⟨grows, ?_, fun r hr => ?_⟩
    · obtain hg | ⟨uri, hg⟩ := hg
      · exact hg ▸ numbered.sound
      · exact hg ▸ numbered.sound.retire uri
    · obtain hr | hr := List.mem_append.1 (hnew'.mem_iff.1 hr)
      · obtain ⟨job, rfl⟩ := hnew r hr
        rintro t ⟨⟩
      · exact (numbered.runs r (hold.mem_iff.2 (List.mem_append_right _ hr))).grows grows

/-- Numbers grow over every history and stay in order. -/
theorem IsNumbered.follow? (numbered : l.IsNumbered) (hm : l.follow? h = some m) :
    l.bench.generations.Grows m.bench.generations ∧ m.IsNumbered :=
  follow?_preserves (P := fun m => l.bench.generations.Grows m.bench.generations ∧ m.IsNumbered)
    (fun _ _ _ ⟨grows, numbered⟩ hx =>
      ⟨grows.trans (numbered.move? hx).1, (numbered.move? hx).2⟩)
    ⟨.refl _, numbered⟩ hm

end Linter

end SqlLint
