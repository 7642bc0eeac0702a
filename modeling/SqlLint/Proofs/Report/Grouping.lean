import Mathlib.Data.List.Induction
import SqlLint.Report.Mapping

/-!
# Diagnostics by file

`fileDiagnostics` takes one report after the other and adds it to the groups that it has.
`fileDiagnostics_eq` says what comes of it, without the groups on the way: one group for each file,
in the order of the first report of each (`firsts`), and in it the diagnostics of all reports of the
file, however they spell its path.  That the spelling does not matter rests on `Path.same` being an
equivalence.
-/

namespace SqlLint

namespace Path

variable {a b c : String}

/-- What is compared of a path. -/
def key (path : String) : List Component := lexical (forwardSlashes path)

theorem same_iff : same a b = true ↔ key a = key b := by
  rw [same, decide_eq_true_iff]
  rfl

theorem same_refl (a : String) : same a a = true := same_iff.2 rfl

theorem same_symm (h : same a b = true) : same b a = true := same_iff.2 (same_iff.1 h).symm

theorem same_trans (h : same a b = true) (h' : same b c = true) : same a c = true :=
  same_iff.2 ((same_iff.1 h).trans (same_iff.1 h'))

theorem same_comm (a b : String) : same a b = same b a := Bool.eq_iff_iff.2 ⟨same_symm, same_symm⟩

/-- Two spellings of a path compare in the same way to any other path. -/
theorem same_congr (h : same a b = true) (c : String) : same a c = same b c :=
  Bool.eq_iff_iff.2 ⟨same_trans (same_symm h), same_trans h⟩

/-- The paths without those of files that come earlier. -/
def firsts : List String → List String
  | [] => []
  | p :: ps => p :: (firsts ps).filter (! same p ·)

theorem firsts_pairwise (ps : List String) :
    (firsts ps).Pairwise fun p q => same p q = false := by
  induction ps with
  | nil => exact .nil
  | cons p ps ih =>
    refine List.pairwise_cons.2 ⟨fun q hq => ?_, ih.filter _⟩
    simpa using (List.mem_filter.1 hq).2

theorem exists_mem_firsts {ps : List String} {p : String} (h : p ∈ ps) :
    ∃ q ∈ firsts ps, same q p = true := by
  induction ps with
  | nil => cases h
  | cons q ps ih =>
    by_cases hqp : same q p = true
    · exact ⟨q, List.mem_cons_self .., hqp⟩
    · obtain rfl | hp := List.mem_cons.1 h
      · exact absurd (same_refl p) hqp
      · obtain ⟨r, hr, hrp⟩ := ih hp
        -- The first of the file in `ps` is not that of the file of `q`, as `p` is not.
        refine ⟨r, List.mem_cons_of_mem _ (List.mem_filter.2 ⟨hr, ?_⟩), hrp⟩
        rw [Bool.not_eq_true', same_comm, same_congr hrp, same_comm]
        exact Bool.not_eq_true _ ▸ hqp

theorem firsts_sublist (ps : List String) : (firsts ps).Sublist ps := by
  induction ps with
  | nil => exact .slnil
  | cons p ps ih => exact (List.filter_sublist.trans ih).cons_cons p

theorem any_firsts (ps : List String) (q : String) :
    (firsts ps).any (same · q) = ps.any (same · q) := by
  rw [Bool.eq_iff_iff, List.any_eq_true, List.any_eq_true]
  constructor
  · rintro ⟨p, hp, hpq⟩
    exact ⟨p, (firsts_sublist ps).subset hp, hpq⟩
  · rintro ⟨p, hp, hpq⟩
    obtain ⟨r, hr, hrp⟩ := exists_mem_firsts hp
    exact ⟨r, hr, same_trans hrp hpq⟩

/-- One more path is that of one more file, or of one that was there before. -/
theorem firsts_concat (ps : List String) (q : String) :
    firsts (ps ++ [q]) = firsts ps ++ if ps.any (same · q) then [] else [q] := by
  induction ps with
  | nil => rfl
  | cons p ps ih =>
    rw [List.cons_append, firsts, ih, firsts, List.filter_append, List.any_cons]
    cases hps : ps.any (same · q) <;> cases hpq : same p q <;> simp [hpq]

end Path

/-! ## Groups -/

open SqlLint.Path (same firsts)

variable {t : LintTarget} {s : Settings} {output : List String}

/-- The reports of the file of a path. -/
def reportsOn (t : LintTarget) (reports : List FileReport) (path : String) : List FileReport :=
  reports.filter fun r => same path (t.resolve r.path)

/-- The group of the file of a path: it is the target if it is the file that was linted, and only
then its document tells the places of the diagnostics. -/
def groupOf (t : LintTarget) (s : Settings) (reports : List FileReport) (path : String) :
    FileDiagnostics :=
  let isTarget := same path t.path
  let document := if isTarget then t.document else none
  ⟨path, isTarget, (reportsOn t reports path).flatMap
    fun r => r.violations.map (·.diagnostic document s)⟩

/-- A report joins the one group of its file, or makes a group of its own. -/
theorem joinGroup_map {f : String → FileDiagnostics} (hf : ∀ p, (f p).path = p)
    (new : FileDiagnostics) {ps : List String}
    (apart : ps.Pairwise fun p q => same p q = false) :
    joinGroup new (ps.map f) =
      (ps.map fun p => if same p new.path
        then { f p with diagnostics := (f p).diagnostics ++ new.diagnostics } else f p) ++
      if ps.any (same · new.path) then [] else [new] := by
  induction ps with
  | nil => rfl
  | cons p ps ih =>
    obtain ⟨hp, apart⟩ := List.pairwise_cons.1 apart
    rw [List.map_cons, joinGroup, hf p, List.map_cons, List.any_cons]
    cases hpn : same p new.path with
    | false => simp [ih apart]
    | true =>
      -- No other group is that of the file.
      have others : ∀ q ∈ ps, same q new.path = false := by
        intro q hq
        rw [Path.same_comm, ← Path.same_congr hpn]
        exact hp q hq
      have unchanged : (ps.map fun q => if same q new.path
          then { f q with diagnostics := (f q).diagnostics ++ new.diagnostics } else f q) =
          ps.map f := List.map_congr_left fun q hq => if_neg (by rw [others q hq]; decide)
      rw [if_pos rfl, unchanged, if_pos rfl, Bool.true_or, if_pos rfl, List.append_nil]
      simp only [hf]

theorem path_groupOf (t : LintTarget) (s : Settings) (reports : List FileReport) (path : String) :
    (groupOf t s reports path).path = path := rfl

theorem isTarget_groupOf (t : LintTarget) (s : Settings) (reports : List FileReport)
    (path : String) : (groupOf t s reports path).isTarget = same path t.path := by
  simp only [groupOf]

theorem path_ofReport (t : LintTarget) (s : Settings) (r : FileReport) :
    (t.ofReport s r).path = t.resolve r.path := rfl

/-- One more report adds its diagnostics to the group of its file and to no other. -/
theorem groupOf_concat (t : LintTarget) (s : Settings) (reports : List FileReport) (r : FileReport)
    (path : String) :
    groupOf t s (reports ++ [r]) path =
      if same path (t.ofReport s r).path
      then { groupOf t s reports path with
        diagnostics := (groupOf t s reports path).diagnostics ++ (t.ofReport s r).diagnostics }
      else groupOf t s reports path := by
  rw [path_ofReport]
  cases h : same path (t.resolve r.path) with
  | false => simp [groupOf, reportsOn, List.filter_append, h]
  | true =>
    have target : same path t.path = same (t.resolve r.path) t.path := Path.same_congr h _
    simp [groupOf, reportsOn, List.filter_append, h, LintTarget.ofReport, target]

/-- The first report of a file makes its group. -/
theorem groupOf_first {t : LintTarget} {s : Settings} {reports : List FileReport} {r : FileReport}
    (first : (reports.map (t.resolve ·.path)).any (same · (t.resolve r.path)) = false) :
    groupOf t s (reports ++ [r]) (t.resolve r.path) = t.ofReport s r := by
  have nothing : reportsOn t reports (t.resolve r.path) = [] := by
    rw [reportsOn, List.filter_eq_nil_iff]
    intro other hother hsame
    rw [List.any_eq_false] at first
    exact first _ (List.mem_map_of_mem hother) (Path.same_symm hsame)
  have own : reportsOn t (reports ++ [r]) (t.resolve r.path) = [r] := by
    rw [reportsOn, List.filter_append, ← reportsOn, nothing]
    simp [Path.same_refl]
  simp [groupOf, own, LintTarget.ofReport]

/-- The groups are those of the files, in the order of their first reports. -/
theorem foldl_joinGroup (t : LintTarget) (s : Settings) (reports : List FileReport) :
    reports.foldl (fun groups r => joinGroup (t.ofReport s r) groups) [] =
      (firsts (reports.map (t.resolve ·.path))).map (groupOf t s reports) := by
  induction reports using List.reverseRecOn with
  | nil => rfl
  | append_singleton reports r ih =>
    rw [List.foldl_append, List.foldl_cons, List.foldl_nil, ih,
      joinGroup_map (path_groupOf t s reports) _ (Path.firsts_pairwise _), Path.any_firsts,
      List.map_append, List.map_cons, List.map_nil, Path.firsts_concat, List.map_append,
      path_ofReport]
    refine congrArg₂ (· ++ ·) ?_ ?_
    -- The groups that were there take the report in, or it makes one more.
    · exact List.map_congr_left fun p _ => (groupOf_concat t s reports r p).symm
    · split
      · rfl
      · next first =>
        rw [List.map_cons, List.map_nil, groupOf_first (Bool.not_eq_true _ ▸ first)]

/-- The result has one group for each file that is reported, in the order of their first reports. -/
theorem fileDiagnostics_eq (output : List String) (t : LintTarget) (s : Settings) :
    fileDiagnostics output t s =
      (firsts ((reportsOf output).map (t.resolve ·.path))).map (groupOf t s (reportsOf output)) :=
  foldl_joinGroup t s (reportsOf output)

theorem map_path_fileDiagnostics (output : List String) (t : LintTarget) (s : Settings) :
    (fileDiagnostics output t s).map (·.path) =
      firsts ((reportsOf output).map (t.resolve ·.path)) := by
  rw [fileDiagnostics_eq, List.map_map]
  exact List.map_id _

theorem fileDiagnostics_pairwise (output : List String) (t : LintTarget) (s : Settings) :
    (fileDiagnostics output t s).Pairwise fun g h => same g.path h.path = false := by
  have apart := Path.firsts_pairwise ((reportsOf output).map (t.resolve ·.path))
  rwa [← map_path_fileDiagnostics output t s, List.pairwise_map] at apart

theorem exists_eq_groupOf {g : FileDiagnostics} (h : g ∈ fileDiagnostics output t s) :
    ∃ path, groupOf t s (reportsOf output) path = g := by
  rw [fileDiagnostics_eq] at h
  obtain ⟨path, -, hg⟩ := List.mem_map.1 h
  exact ⟨path, hg⟩

/-- The target is the group of the file that was linted. -/
theorem isTarget_of_mem {g : FileDiagnostics} (h : g ∈ fileDiagnostics output t s) :
    g.isTarget = same g.path t.path := by
  obtain ⟨path, rfl⟩ := exists_eq_groupOf h
  rw [isTarget_groupOf, path_groupOf]

theorem exists_group_of_report {r : FileReport} (h : r ∈ reportsOf output) :
    ∃ g ∈ fileDiagnostics output t s, same g.path (t.resolve r.path) = true := by
  obtain ⟨p, hp, hpr⟩ := Path.exists_mem_firsts (List.mem_map_of_mem (f := (t.resolve ·.path)) h)
  rw [fileDiagnostics_eq]
  exact ⟨_, List.mem_map_of_mem hp, hpr⟩

end SqlLint
