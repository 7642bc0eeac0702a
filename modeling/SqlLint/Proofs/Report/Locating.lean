import SqlLint.Proofs.Path.Components
import SqlLint.Proofs.Report.Grouping
import SqlLint.Workspace.Invocation

/-!
# Reports on the linted file

The tool is given the linted file as seen from the directory in which it runs (`targetPath`), and
reports on it by the same path, which `LintTarget.resolve` leads back from the directory.  The way
back ends at the linted file if the file is in the directory.  From anywhere else the way goes up
first, and since paths are compared with their steps up left standing, the report is then not taken
for one on the linted file.
-/

namespace SqlLint

namespace Path

variable {path dir : String}

/-- The path is in the directory: it begins with what the directory consists of. -/
def LiesIn (path dir : String) : Prop := components dir <+: components (forwardSlashes path)

/-- The directory goes up where the path goes on, so that no way leads from the one to the other. -/
def Strays (path dir : String) : Prop :=
  ∃ shared c rest beyond, components (forwardSlashes path) = shared ++ c :: rest ∧
    components dir = shared ++ .up :: beyond ∧ c ≠ .up

theorem key_of_isAbsolute (h : isAbsolute path = true) :
    key path = .root :: parts (slashed false path.toList) := by
  rw [parts_slashed]
  exact lexical_forwardSlashes h

theorem liesIn_iff (hpath : isAbsolute path = true) (hdir : isAbsolute dir = true) :
    LiesIn path dir ↔
      ∃ rest, parts (slashed false path.toList) = parts dir.toList ++ rest := by
  rw [LiesIn, components_of_isAbsolute hdir,
    components_of_isAbsolute (isAbsolute_forwardSlashes hpath), toList_forwardSlashes,
    List.cons_prefix_cons, List.prefix_iff_exists_append_eq]
  simp [eq_comm]

theorem strays_iff (hpath : isAbsolute path = true) (hdir : isAbsolute dir = true) :
    Strays path dir ↔ ∃ shared c rest beyond,
      parts (slashed false path.toList) = shared ++ c :: rest ∧
        parts dir.toList = shared ++ .up :: beyond ∧ c ≠ .up := by
  rw [Strays, components_of_isAbsolute hdir,
    components_of_isAbsolute (isAbsolute_forwardSlashes hpath), toList_forwardSlashes]
  constructor
  · rintro ⟨shared, c, rest, beyond, hpath, hdir, hc⟩
    -- Both begin at the root, so that they part only after it.
    cases shared with
    | nil => simp at hdir
    | cons d shared =>
      exact ⟨shared, c, rest, beyond, (List.cons.inj hpath).2, (List.cons.inj hdir).2, hc⟩
  · rintro ⟨shared, c, rest, beyond, hpath, hdir, hc⟩
    exact ⟨.root :: shared, c, rest, beyond, congrArg _ hpath, congrArg _ hdir, hc⟩

theorem relativeTo?_of_isAbsolute (hpath : isAbsolute path = true) (hdir : isAbsolute dir = true) :
    relativeTo? path dir =
      (between true (parts path.toList) (parts dir.toList)).map ofComponents := by
  simp only [relativeTo?, hpath, hdir, components_of_isAbsolute, ne_eq, not_true, if_false]
  simp [between]

/-- The way from a directory to a path as the tool is given it, and where it leads. -/
theorem forwardSlashes_ofComponents {way : List Component}
    (h : ∀ c ∈ way, IsPart c ∧ '\\' ∉ c.text.toList) :
    forwardSlashes (ofComponents way) = ofComponents way :=
  forwardSlashes_of_not_mem (not_mem_ofComponents fun c hc => (h c hc).2)

theorem key_join (hdir : isAbsolute dir = true) {way : List Component}
    (h : ∀ c ∈ way, IsPart c ∧ '\\' ∉ c.text.toList) :
    key (join dir (ofComponents way)) = .root :: (parts dir.toList).flatMap respelled ++ way := by
  have relative := isAbsolute_ofComponents fun c hc => (h c hc).1
  have nonempty : dir ≠ "" := by
    rintro rfl
    cases hdir
  rw [key_of_isAbsolute ((isAbsolute_join nonempty relative).trans hdir), parts_slashed,
    parts_join nonempty relative, parts_ofComponents fun c hc => (h c hc).1, List.flatMap_append,
    flatMap_respelled h, List.cons_append]

end Path

/-! ## The way back -/

open SqlLint.Path

variable {path dir : String} {t : LintTarget}

theorem targetPath_of_isAbsolute (hpath : isAbsolute path = true) (hdir : isAbsolute dir = true) :
    targetPath path (some dir) = forwardSlashes
      (((between true (parts (slashed false path.toList)) (parts dir.toList)).map
        ofComponents).getD (forwardSlashes path)) := by
  rw [targetPath, Option.bind_some,
    relativeTo?_of_isAbsolute (isAbsolute_forwardSlashes hpath) hdir, toList_forwardSlashes]

theorem resolve_cases (ht : t.workingDirectory = some dir) (reported : String) :
    (reported = "stdin" ∨ reported = "") ∧ t.resolve reported = t.path ∨
      t.resolve reported = join dir (forwardSlashes reported) := by
  rw [LintTarget.resolve, ht]
  split
  · next h => exact .inl ⟨h.imp_right String.isEmpty_iff.1, rfl⟩
  · exact .inr rfl

theorem mem_slashed_parts {c : Component} (h : c ∈ parts (slashed false path.toList)) :
    IsPart c ∧ '\\' ∉ c.text.toList := by
  obtain ⟨part, chars⟩ := exists_of_mem_parts h
  exact ⟨part, fun back => not_mem_slashed _ _ (chars _ back)⟩

/-- From one directory, the tool is told different paths of files at different places, as long as no
path goes up. -/
theorem parts_eq_of_targetPath_eq {other : String} (hdir : isAbsolute dir = true)
    (ups : .up ∉ parts dir.toList) (hpath : isAbsolute path = true)
    (hother : isAbsolute other = true) (level : .up ∉ parts (slashed false path.toList))
    (level' : .up ∉ parts (slashed false other.toList))
    (h : targetPath path (some dir) = targetPath other (some dir)) :
    parts (slashed false path.toList) = parts (slashed false other.toList) := by
  have dots : .here ∉ parts dir.toList := fun here => (isPart_of_mem here).ne_here rfl
  have told {path : String} (absolute : isAbsolute path = true) :
      between true (parts (slashed false path.toList)) (parts dir.toList) =
        some (parts (targetPath path (some dir)).toList) := by
    obtain ⟨shared, rest, beyond, split, -, way⟩ :=
      between_eq (parts (slashed false path.toList)) dots ups
    have whole : ∀ c ∈ List.replicate beyond.length .up ++ rest,
        IsPart c ∧ '\\' ∉ c.text.toList := by
      intro c hc
      obtain hc | hc := List.mem_append.1 hc
      · obtain rfl := List.eq_of_mem_replicate hc
        exact ⟨.up, by decide⟩
      · exact mem_slashed_parts (split ▸ List.mem_append_right shared hc)
    rw [targetPath_of_isAbsolute absolute hdir, way, Option.map_some, Option.getD_some,
      forwardSlashes_ofComponents whole, parts_ofComponents fun c hc => (whole c hc).1]
  apply between_inj dots ups level level'
  rw [told hpath, told hother, h]

theorem targetPath_eq_iff_of_isPlain {other : String} (hdir : IsPlain dir) (hpath : IsPlain path)
    (hother : IsPlain other) :
    targetPath path (some dir) = targetPath other (some dir) ↔ path = other := by
  constructor
  · intro told
    have parts := parts_eq_of_targetPath_eq hdir.isAbsolute hdir.level hpath.isAbsolute
      hother.isAbsolute hpath.level_slashed hother.level_slashed told
    rw [hpath.slashed_eq, hother.slashed_eq] at parts
    rw [← hpath.ofComponents_eq, parts, hother.ofComponents_eq]
  · rintro rfl
    rfl

/-- A file in the directory is found again. -/
theorem same_resolve_of_liesIn (hpath : isAbsolute t.path = true) (hdir : isAbsolute dir = true)
    (ht : t.workingDirectory = some dir) (h : LiesIn t.path dir) :
    same (t.resolve (targetPath t.path (some dir))) t.path = true := by
  obtain ⟨rest, split⟩ := (liesIn_iff hpath hdir).1 h
  have whole (c : Component) (hc : c ∈ parts dir.toList ++ rest) :
      IsPart c ∧ '\\' ∉ c.text.toList := mem_slashed_parts (split ▸ hc)
  have hrest (c : Component) (hc : c ∈ rest) := whole c (List.mem_append_right _ hc)
  have given : targetPath t.path (some dir) = ofComponents rest := by
    rw [targetPath_of_isAbsolute hpath hdir, split, between_append]
    exact forwardSlashes_ofComponents hrest
  obtain ⟨-, h⟩ | h := resolve_cases ht (targetPath t.path (some dir))
  · rw [h]
    exact same_refl _
  · -- The file is spelled without backslashes, so that the directory holds none either.
    rw [h, given, forwardSlashes_ofComponents hrest, same_iff, key_join hdir hrest,
      key_of_isAbsolute hpath, split, List.cons_append,
      flatMap_respelled fun c hc => whole c (List.mem_append_left _ hc)]

/-- A file to which no way leads is given by its whole path. -/
theorem same_resolve_of_strays (hpath : isAbsolute t.path = true) (hdir : isAbsolute dir = true)
    (ht : t.workingDirectory = some dir) (h : Strays t.path dir) :
    same (t.resolve (targetPath t.path (some dir))) t.path = true := by
  obtain ⟨shared, c, rest, beyond, path, dir', hc⟩ := (strays_iff hpath hdir).1 h
  have given : targetPath t.path (some dir) = forwardSlashes t.path := by
    rw [targetPath_of_isAbsolute hpath hdir, path, dir', between_stray shared hc]
    exact forwardSlashes_forwardSlashes t.path
  obtain ⟨-, h⟩ | h := resolve_cases ht (targetPath t.path (some dir))
  · rw [h]
    exact same_refl _
  · rw [h, given, forwardSlashes_forwardSlashes, join, if_pos (isAbsolute_forwardSlashes hpath),
      same_iff, key, forwardSlashes_forwardSlashes, key]

/-- A way that goes up is not followed back: the steps up stay in the path that it ends at. -/
theorem not_same_join_of_up {shared rest beyond : List Component} {c : Component}
    (hpath : isAbsolute path = true) (hdir : isAbsolute dir = true)
    (path_eq : parts (slashed false path.toList) = shared ++ rest)
    (dir_eq : parts dir.toList = shared ++ c :: beyond)
    (plain : ∀ d ∈ (c :: beyond).map (fun _ => Component.up) ++ rest,
      IsPart d ∧ '\\' ∉ d.text.toList) :
    key (join dir (ofComponents ((c :: beyond).map (fun _ => .up) ++ rest))) ≠ key path := by
  intro h
  rw [key_join hdir plain, key_of_isAbsolute hpath, path_eq, dir_eq] at h
  have ups := congrArg (List.count .up) h
  have shared_le := count_up_le shared
  simp at ups
  omega

theorem liesIn_or_strays_of_same (hpath : isAbsolute t.path = true) (hdir : isAbsolute dir = true)
    (ht : t.workingDirectory = some dir)
    (h : same (t.resolve (targetPath t.path (some dir))) t.path = true) :
    LiesIn t.path dir ∨ Strays t.path dir := by
  rw [liesIn_iff hpath hdir, strays_iff hpath hdir]
  have dots : .here ∉ parts dir.toList := fun here => (isPart_of_mem here).ne_here rfl
  obtain inside | stray | ⟨shared, c, rest, beyond, path, dir', way⟩ :=
    between_cases (parts (slashed false t.path.toList)) dots
  · exact .inl inside
  · exact .inr stray
  · exfalso
    have hrest (d : Component) (hd : d ∈ rest) : IsPart d ∧ '\\' ∉ d.text.toList :=
      mem_slashed_parts (path ▸ List.mem_append_right _ hd)
    have plain (d : Component) (hd : d ∈ (c :: beyond).map (fun _ => Component.up) ++ rest) :
        IsPart d ∧ '\\' ∉ d.text.toList := by
      obtain up | hd := List.mem_append.1 hd
      · obtain ⟨-, -, rfl⟩ := List.mem_map.1 up
        exact ⟨.up, by decide⟩
      · exact hrest d hd
    have given : targetPath t.path (some dir) =
        ofComponents ((c :: beyond).map (fun _ => .up) ++ rest) := by
      rw [targetPath_of_isAbsolute hpath hdir, way]
      exact forwardSlashes_ofComponents plain
    have made := parts_ofComponents fun d hd => (plain d hd).1
    rw [← given] at made
    obtain ⟨stdin | empty, -⟩ | joined := resolve_cases ht (targetPath t.path (some dir))
    -- A path that begins with a step up is none of the two that stand for the file itself.
    · rw [stdin] at made
      cases made.symm.trans (show _ = [Component.name "stdin"] by decide)
    · rw [empty] at made
      cases made.symm.trans parts_nil
    · rw [joined, given, forwardSlashes_ofComponents plain, same_iff] at h
      exact not_same_join_of_up hpath hdir path dir' plain h

/-- The report that the tool gives on the linted file, under the path that the tool was given, is
taken for one on that file if, and only if, the file is in the directory where the tool ran or no
way leads to it from there. -/
theorem exists_isTarget_iff {output : List String} {s : Settings} {r : FileReport}
    (hpath : isAbsolute t.path = true) (hdir : isAbsolute dir = true)
    (ht : t.workingDirectory = some dir) (hr : r ∈ reportsOf output)
    (given : r.path = targetPath t.path (some dir)) :
    (∃ g ∈ fileDiagnostics output t s,
        same g.path (t.resolve r.path) = true ∧ g.isTarget = true) ↔
      LiesIn t.path dir ∨ Strays t.path dir := by
  rw [given]
  constructor
  · rintro ⟨g, hg, own, target⟩
    rw [isTarget_of_mem hg] at target
    exact liesIn_or_strays_of_same hpath hdir ht (same_trans (same_symm own) target)
  · intro h
    have back : same (t.resolve (targetPath t.path (some dir))) t.path = true := by
      obtain inside | stray := h
      · exact same_resolve_of_liesIn hpath hdir ht inside
      · exact same_resolve_of_strays hpath hdir ht stray
    obtain ⟨g, hg, own⟩ := exists_group_of_report (t := t) (s := s) hr
    rw [given] at own
    exact ⟨g, hg, own, (isTarget_of_mem hg).trans (same_trans own back)⟩

theorem exists_isTarget_iff_inside :
    (∃ g ∈ fileDiagnostics ["[\x7b\"filepath\":\"in/a.sql\"\x7d]"]
        ⟨"/w/in/a.sql", some "/w", none⟩ {},
        same g.path "/w/in/a.sql" = true ∧ g.isTarget = true) ↔
      LiesIn "/w/in/a.sql" "/w" ∨ Strays "/w/in/a.sql" "/w" := by
  have reports : reportsOf ["[\x7b\"filepath\":\"in/a.sql\"\x7d]"] = [⟨"in/a.sql", []⟩] := by
    decide +kernel
  exact exists_isTarget_iff (t := ⟨"/w/in/a.sql", some "/w", none⟩) (r := ⟨"in/a.sql", []⟩)
    (by decide +kernel) (by decide +kernel) rfl (by rw [reports]; exact List.mem_singleton_self _)
    (by decide +kernel)

/-- A file beside the directory is reported under the path that the tool was given, and its
diagnostics are taken for those of another file. -/
theorem not_isTarget_beside :
    targetPath "/elsewhere/a.sql" (some "/work") = "../elsewhere/a.sql" ∧
    reportsOf ["[\x7b\"filepath\":\"../elsewhere/a.sql\"\x7d]"] = [⟨"../elsewhere/a.sql", []⟩] ∧
    (fileDiagnostics ["[\x7b\"filepath\":\"../elsewhere/a.sql\"\x7d]"]
      ⟨"/elsewhere/a.sql", some "/work", none⟩ {}).map (fun g => (g.path, g.isTarget)) =
        [("/work/../elsewhere/a.sql", false)] := by
  decide +kernel

end SqlLint
