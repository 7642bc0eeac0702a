import Mathlib.Data.List.Forall2
import Mathlib.Data.String.Basic
import SqlLint.Proofs.Json.Settling
import SqlLint.Proofs.Workspace.Ending

/-!
# Where the variables of the tool come from

The tool sees the environment with the variables of `Config.overlay` set in it, one after the other.
`Config.Gives` says which value a variable then has: the last one of the two lists of the settings,
or else that of the environment, or else the first one that an environment file defines; and
`Config.Lists` says which files these are.  Only the well-formed entries of the files matter, so
that a file that is missing and an entry that is malformed leave all others as they are
(`overlay_congr`).
-/

namespace SqlLint

/-! ## Lists of variables -/

namespace Members

variable {α : Type} {entries : Members α} {key : String}

theorem mem_keys_insert {name : String} {value : α}
    (h : name ∈ (insert key value entries).map (·.1)) :
    name = key ∨ name ∈ entries.map (·.1) := by
  induction entries with
  | nil => simpa [insert] using h
  | cons entry entries ih =>
    obtain ⟨k, v⟩ := entry
    rw [insert] at h
    split at h
    · next same => simpa [same] using h
    · split at h
      · simpa using h
      · obtain rfl | h := List.mem_cons.1 h
        · exact .inr List.mem_cons_self
        · exact (ih h).imp id (List.mem_cons_of_mem _)

theorem pairwise_insert (sorted : (entries.map (·.1)).Pairwise (· < ·)) (key : String) (value : α) :
    ((insert key value entries).map (·.1)).Pairwise (· < ·) := by
  induction entries with
  | nil => simp [insert]
  | cons entry entries ih =>
    obtain ⟨k, v⟩ := entry
    rw [List.map_cons, List.pairwise_cons] at sorted
    rw [insert]
    split
    · next same =>
      rw [List.map_cons, List.pairwise_cons, ← same]
      exact sorted
    · next other =>
      split
      · next before =>
        refine List.pairwise_cons.2 ⟨fun name hname => ?_, List.pairwise_cons.2 sorted⟩
        obtain rfl | hname := List.mem_cons.1 hname
        · exact before
        · exact before.trans (sorted.1 name hname)
      · next after =>
        refine List.pairwise_cons.2 ⟨fun name hname => ?_, ih sorted.2⟩
        obtain rfl | hname := mem_keys_insert hname
        · exact lt_of_le_of_ne (not_lt.1 after) other
        · exact sorted.1 name hname

theorem nodup_ofList (entries : List (String × α)) : ((ofList entries).map (·.1)).Nodup := by
  have step (acc : Members α) (sorted : (acc.map (·.1)).Pairwise (· < ·)) :
      ((entries.foldl (fun acc entry => insert entry.1 entry.2 acc) acc).map (·.1)).Pairwise
        (· < ·) := by
    induction entries generalizing acc with
    | nil => exact sorted
    | cons entry entries ih => exact ih _ (pairwise_insert sorted _ _)
  exact (step [] .nil).imp fun before => ne_of_lt before

theorem lookup_filter (p : String → Bool) (entries : Members α) (name : String) :
    (entries.filter fun entry => p entry.1).lookup name =
      if p name then entries.lookup name else none := by
  induction entries with
  | nil => simp
  | cons entry entries ih =>
    obtain ⟨k, v⟩ := entry
    by_cases kept : p k = true
    · have first : ((k, v) :: entries).filter (fun entry => p entry.1) =
          (k, v) :: entries.filter fun entry => p entry.1 := List.filter_cons_of_pos kept
      rw [first, lookup_cons, lookup_cons, ih]
      by_cases here : name = k
      · rw [if_pos here, if_pos here, here, if_pos kept]
      · rw [if_neg here, if_neg here]
    · have rest : ((k, v) :: entries).filter (fun entry => p entry.1) =
          entries.filter fun entry => p entry.1 := List.filter_cons_of_neg kept
      rw [rest, ih, lookup_cons]
      by_cases here : name = k
      · rw [here, if_neg kept, if_neg kept]
      · rw [if_neg here]

theorem lookup_reverse_eq_none_iff : entries.reverse.lookup key = none ↔
    key ∉ entries.map (·.1) := by
  rw [List.lookup_eq_none_iff]
  constructor
  · rintro apart named
    obtain ⟨entry, mem, rfl⟩ := List.mem_map.1 named
    have other := apart entry (List.mem_reverse.2 mem)
    simp at other
  · intro unnamed entry mem
    refine bne_iff_ne.2 fun same => unnamed ?_
    exact List.mem_map.2 ⟨entry, List.mem_reverse.1 mem, same.symm⟩

theorem lookup_reverse_eq_some_iff {value : α} : entries.reverse.lookup key = some value ↔
    ∃ before after, entries = before ++ (key, value) :: after ∧ key ∉ after.map (·.1) := by
  constructor
  · intro found
    obtain ⟨after, before, split, apart⟩ := List.lookup_eq_some_iff.1 found
    refine ⟨before.reverse, after.reverse, ?_, fun named => ?_⟩
    · rw [List.reverse_eq_iff.1 split]
      simp
    · obtain ⟨entry, mem, rfl⟩ := List.mem_map.1 named
      have other := apart entry (List.mem_reverse.1 mem)
      simp at other
  · rintro ⟨before, after, rfl, unnamed⟩
    rw [List.reverse_append, List.reverse_cons, List.append_assoc, List.lookup_append,
      lookup_reverse_eq_none_iff.2 unnamed, Option.none_or, List.singleton_append, lookup_cons,
      if_pos rfl]

end Members

theorem lookup_firstDefinitions (definitions : List (String × String)) (name : String) :
    (firstDefinitions definitions).lookup name = definitions.lookup name := by
  rw [firstDefinitions, Members.lookup_ofList_eq, List.reverse_reverse]

theorem nodup_firstDefinitions (definitions : List (String × String)) :
    ((firstDefinitions definitions).map (·.1)).Nodup :=
  Members.nodup_ofList _

namespace Machine

variable {m m' : Machine} {name : String}

/-- A variable that is set has its new value, and every other one the value it had. -/
theorem lookup_set (environment : List (String × String)) (k v name : String) :
    (environment.filter (·.1 ≠ k) ++ [(k, v)]).lookup name =
      if name = k then some v else environment.lookup name := by
  have others : (environment.filter (·.1 ≠ k)).lookup name =
      if name ≠ k then environment.lookup name else none := by
    simpa using Members.lookup_filter (· ≠ k) environment name
  rw [List.lookup_append, others, Members.lookup_cons, List.lookup_nil]
  by_cases same : name = k
  · rw [if_neg (not_not.2 same), if_pos same, if_pos same, Option.none_or]
  · rw [if_pos same, if_neg same, if_neg same, Option.or_none]

/-- Of the values that are given to a variable the last one counts. -/
theorem lookup_overlay (environment vars : List (String × String)) (name : String) :
    (overlay environment vars).lookup name =
      (vars.reverse.lookup name).or (environment.lookup name) := by
  induction vars generalizing environment with
  | nil => rfl
  | cons entry vars ih =>
    obtain ⟨k, v⟩ := entry
    have first : overlay environment ((k, v) :: vars) =
        overlay (environment.filter (·.1 ≠ k) ++ [(k, v)]) vars := rfl
    rw [first, ih, lookup_set, List.reverse_cons, List.lookup_append, Option.or_assoc,
      Members.lookup_cons, List.lookup_nil]
    split <;> rfl

/-! ## Environment files -/

/-- The entries of an environment file, none for each that is malformed; a file that cannot be read
has no entries. -/
def entriesAt (m : Machine) (path : String) : List (Option (String × String)) :=
  match m.files.read m.directory path with
  | .ok bytes => DotEnv.entries m.environment bytes
  | .error _ => []

/-- The entries of environment files, one file after the other. -/
def entriesOf (m : Machine) (paths : List String) : List (Option (String × String)) :=
  paths.flatMap m.entriesAt

theorem definitions_eq (m : Machine) (paths : List String) :
    m.definitions paths = paths.flatMap fun path => (m.entriesAt path).filterMap id := by
  refine congrArg (paths.flatMap ·) (funext fun path => ?_)
  rw [entriesAt]
  cases m.files.read m.directory path <;> rfl

theorem definitions_eq_filterMap (m : Machine) (paths : List String) :
    m.definitions paths = (m.entriesOf paths).filterMap id := by
  rw [definitions_eq, entriesOf, List.filterMap_flatMap]

end Machine

namespace DotEnv

variable {entries : List (Option (String × String))} {name value : String}

/-- No well-formed entry has the name. -/
def Lacks (name : String) (entries : List (Option (String × String))) : Prop :=
  ∀ value, some (name, value) ∉ entries

theorem lookup_eq_none_iff : (entries.filterMap id).lookup name = none ↔ Lacks name entries := by
  rw [List.lookup_eq_none_iff]
  constructor
  · intro apart value mem
    have other := apart (name, value) (List.mem_filterMap.2 ⟨_, mem, rfl⟩)
    simp at other
  · rintro lacks ⟨k, v⟩ mem
    obtain ⟨entry, mem, rfl⟩ := List.mem_filterMap.1 mem
    exact bne_iff_ne.2 fun same => lacks v (by rw [same]; exact mem)

/-- What is found among the well-formed entries is the first one of the name. -/
theorem lookup_eq_some_iff : (entries.filterMap id).lookup name = some value ↔
    ∃ before after, entries = before ++ some (name, value) :: after ∧ Lacks name before := by
  constructor
  · intro found
    obtain ⟨first, rest, split, apart⟩ := List.lookup_eq_some_iff.1 found
    obtain ⟨before, after, rfl, rfl, hafter⟩ := List.filterMap_eq_append_iff.1 split
    obtain ⟨skipped, entry, after, rfl, hskipped, same, -⟩ := List.filterMap_eq_cons_iff.1 hafter
    obtain rfl : entry = some (name, value) := same
    refine ⟨before ++ skipped, after, (List.append_assoc ..).symm, fun other mem => ?_⟩
    obtain mem | mem := List.mem_append.1 mem
    · have other := apart (name, other) (List.mem_filterMap.2 ⟨_, mem, rfl⟩)
      simp at other
    · cases hskipped _ mem
  · rintro ⟨before, after, rfl, lacks⟩
    rw [List.filterMap_append, List.lookup_append, lookup_eq_none_iff.2 lacks, Option.none_or,
      List.filterMap_cons_some (f := id) rfl, Members.lookup_cons, if_pos rfl]

end DotEnv

/-! ## What the tool sees -/

/-- Where a path leads, seen from a directory if there is one. -/
inductive Path.Leads (dir : Option String) (path : String) : String → Prop where
  | absolute : isAbsolute path = true → Leads dir path path
  | nowhere : dir = none → Leads dir path path
  | relative {d : String} : dir = some d → isAbsolute path = false → Leads dir path (join d path)

theorem Path.leads_iff {dir : Option String} {path target : String} :
    Leads dir path target ↔ (match dir with
      | some d => join d path
      | none => path) = target := by
  have absolute {d : String} (h : isAbsolute path = true) : join d path = path := by
    rw [join, if_pos h]
  constructor
  · rintro (h | rfl | ⟨rfl, -⟩)
    · cases dir with
      | none => rfl
      | some d => exact absolute h
    · rfl
    · rfl
  · rintro rfl
    cases dir with
    | none => exact .nowhere rfl
    | some d =>
      cases h : isAbsolute path with
      | true =>
        show Leads (some d) path (join d path)
        rw [absolute h]
        exact .absolute h
      | false => exact .relative rfl h

namespace Config

variable {c : Config} {m m' : Machine} {dir : Option String} {files : List String} {name : String}
  {value : Option String}

/-- The paths of the environment files in their order: `.env` in the directory, if the settings say
that it is used and there is a directory; and those of the settings, their variables filled in, seen
from the directory. -/
inductive Lists (c : Config) (dir : Option String) : List String → Prop where
  | withOwn {d : String} {custom : List String} :
      c.settings.environment.useDotEnvFile = true → dir = some d →
      List.Forall₂ (fun file => Path.Leads dir (c.vars.interpolate file))
        c.settings.environment.customDotEnvFiles custom →
      Lists c dir (Path.join d ".env" :: custom)
  | customOnly {custom : List String} :
      c.settings.environment.useDotEnvFile = false ∨ dir = none →
      List.Forall₂ (fun file => Path.Leads dir (c.vars.interpolate file))
        c.settings.environment.customDotEnvFiles custom →
      Lists c dir custom

/-- The value, if any, that a variable gets: from the settings, the variables of the environment of
the tool after the others, of which the last one to name it counts; or else from the environment; or
else from the first well-formed entry for it in the environment files, in their order; or else it
gets none. -/
inductive Gives (c : Config) (m : Machine) (dir : Option String) (name : String) :
    Option String → Prop where
  | settings {before after : List EnvironmentVariable} {value : String} :
      c.settings.environmentVariables ++ c.settings.environment.environmentVariables =
        before ++ ⟨name, value⟩ :: after →
      (∀ v ∈ after, v.key ≠ name) → Gives c m dir name (some value)
  | environment {value : String} :
      (∀ v ∈ c.settings.environmentVariables ++ c.settings.environment.environmentVariables,
        v.key ≠ name) →
      m.environment.lookup name = some value → Gives c m dir name (some value)
  | file {files : List String} {before after : List (Option (String × String))} {value : String} :
      (∀ v ∈ c.settings.environmentVariables ++ c.settings.environment.environmentVariables,
        v.key ≠ name) →
      m.environment.lookup name = none → c.Lists dir files →
      m.entriesOf files = before ++ some (name, value) :: after →
      (∀ other, some (name, other) ∉ before) → Gives c m dir name (some value)
  | unset {files : List String} :
      (∀ v ∈ c.settings.environmentVariables ++ c.settings.environment.environmentVariables,
        v.key ≠ name) →
      m.environment.lookup name = none → c.Lists dir files →
      (∀ value, some (name, value) ∉ m.entriesOf files) → Gives c m dir name none

/-! ### The settings -/

theorem lists_iff : c.Lists dir files ↔ files = c.environmentFiles dir := by
  have custom (paths : List String) :
      List.Forall₂ (fun file => Path.Leads dir (c.vars.interpolate file))
        c.settings.environment.customDotEnvFiles paths ↔
      c.settings.environment.customDotEnvFiles.map (fun file =>
        match dir with
        | some d => Path.join d (c.vars.interpolate file)
        | none => c.vars.interpolate file) = paths := by
    have leads : (fun file => Path.Leads dir (c.vars.interpolate file)) = fun file path =>
        (match dir with
          | some d => Path.join d (c.vars.interpolate file)
          | none => c.vars.interpolate file) = path :=
      funext₂ fun _ _ => propext Path.leads_iff
    rw [leads, ← List.forall₂_eq_eq_eq, List.forall₂_map_left_iff]
  rw [environmentFiles]
  constructor
  · rintro (⟨used, rfl, paths⟩ | ⟨unused, paths⟩)
    · rw [← (custom _).1 paths, if_pos used]
      rfl
    · rw [← (custom _).1 paths]
      obtain unused | rfl := unused
      · rw [if_neg (by simp [unused])]
        rfl
      · simp
  · rintro rfl
    cases used : c.settings.environment.useDotEnvFile with
    | false => exact .customOnly (.inl used) ((custom _).2 rfl)
    | true =>
      cases dir with
      | none => exact .customOnly (.inr rfl) ((custom _).2 rfl)
      | some d => exact .withOwn used rfl ((custom _).2 rfl)

/-- No variable of the settings has the name. -/
theorem unnamed_iff :
    (∀ v ∈ c.settings.environmentVariables ++ c.settings.environment.environmentVariables,
      v.key ≠ name) ↔ c.settings.ownVariables.reverse.lookup name = none := by
  rw [Members.lookup_reverse_eq_none_iff, Settings.ownVariables, List.map_map]
  simp only [List.mem_map, Function.comp_apply, not_exists, not_and]

/-- The last one of the variables of the settings that have the name has the value. -/
theorem last_iff {value : String} :
    (∃ before after, c.settings.environmentVariables ++
        c.settings.environment.environmentVariables = before ++ ⟨name, value⟩ :: after ∧
      ∀ v ∈ after, v.key ≠ name) ↔
    c.settings.ownVariables.reverse.lookup name = some value := by
  rw [Members.lookup_reverse_eq_some_iff, Settings.ownVariables]
  constructor
  · rintro ⟨before, after, split, unnamed⟩
    refine ⟨_, _, by rw [split, List.map_append, List.map_cons], ?_⟩
    simpa using unnamed
  · rintro ⟨before, after, split, unnamed⟩
    obtain ⟨before, rest, whole, rfl, hrest⟩ := List.map_eq_append_iff.1 split
    obtain ⟨⟨k, v⟩, after, rfl, same, rfl⟩ := List.map_eq_cons_iff.1 hrest
    obtain ⟨rfl, rfl⟩ := Prod.mk.inj same
    exact ⟨before, after, whole, by simpa using unnamed⟩

/-! ### The variables of the tool -/

/-- Neither the environment nor the settings define a variable. -/
def leavesOpen (c : Config) (m : Machine) (name : String) : Bool :=
  (m.environment.lookup name).isNone && ! c.settings.ownVariables.any (·.1 = name)

theorem overlay_eq (c : Config) (m : Machine) (dir : Option String) :
    c.overlay m dir = c.settings.ownVariables ++
      (firstDefinitions ((m.entriesOf (c.environmentFiles dir)).filterMap id)).filter
        fun entry => c.leavesOpen m entry.1 := by
  rw [← Machine.definitions_eq_filterMap]
  rfl

theorem any_ownVariables_iff {c : Config} :
    c.settings.ownVariables.any (·.1 = name) = true ↔ name ∈ c.settings.ownVariables.map (·.1) := by
  simp [List.any_eq_true]

/-- The tool sees what the settings say, or else the environment, or else the files. -/
theorem lookup_overlay (c : Config) (m : Machine) (dir : Option String) (name : String) :
    (Machine.overlay m.environment (c.overlay m dir)).lookup name =
      (c.settings.ownVariables.reverse.lookup name).or ((m.environment.lookup name).or
        (((m.entriesOf (c.environmentFiles dir)).filterMap id).lookup name)) := by
  have once : (((firstDefinitions ((m.entriesOf (c.environmentFiles dir)).filterMap id)).filter
      fun entry => c.leavesOpen m entry.1).map (·.1)).Nodup :=
    (nodup_firstDefinitions _).sublist (List.filter_sublist.map _)
  rw [Machine.lookup_overlay, overlay_eq, List.reverse_append, List.lookup_append,
    Members.lookup_reverse once, Members.lookup_filter, lookup_firstDefinitions, leavesOpen]
  cases own : c.settings.ownVariables.reverse.lookup name with
  | some value =>
    have named : c.settings.ownVariables.any (·.1 = name) = true := by
      rw [any_ownVariables_iff]
      by_contra unnamed
      rw [Members.lookup_reverse_eq_none_iff.2 unnamed] at own
      cases own
    simp only [named, Bool.not_true, Bool.and_false, Bool.false_eq_true, if_false, Option.none_or,
      Option.some_or]
  | none =>
    have unnamed : c.settings.ownVariables.any (·.1 = name) = false :=
      Bool.eq_false_iff.2 (mt any_ownVariables_iff.1 (Members.lookup_reverse_eq_none_iff.1 own))
    rw [unnamed]
    cases m.environment.lookup name <;> simp

theorem gives_iff : c.Gives m dir name value ↔
    (Machine.overlay m.environment (c.overlay m dir)).lookup name = value := by
  rw [lookup_overlay]
  constructor
  · rintro (⟨last, later⟩ | ⟨unnamed, found⟩ | ⟨unnamed, unset, lists, first, lacks⟩ |
      ⟨unnamed, unset, lists, lacks⟩)
    · rw [last_iff.1 ⟨_, _, last, later⟩, Option.some_or]
    · rw [unnamed_iff.1 unnamed, found, Option.none_or, Option.some_or]
    · rw [unnamed_iff.1 unnamed, unset, ← lists_iff.1 lists,
        DotEnv.lookup_eq_some_iff.2 ⟨_, _, first, lacks⟩, Option.none_or, Option.none_or]
    · rw [unnamed_iff.1 unnamed, unset, ← lists_iff.1 lists, DotEnv.lookup_eq_none_iff.2 lacks,
        Option.none_or, Option.none_or]
  · rintro rfl
    cases own : c.settings.ownVariables.reverse.lookup name with
    | some value =>
      obtain ⟨before, after, last, later⟩ := last_iff.2 own
      exact .settings last later
    | none =>
      have unnamed := unnamed_iff.2 own
      rw [Option.none_or]
      cases unset : m.environment.lookup name with
      | some value => exact .environment unnamed unset
      | none =>
        rw [Option.none_or]
        cases found : ((m.entriesOf (c.environmentFiles dir)).filterMap id).lookup name with
        | some value =>
          obtain ⟨before, after, first, lacks⟩ := DotEnv.lookup_eq_some_iff.1 found
          exact .file unnamed unset (lists_iff.2 rfl) first lacks
        | none => exact .unset unnamed unset (lists_iff.2 rfl) (DotEnv.lookup_eq_none_iff.1 found)

/-- What the tool is given depends on the well-formed entries of the files alone. -/
theorem overlay_congr (environment : m'.environment = m.environment) (lists : c.Lists dir files)
    (same : ∀ path ∈ files,
      (m'.entriesAt path).filterMap id = (m.entriesAt path).filterMap id) :
    c.overlay m' dir = c.overlay m dir := by
  obtain rfl := lists_iff.1 lists
  have definitions : (m'.entriesOf (c.environmentFiles dir)).filterMap id =
      (m.entriesOf (c.environmentFiles dir)).filterMap id := by
    rw [← Machine.definitions_eq_filterMap, ← Machine.definitions_eq_filterMap,
      Machine.definitions_eq, Machine.definitions_eq]
    exact List.flatMap_congr same
  rw [overlay_eq, overlay_eq, definitions]
  refine congrArg _ (List.filter_congr fun entry _ => ?_)
  rw [leavesOpen, leavesOpen, environment]

/-- What is said of the variables that a configuration gives the tool in a directory: the value of
each of them, that a file that is missing and a malformed entry affect no other entry, and that the
tool sees them. -/
structure HasPrecedence (c : Config) (m : Machine) (dir : Option String) : Prop where
  gives : ∀ name value, c.Gives m dir name value ↔
    (Machine.overlay m.environment (c.overlay m dir)).lookup name = value
  kept : ∀ (m' : Machine) files, m'.environment = m.environment → c.Lists dir files →
    (∀ path ∈ files, (m'.entriesAt path).filterMap id = (m.entriesAt path).filterMap id) →
    c.overlay m' dir = c.overlay m dir
  seen : ∀ (w : Workspace) arguments input place behaviour, w.machine = m →
    c.workingDirectory? = dir → m.behaviour (w.command c arguments input) = .ok (place, behaviour) →
    m.start m.files (Machine.overlay m.environment (c.overlay m dir)) place
      (w.command c arguments input) = .ok behaviour

/-- The settings come before the environment, and that before the environment files; the last value
of the settings counts, but the first one of the files. -/
theorem hasPrecedence (c : Config) (m : Machine) (dir : Option String) : c.HasPrecedence m dir where
  gives _ _ := gives_iff
  kept _ _ := overlay_congr
  seen := by
    rintro w arguments input place behaviour rfl rfl h
    exact Machine.start_of_behaviour h

end Config

end SqlLint
