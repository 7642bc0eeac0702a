import Mathlib.Data.List.Induction
import SqlLint.Path
import SqlLint.Proofs.Text.Pieces

/-!
# Components of paths

The parts of a path between its slashes (`parts`), what becomes of them when backslashes turn into
slashes (`parts_slashed`), when a path is appended to a directory (`parts_join`) and when a path is
made of components (`parts_ofComponents`).  `between_cases` says which way leads from a directory to
a path: on from the directory, up from it and on, or none; `between_inj` that it leads to no other
path.
-/

namespace SqlLint

namespace Path

open Text

variable {xs ys : List Char} {c : Component} {path dir : String}

/-- The components of a text, with no regard to its start. -/
def parts (xs : List Char) : List Component := (pieces (· == '/') xs).filterMap ofPart

theorem components_of_isAbsolute (h : isAbsolute path = true) :
    components path = .root :: parts path.toList := by
  simp only [components, h, if_true, List.cons_append, List.nil_append, parts]

@[simp] theorem parts_nil : parts [] = [] := by decide

theorem parts_append_slash (xs ys : List Char) :
    parts (xs ++ '/' :: ys) = parts xs ++ parts ys := by
  simp only [parts, pieces_append_cons (p := (· == '/')) (c := '/') rfl, List.filterMap_append]

theorem parts_of_not_mem (h : '/' ∉ xs) : parts xs = (ofPart xs).toList := by
  have whole : pieces (· == '/') xs = [xs] := by
    apply pieces_of_none
    intro x hx
    exact beq_false_of_ne fun e => h (e ▸ hx)
  rw [parts, whole]
  cases h : ofPart xs <;> simp [h]

theorem toList_text_of_ofPart (h : ofPart xs = some c) : c.text.toList = xs := by
  unfold ofPart at h
  split at h
  · cases h
  · split at h
    · next up =>
      cases h
      exact up.symm
    · cases h
      exact String.toList_ofList

/-- A component that stands between two slashes. -/
structure IsPart (c : Component) : Prop where
  ofPart_text : ofPart c.text.toList = some c
  not_mem : '/' ∉ c.text.toList

theorem exists_of_mem_parts (h : c ∈ parts xs) : IsPart c ∧ ∀ x ∈ c.text.toList, x ∈ xs := by
  obtain ⟨l, hl, hc⟩ := List.mem_filterMap.1 h
  have text := toList_text_of_ofPart hc
  refine ⟨⟨text.symm ▸ hc, ?_⟩, ?_⟩
  · intro slash
    have := (of_mem_pieces hl '/' (text ▸ slash)).2
    simp at this
  · intro x hx
    exact (of_mem_pieces hl x (text ▸ hx)).1

theorem isPart_of_mem (h : c ∈ parts xs) : IsPart c := (exists_of_mem_parts h).1

namespace IsPart

theorem ne_here (h : IsPart c) : c ≠ .here := by
  rintro rfl
  exact absurd h.ofPart_text (by decide)

theorem parts_text (h : IsPart c) : parts c.text.toList = [c] := by
  rw [parts_of_not_mem h.not_mem, h.ofPart_text, Option.toList_some]

theorem isAbsolute_text (h : IsPart c) : isAbsolute c.text = false := by
  cases hc : c.text.toList with
  | nil => simp [isAbsolute, hc]
  | cons x xs =>
    have : x ≠ '/' := fun e => h.not_mem (by simp [hc, e])
    simp [isAbsolute, hc, this]

theorem up : IsPart .up := ⟨by decide, by decide⟩

end IsPart

/-! ## Backslashes -/

theorem slashed_append_slash (after : Bool) (xs ys : List Char) :
    slashed after (xs ++ '/' :: ys) = slashed after xs ++ '/' :: slashed false ys := by
  induction xs generalizing after with
  | nil => simp [slashed]
  | cons x xs ih =>
    by_cases hx : x = '\\'
    · cases after <;> simp [slashed, hx, ih]
    · simp [slashed, hx, ih]

theorem not_mem_slashed (after : Bool) (xs : List Char) : '\\' ∉ slashed after xs := by
  induction xs generalizing after with
  | nil => simp [slashed]
  | cons x xs ih =>
    by_cases hx : x = '\\'
    · cases after <;> simp [slashed, hx, ih]
    · simp [slashed, hx, ih, Ne.symm hx]

theorem slashed_of_not_mem (after : Bool) (h : '\\' ∉ xs) : slashed after xs = xs := by
  induction xs generalizing after with
  | nil => rfl
  | cons x xs ih =>
    obtain ⟨hx, hxs⟩ := List.ne_and_not_mem_of_not_mem_cons h
    simp [slashed, hx.symm, ih _ hxs]

@[simp] theorem toList_forwardSlashes (path : String) :
    (forwardSlashes path).toList = slashed false path.toList := String.toList_ofList

theorem forwardSlashes_of_not_mem (h : '\\' ∉ path.toList) : forwardSlashes path = path := by
  rw [forwardSlashes, slashed_of_not_mem _ h, String.ofList_toList]

@[simp] theorem forwardSlashes_forwardSlashes (path : String) :
    forwardSlashes (forwardSlashes path) = forwardSlashes path := by
  apply forwardSlashes_of_not_mem
  rw [toList_forwardSlashes]
  exact not_mem_slashed _ _

theorem isAbsolute_forwardSlashes (h : isAbsolute path = true) :
    isAbsolute (forwardSlashes path) = true := by
  rw [isAbsolute, toList_forwardSlashes]
  rw [isAbsolute] at h
  cases hp : path.toList with
  | nil => simp [hp] at h
  | cons x xs =>
    obtain rfl : x = '/' := by simpa [hp] using h
    rfl

/-- What becomes of a component when backslashes turn into slashes. -/
def respelled (c : Component) : List Component := parts (slashed false c.text.toList)

/-- Backslashes are taken apart within the components. -/
theorem parts_slashed (xs : List Char) :
    parts (slashed false xs) = (parts xs).flatMap respelled := by
  have one (l : List Char) (slashless : ∀ x ∈ l, (x == '/') = false) :
      parts (slashed false l) = (parts l).flatMap respelled := by
    have slash : '/' ∉ l := fun h => by simpa using slashless '/' h
    rw [parts_of_not_mem slash]
    cases hl : ofPart l with
    | some c => simp [respelled, toList_text_of_ofPart hl]
    | none =>
      -- Only an empty part and a dot are no components, and neither holds a backslash.
      unfold ofPart at hl
      split at hl
      · next nothing => obtain rfl | rfl := nothing <;> decide
      · split at hl <;> cases hl
  induction xs using cut_induction (· == '/') with
  | whole l slashless => exact one l slashless
  | cut l c rest slashless hc ih =>
    obtain rfl : c = '/' := by simpa using hc
    rw [slashed_append_slash, parts_append_slash, parts_append_slash, List.flatMap_append, ih,
      one l slashless]

theorem respelled_of_not_mem (h : IsPart c) (plain : '\\' ∉ c.text.toList) : respelled c = [c] := by
  rw [respelled, slashed_of_not_mem _ plain, h.parts_text]

theorem flatMap_respelled {cs : List Component}
    (h : ∀ c ∈ cs, IsPart c ∧ '\\' ∉ c.text.toList) : cs.flatMap respelled = cs := by
  induction cs with
  | nil => rfl
  | cons c cs ih =>
    obtain ⟨hc, hcs⟩ := List.forall_mem_cons.1 h
    rw [List.flatMap_cons, respelled_of_not_mem hc.1 hc.2, ih hcs, List.singleton_append]

theorem lexical_forwardSlashes (h : isAbsolute path = true) :
    lexical (forwardSlashes path) = .root :: (parts path.toList).flatMap respelled := by
  rw [lexical, components_of_isAbsolute (isAbsolute_forwardSlashes h), toList_forwardSlashes,
    ← parts_slashed]
  refine (List.filter_cons_of_pos (by decide)).trans (congrArg _ ?_)
  rw [List.filter_eq_self]
  intro c hc
  simpa using (isPart_of_mem hc).ne_here

/-- Paths with the same components are the same. -/
theorem same_of_parts_eq {a b : String} (ha : isAbsolute a = true) (hb : isAbsolute b = true)
    (h : parts a.toList = parts b.toList) : same a b = true := by
  rw [same, lexical_forwardSlashes ha, lexical_forwardSlashes hb, h]
  exact decide_eq_true rfl

/-- No step up is lost. -/
theorem count_up_le (cs : List Component) : cs.count .up ≤ (cs.flatMap respelled).count .up := by
  induction cs with
  | nil => simp
  | cons c cs ih =>
    rw [List.flatMap_cons, List.count_append, List.count_cons]
    split
    · next hc =>
      obtain rfl : c = .up := by simpa using hc
      have : respelled .up = [.up] := by decide
      rw [this, List.count_singleton_self]
      omega
    · omega

/-! ## Paths appended to directories -/

theorem exists_toList_join (hdir : dir ≠ "") (hpath : isAbsolute path = false) :
    ∃ before, (join dir path).toList = before ++ '/' :: path.toList ∧
      (dir.toList = before ∨ dir.toList = before ++ ['/']) := by
  simp only [join, hpath, Bool.false_eq_true, if_false]
  have : dir.isEmpty = false := by simpa [String.isEmpty_iff] using hdir
  split
  · next h =>
    obtain h | h := h
    · simp [this] at h
    · obtain ⟨before, hbefore⟩ := List.getLast?_eq_some_iff.1 h
      exact ⟨before, by simp [hbefore], .inr hbefore⟩
  · exact ⟨dir.toList, by simp, .inl rfl⟩

theorem parts_join (hdir : dir ≠ "") (hpath : isAbsolute path = false) :
    parts (join dir path).toList = parts dir.toList ++ parts path.toList := by
  obtain ⟨before, join, hbefore | hbefore⟩ := exists_toList_join hdir hpath
  · rw [join, parts_append_slash, hbefore]
  · rw [join, parts_append_slash, hbefore, parts_append_slash, parts_nil, List.append_nil]

theorem isAbsolute_join (hdir : dir ≠ "") (hpath : isAbsolute path = false) :
    isAbsolute (join dir path) = isAbsolute dir := by
  have : dir.toList ≠ [] := by simpa using hdir
  obtain ⟨x, xs, hx⟩ := List.exists_cons_of_ne_nil this
  simp only [join, hpath, Bool.false_eq_true, if_false]
  split <;> simp [isAbsolute, hx]

theorem ofComponents_concat (cs : List Component) (c : Component) :
    ofComponents (cs ++ [c]) = join (ofComponents cs) c.text := by
  simp [ofComponents, List.foldl_append]

theorem join_empty (hpath : isAbsolute path = false) : join "" path = path := by
  simp [join, hpath]

/-! ## Paths made of components -/

theorem isAbsolute_ofComponents {cs : List Component} (h : ∀ c ∈ cs, IsPart c) :
    isAbsolute (ofComponents cs) = false := by
  induction cs using List.reverseRecOn with
  | nil => rfl
  | append_singleton cs c ih =>
    obtain ⟨hcs, hc⟩ := List.forall_mem_append.1 h
    have hc := hc c (List.mem_singleton_self c)
    rw [ofComponents_concat]
    by_cases empty : ofComponents cs = ""
    · rw [empty, join_empty hc.isAbsolute_text]
      exact hc.isAbsolute_text
    · rw [isAbsolute_join empty hc.isAbsolute_text, ih hcs]

theorem parts_ofComponents {cs : List Component} (h : ∀ c ∈ cs, IsPart c) :
    parts (ofComponents cs).toList = cs := by
  induction cs using List.reverseRecOn with
  | nil => rfl
  | append_singleton cs c ih =>
    obtain ⟨hcs, hc⟩ := List.forall_mem_append.1 h
    have hc := hc c (List.mem_singleton_self c)
    rw [ofComponents_concat]
    by_cases empty : ofComponents cs = ""
    · have same := ih hcs
      rw [empty] at same
      rw [empty, join_empty hc.isAbsolute_text, hc.parts_text, ← same]
      rfl
    · rw [parts_join empty hc.isAbsolute_text, ih hcs, hc.parts_text]

theorem not_mem_join {x : Char} (hx : x ≠ '/') (hdir : x ∉ dir.toList) (hpath : x ∉ path.toList) :
    x ∉ (join dir path).toList := by
  unfold join
  split
  · exact hpath
  · split <;> simp [hx, hdir, hpath]

theorem not_mem_ofComponents {cs : List Component} (h : ∀ c ∈ cs, '\\' ∉ c.text.toList) :
    '\\' ∉ (ofComponents cs).toList := by
  induction cs using List.reverseRecOn with
  | nil => simp [ofComponents]
  | append_singleton cs c ih =>
    obtain ⟨hcs, hc⟩ := List.forall_mem_append.1 h
    rw [ofComponents_concat]
    exact not_mem_join (by decide) (ih hcs) (hc c (List.mem_singleton_self c))

/-- The path is as an editor gives it: from the root, with nothing that could be left out or that
goes up. -/
structure IsPlain (path : String) : Prop where
  isAbsolute : isAbsolute path = true
  not_mem : '\\' ∉ path.toList
  level : .up ∉ parts path.toList
  ofComponents_eq : ofComponents (.root :: parts path.toList) = path

example : IsPlain "/one/a.sql" := by
  constructor <;> decide +kernel

theorem IsPlain.slashed_eq (h : IsPlain path) : slashed false path.toList = path.toList :=
  slashed_of_not_mem _ h.not_mem

theorem IsPlain.level_slashed (h : IsPlain path) : .up ∉ parts (slashed false path.toList) := by
  rw [h.slashed_eq]
  exact h.level

/-! ## Ways -/

variable {shared rest beyond path dir : List Component}

/-- To a path in the directory, the way goes on. -/
theorem between_append (dir rest : List Component) :
    between true (dir ++ rest) dir = some rest := by
  induction dir with
  | nil => cases rest <;> rfl
  | cons c dir ih => simp [between, ih]

/-- There is no way where the directory itself goes up and the path does not. -/
theorem between_stray (shared : List Component) {c : Component} (hc : c ≠ .up) :
    between true (shared ++ c :: rest) (shared ++ .up :: beyond) = none := by
  induction shared with
  | nil => simp [between, hc]
  | cons d shared ih => simp [between, ih]

theorem between_nil (dir : List Component) (shared : Bool) :
    between shared [] dir = some (dir.map fun _ => .up) := by
  induction dir generalizing shared with
  | nil => rfl
  | cons c dir ih => simp [between, ih]

/-- The way from a directory to a path goes on, or there is none, or it begins with a step up for
every component of the directory that is not shared. -/
theorem between_cases (path : List Component) {dir : List Component} (dots : .here ∉ dir) :
    (∃ rest, path = dir ++ rest) ∨
    (∃ shared c rest beyond, path = shared ++ c :: rest ∧ dir = shared ++ .up :: beyond ∧ c ≠ .up) ∨
    ∃ shared c rest beyond, path = shared ++ rest ∧ dir = shared ++ c :: beyond ∧
      between true path dir = some ((c :: beyond).map (fun _ => .up) ++ rest) := by
  induction dir generalizing path with
  | nil => exact .inl ⟨path, rfl⟩
  | cons d dir ih =>
    obtain ⟨hd, hdir⟩ := List.ne_and_not_mem_of_not_mem_cons dots
    cases path with
    | nil => exact .inr (.inr ⟨[], d, [], dir, rfl, rfl, by simp [between_nil]⟩)
    | cons c path =>
      -- The first components that differ decide.
      by_cases same : c = d
      · subst same
        obtain ⟨rest, rfl⟩ | ⟨shared, a, rest, beyond, rfl, rfl, ha⟩ |
          ⟨shared, a, rest, beyond, hpath, rfl, way⟩ := ih path hdir
        · exact .inl ⟨rest, rfl⟩
        · exact .inr (.inl ⟨c :: shared, a, rest, beyond, rfl, rfl, ha⟩)
        · refine .inr (.inr ⟨c :: shared, a, rest, beyond, by rw [hpath]; rfl, rfl, ?_⟩)
          simpa [between] using way
      · by_cases up : d = .up
        · subst up
          exact .inr (.inl ⟨[], c, path, dir, rfl, rfl, same⟩)
        · refine .inr (.inr ⟨[], d, c :: path, dir, rfl, rfl, ?_⟩)
          simp [between, same, up, hd.symm]

/-- The way to a path goes up from what the directory does not share with it, and on. -/
theorem between_eq (path : List Component) {dir : List Component} (dots : .here ∉ dir)
    (ups : .up ∉ dir) :
    ∃ shared rest beyond, path = shared ++ rest ∧ dir = shared ++ beyond ∧
      between true path dir = some (List.replicate beyond.length .up ++ rest) := by
  obtain ⟨rest, rfl⟩ | ⟨shared, c, rest, beyond, -, rfl, -⟩ |
    ⟨shared, c, rest, beyond, rfl, rfl, way⟩ := between_cases path dots
  · exact ⟨dir, rest, [], rfl, by simp, between_append dir rest⟩
  · exact absurd (by simp) ups
  · exact ⟨shared, rest, c :: beyond, rfl, rfl, by rw [way, List.map_const']⟩

/-- From one directory, different ways lead to paths that do not go up themselves. -/
theorem between_inj {path other dir : List Component} (dots : .here ∉ dir) (ups : .up ∉ dir)
    (hpath : .up ∉ path) (hother : .up ∉ other)
    (h : between true path dir = between true other dir) : path = other := by
  obtain ⟨shared, rest, beyond, rfl, hdir, way⟩ := between_eq path dots ups
  obtain ⟨shared', rest', beyond', rfl, hdir', way'⟩ := between_eq other dots ups
  have same := Option.some.inj (way.symm.trans (h.trans way'))
  -- The steps up are counted; what follows them has none.
  have level : rest.count .up = 0 := List.count_eq_zero.2 fun up => hpath (by simp [up])
  have level' : rest'.count .up = 0 := List.count_eq_zero.2 fun up => hother (by simp [up])
  have steps : beyond.length = beyond'.length := by
    have counts := congrArg (List.count .up) same
    simpa [level, level'] using counts
  rw [steps] at same
  obtain rfl := List.append_cancel_left same
  obtain ⟨rfl, -⟩ := List.append_inj' (hdir.symm.trans hdir') steps
  rfl

end Path

end SqlLint
