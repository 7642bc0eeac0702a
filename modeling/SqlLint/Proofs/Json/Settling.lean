import Mathlib.Data.List.Forall2
import Mathlib.Data.List.Nodup
import Mathlib.Data.Option.Basic
import SqlLint.Json.Record

/-!
# Drafts and their values

A reader of records need not know whether it reads a text or what was made of its value.  The draft of
the value has the same simple values as that of the text, and an array or an object where the text
has one (`Draft.IsAlike`); the fields of a record stand in another order, that of their keys, but
each is found under its name as long as none was given twice (`isAlike_record?`).
-/

namespace SqlLint

/-! ## Members in the order of their keys -/

namespace Members

variable {α : Type} {entries : Members α}

theorem lookup_cons (k name : String) (v : α) (entries : Members α) :
    List.lookup name ((k, v) :: entries) =
      if name = k then some v else entries.lookup name := by
  by_cases same : name = k
  · simp [same]
  · rw [List.lookup_cons, beq_false_of_ne same, if_neg same]

theorem lookup_insert (key name : String) (value : α) (entries : Members α) :
    (insert key value entries).lookup name =
      if name = key then some value else entries.lookup name := by
  induction entries with
  | nil => exact lookup_cons key name value []
  | cons entry entries ih =>
    obtain ⟨k, v⟩ := entry
    rw [insert]
    split
    · next same => subst same; simp only [lookup_cons]; split <;> rfl
    · next other =>
      split
      · rw [lookup_cons]
      · rw [lookup_cons, ih, lookup_cons]
        by_cases here : name = k
        · subst here
          rw [if_pos rfl, if_neg other, if_pos rfl]
        · rw [if_neg here, if_neg here]

theorem insert_perm {key : String} (fresh : key ∉ entries.map (·.1)) (value : α) :
    (insert key value entries).Perm ((key, value) :: entries) := by
  induction entries with
  | nil => exact .refl _
  | cons entry entries ih =>
    obtain ⟨k, v⟩ := entry
    rw [List.map_cons, List.mem_cons, not_or] at fresh
    rw [insert, if_neg (Ne.symm fresh.1)]
    split
    · exact .refl _
    · exact ((ih fresh.2).cons _).trans (.swap _ _ _)

theorem ofList_perm {entries : List (String × α)} (once : (entries.map (·.1)).Nodup) :
    (ofList entries).Perm entries := by
  have step (acc : Members α) (apart : ((acc ++ entries).map (·.1)).Nodup) :
      (entries.foldl (fun acc entry => insert entry.1 entry.2 acc) acc).Perm (acc ++ entries) := by
    clear once
    induction entries generalizing acc with
    | nil => rw [List.append_nil]; exact .refl _
    | cons entry entries ih =>
      obtain ⟨k, v⟩ := entry
      have fresh : k ∉ acc.map (·.1) := by
        rw [List.map_append, List.nodup_append] at apart
        exact fun mem => apart.2.2 k mem k (List.mem_cons_self ..) rfl
      have moved : (insert k v acc ++ entries).Perm (acc ++ (k, v) :: entries) :=
        ((insert_perm fresh v).append_right entries).trans List.perm_middle.symm
      rw [List.foldl_cons]
      exact (ih _ ((moved.map _).nodup_iff.2 apart)).trans moved
  exact step [] once

theorem lookup_reverse {entries : List (String × α)} (once : (entries.map (·.1)).Nodup)
    (name : String) : entries.reverse.lookup name = entries.lookup name := by
  induction entries with
  | nil => rfl
  | cons entry entries ih =>
    obtain ⟨k, v⟩ := entry
    rw [List.map_cons, List.nodup_cons] at once
    rw [List.reverse_cons, List.lookup_append, ih once.2, lookup_cons, lookup_cons, List.lookup_nil]
    by_cases here : name = k
    · subst here
      have later : entries.lookup name = none := by
        rw [List.lookup_eq_none_iff]
        intro entry mem
        exact bne_iff_ne.2 fun same => once.1 (List.mem_map.2 ⟨entry, mem, same.symm⟩)
      rw [later, if_pos rfl, Option.none_or]
    · rw [if_neg here, if_neg here, Option.or_none]

/-- Of the entries of a key the last one is kept. -/
theorem lookup_ofList_eq (entries : List (String × α)) (name : String) :
    (ofList entries).lookup name = entries.reverse.lookup name := by
  have step (acc : Members α) :
      (entries.foldl (fun acc entry => insert entry.1 entry.2 acc) acc).lookup name =
        (entries.reverse.lookup name).or (acc.lookup name) := by
    induction entries generalizing acc with
    | nil => rfl
    | cons entry entries ih =>
      obtain ⟨k, v⟩ := entry
      rw [List.foldl_cons, ih, lookup_insert, List.reverse_cons, List.lookup_append, Option.or_assoc,
        lookup_cons, List.lookup_nil]
      split <;> rfl
  exact (step []).trans Option.or_none

theorem lookup_ofList {entries : List (String × α)} (once : (entries.map (·.1)).Nodup)
    (name : String) : (ofList entries).lookup name = entries.lookup name :=
  (lookup_ofList_eq entries name).trans (lookup_reverse once name)

theorem lookup_map {β : Type} (f : α → β) (entries : Members α) (name : String) :
    (entries.map fun entry => (entry.1, f entry.2)).lookup name = (entries.lookup name).map f := by
  induction entries with
  | nil => rfl
  | cons entry entries ih =>
    rw [List.map_cons, lookup_cons, lookup_cons, ih]
    split <;> rfl

end Members

/-! ## Values as they are read -/

namespace Json

theorem draftItems_eq (js : List Json) : draftItems js = js.map draft := by
  induction js with
  | nil => rfl
  | cons j js ih => rw [draftItems, ih, List.map_cons]

theorem draftMembers_eq (ms : List (String × Json)) :
    draftMembers ms = ms.map fun m => (some m.1, m.2.draft) := by
  induction ms with
  | nil => rfl
  | cons m ms ih => rw [draftMembers, ih, List.map_cons]

end Json

namespace Draft

variable {depth : Nat} {d d' : Draft} {j : Json}

/-- An array or an object. -/
def isCompound : Draft → Bool
  | .arr _ => true
  | .obj _ => true
  | _ => false

/-- The drafts are of one simple value, or each is an array or an object. -/
def IsAlike (d d' : Draft) : Prop := d = d' ∨ (d.isCompound = true ∧ d'.isCompound = true)

theorem forall₂_of_settleItems? {ds : List Draft} {js : List Json}
    (h : settleItems? depth ds = some js) :
    List.Forall₂ (fun d j => d.settleAt? depth = some j) ds js := by
  induction ds generalizing js with
  | nil =>
    obtain rfl := Option.some.inj h
    exact .nil
  | cons d ds ih =>
    simp only [settleItems?, Option.bind_eq_bind, Option.bind_eq_some_iff, pure,
      Option.some.injEq] at h
    obtain ⟨j, here, js, later, rfl⟩ := h
    exact .cons here (ih later)

theorem forall₂_of_settleMembers? {ms : List (Option String × Draft)} {ns : List (String × Json)}
    (h : settleMembers? depth ms = some ns) :
    List.Forall₂ (fun m n => m.1 = some n.1 ∧ m.2.settleAt? depth = some n.2) ms ns := by
  induction ms generalizing ns with
  | nil =>
    obtain rfl := Option.some.inj h
    exact .nil
  | cons m ms ih =>
    simp only [settleMembers?, Option.bind_eq_bind, Option.bind_eq_some_iff, pure,
      Option.some.injEq] at h
    obtain ⟨k, key, j, here, ns, later, rfl⟩ := h
    exact .cons ⟨key, here⟩ (ih later)

/-- What a settled draft is, and its value: both the same simple value, or both an array of values
that settle, or both an object of them. -/
theorem settleAt?_cases (h : d.settleAt? depth = some j) :
    (d = j.draft ∧ d.isCompound = false) ∨
    (∃ ds js, d = .arr ds ∧ j = .arr js ∧
      List.Forall₂ (fun d j => d.settleAt? (depth - 1) = some j) ds js) ∨
    (∃ ms ns, d = .obj ms ∧ j = .obj (Members.ofList ns) ∧
      List.Forall₂ (fun m n => m.1 = some n.1 ∧ m.2.settleAt? (depth - 1) = some n.2) ms ns) := by
  cases d with
  | null =>
    obtain rfl := Option.some.inj h
    exact .inl ⟨rfl, rfl⟩
  | bool b =>
    obtain rfl := Option.some.inj h
    exact .inl ⟨rfl, rfl⟩
  | num n =>
    obtain ⟨n, rfl, rfl⟩ := Option.map_eq_some_iff.1 h
    exact .inl ⟨rfl, rfl⟩
  | str s =>
    obtain ⟨s, rfl, rfl⟩ := Option.map_eq_some_iff.1 h
    exact .inl ⟨rfl, rfl⟩
  | arr ds =>
    rw [settleAt?] at h
    split at h
    · cases h
    · obtain ⟨js, settled, rfl⟩ := Option.map_eq_some_iff.1 h
      exact .inr (.inl ⟨ds, js, rfl, rfl, forall₂_of_settleItems? settled⟩)
  | obj ms =>
    rw [settleAt?] at h
    split at h
    · cases h
    · obtain ⟨ns, settled, rfl⟩ := Option.map_eq_some_iff.1 h
      exact .inr (.inr ⟨ms, ns, rfl, rfl, forall₂_of_settleMembers? settled⟩)

theorem isAlike_draft (h : d.settleAt? depth = some j) : d.IsAlike j.draft := by
  rcases settleAt?_cases h with ⟨same, -⟩ | ⟨ds, js, rfl, rfl, -⟩ | ⟨ms, ns, rfl, rfl, -⟩
  · exact .inl same
  · exact .inr ⟨rfl, rfl⟩
  · exact .inr ⟨rfl, rfl⟩

/-- A reader of simple values: it rejects arrays and objects. -/
def IsFlat {α : Type} (read : Draft → Option α) : Prop :=
  ∀ d, d.isCompound = true → read d = none

theorem isFlat_text? : IsFlat text? := by
  intro d h
  cases d <;> first | rfl | cases h

theorem isFlat_int64? : IsFlat int64? := by
  intro d h
  cases d <;> first | rfl | cases h

theorem nullable?_of_ne_null {α : Type} (read : Draft → Option α) (h : d ≠ null) :
    d.nullable? read = (read d).map some := by
  rw [nullable?]
  exact h

theorem isFlat_nullable? {α : Type} {read : Draft → Option α} (flat : IsFlat read) :
    IsFlat (nullable? read) := by
  intro d h
  have present : d ≠ null := by
    rintro rfl
    cases h
  rw [nullable?_of_ne_null read present, flat d h]
  rfl

theorem IsAlike.read_eq {α : Type} {read : Draft → Option α} (h : d.IsAlike d')
    (flat : IsFlat read) : read d = read d' := by
  rcases h with rfl | ⟨left, right⟩
  · rfl
  · rw [flat d left, flat d' right]

end Draft

/-! ## Records -/

/-- The records are written in one way and have alike fields under the same names. -/
structure Record.IsAlike (r r' : Record) : Prop where
  byName : r.byName = r'.byName
  lookup : ∀ name : String,
    Option.Rel Draft.IsAlike (r.fields.lookup name) (r'.fields.lookup name)

namespace Record.IsAlike

variable {r r' : Record} {α : Type} {read : Draft → Option α}

theorem optional_eq (h : r.IsAlike r') (flat : Draft.IsFlat read) (name : String) :
    r.optional name read = r'.optional name read := by
  have found := h.lookup name
  unfold optional
  generalize r.fields.lookup name = here, r'.fields.lookup name = there at found ⊢
  cases found with
  | none => rw [h.byName]
  | some alike => exact alike.read_eq (Draft.isFlat_nullable? flat)

theorem defaulted_eq (h : r.IsAlike r') (flat : Draft.IsFlat read) (name : String) (default : α) :
    r.defaulted name read default = r'.defaulted name read default := by
  have found := h.lookup name
  unfold defaulted
  generalize r.fields.lookup name = here, r'.fields.lookup name = there at found ⊢
  cases found with
  | none => rfl
  | some alike => exact alike.read_eq flat

end Record.IsAlike

/-! ## Records of drafts and of their values -/

theorem Record.IsAlike.refl (r : Record) : r.IsAlike r := by
  refine ⟨rfl, fun name => ?_⟩
  cases r.fields.lookup name with
  | none => exact .none
  | some d => exact .some (.inl rfl)

theorem rel_lookup_zip (known : List String) {ds : List Draft} {ds' : List Draft}
    (h : List.Forall₂ Draft.IsAlike ds ds') (name : String) :
    Option.Rel Draft.IsAlike ((known.zip ds).lookup name) ((known.zip ds').lookup name) := by
  induction known generalizing ds ds' with
  | nil => exact .none
  | cons k known ih =>
    cases h with
    | nil => exact .none
    | cons here later =>
      rw [List.zip_cons_cons, List.zip_cons_cons, Members.lookup_cons, Members.lookup_cons]
      split
      · exact .some here
      · exact ih later

theorem rel_lookup {fields fields' : List (String × Draft)}
    (h : List.Forall₂ (fun f f' => f.1 = f'.1 ∧ Draft.IsAlike f.2 f'.2) fields fields')
    (name : String) :
    Option.Rel Draft.IsAlike (fields.lookup name) (fields'.lookup name) := by
  induction h with
  | nil => exact .none
  | cons here _ ih =>
    rw [Members.lookup_cons, Members.lookup_cons, here.1]
    split
    · exact .some here.2
    · exact ih

theorem givenOnce_of_nodup (known : List String) {fields : List (String × Draft)}
    (once : (fields.map (·.1)).Nodup) : givenOnce known fields = true := by
  refine List.all_eq_true.2 fun name _ => decide_eq_true ?_
  have count := List.nodup_iff_count_le_one.1 once name
  rwa [List.count, List.countP_map, List.countP_eq_length_filter] at count

namespace Draft

/-- No key is given twice, if the draft is an object. -/
def GivesOnce : Draft → Prop
  | .obj ms => (ms.map (·.1)).Nodup
  | _ => True

theorem members?_draft (ns : List (String × Json)) :
    (Json.obj ns).draft.members? = some (ns.map fun n => (n.1, n.2.draft)) := by
  rw [Json.draft, Json.draftMembers_eq, members?, List.mapM_map]
  induction ns with
  | nil => rfl
  | cons n ns ih => simp [List.mapM_cons, ih]

/-- The members of an object that settles all have keys, and their drafts are alike those of the
values. -/
theorem exists_members? {depth : Nat} {ms : List (Option String × Draft)}
    {ns : List (String × Json)}
    (h : List.Forall₂ (fun m n => m.1 = some n.1 ∧ m.2.settleAt? depth = some n.2) ms ns) :
    ∃ fields, (Draft.obj ms).members? = some fields ∧ ms.map (·.1) = (fields.map (·.1)).map some ∧
      fields.map (·.1) = ns.map (·.1) ∧
      List.Forall₂ (fun f f' => f.1 = f'.1 ∧ IsAlike f.2 f'.2) fields
        (ns.map fun n => (n.1, n.2.draft)) := by
  induction h with
  | nil => exact ⟨[], rfl, rfl, rfl, .nil⟩
  | @cons m n ms ns here _ ih =>
    obtain ⟨fields, found, keys, named, alike⟩ := ih
    obtain ⟨key, d⟩ := m
    obtain rfl : key = some n.1 := here.1
    refine ⟨(n.1, d) :: fields, ?_, ?_, ?_, .cons ⟨rfl, isAlike_draft here.2⟩ alike⟩
    · rw [members?] at found ⊢
      rw [List.mapM_cons, found]
      rfl
    · rw [List.map_cons, List.map_cons, List.map_cons, keys]
    · rw [List.map_cons, List.map_cons, named]

theorem namedRecord?_of_nodup {d : Draft} {fields : List (String × Draft)} (known : List String)
    (found : d.members? = some fields) (once : (fields.map (·.1)).Nodup) :
    d.namedRecord? known = some ⟨true, fields⟩ := by
  rw [namedRecord?, found]
  exact if_pos (givenOnce_of_nodup known once)

/-- A draft and its value are records of the same fields, or no records. -/
theorem isAlike_record? {depth : Nat} {d : Draft} {j : Json} (h : d.settleAt? depth = some j)
    (once : d.GivesOnce) (known : List String) :
    Option.Rel Record.IsAlike (d.record? known) (j.draft.record? known) := by
  rcases settleAt?_cases h with ⟨rfl, -⟩ | ⟨ds, js, rfl, rfl, settled⟩ | ⟨ms, ns, rfl, rfl, settled⟩
  · cases j.draft.record? known with
    | none => exact .none
    | some r => exact .some (.refl r)
  · have alike : List.Forall₂ IsAlike ds (js.map Json.draft) :=
      List.forall₂_map_right_iff.2 (settled.imp fun _ _ here => isAlike_draft here)
    rw [Json.draft, Json.draftItems_eq, record?, record?, alike.length_eq]
    split
    · exact .some ⟨rfl, rel_lookup_zip known alike⟩
    · exact .none
  · obtain ⟨fields, found, keys, named, alike⟩ := exists_members? settled
    have distinct : (fields.map (·.1)).Nodup := List.Nodup.of_map some (keys ▸ once)
    have sorted := ((Members.ofList_perm (named ▸ distinct)).map (·.1)).nodup_iff.2
      (named ▸ distinct)
    have keysOf : ((Members.ofList ns).map fun n => (n.1, n.2.draft)).map (·.1) =
        (Members.ofList ns).map (·.1) := by
      rw [List.map_map]
      rfl
    show Option.Rel _ (namedRecord? known _) (namedRecord? known _)
    rw [namedRecord?_of_nodup known found distinct,
      namedRecord?_of_nodup known (members?_draft _) (keysOf ▸ sorted)]
    refine .some ⟨rfl, fun name => ?_⟩
    have same := rel_lookup alike name
    rw [Members.lookup_map] at same ⊢
    rwa [Members.lookup_ofList (named ▸ distinct)]

end Draft

end SqlLint
