import SqlLint.Proofs.Json.Settling

/-!
# Values with members left out and others added

`Json.Amended o j j'` says that `j'` is the value `j` without the members at the places of `o`, and
perhaps with members in its objects that `j` does not have there.  A reader of records finds in `j'`
each field of `j` that was not left out, itself amended (`Amended.record?`), and takes the default of
one that was (`Record.Amends.defaulted`).
-/

namespace SqlLint

/-- A step into a value: to a member of an object or to an item of an array. -/
inductive Json.Step where
  | member (name : String)
  | item (index : Nat)
  deriving DecidableEq

/-- A set of places in a value, each given by the steps that lead to it. -/
abbrev Omission := List Json.Step → Bool

namespace Omission

/-- Nothing is left out. -/
def empty : Omission := fun _ => false

/-- The places below a step, as they are seen from there. -/
def under (o : Omission) (step : Json.Step) : Omission := fun steps => o (step :: steps)

/-- A member is left out. -/
def drops (o : Omission) (name : String) : Bool := o [.member name]

/-- The value of a member, or its default when the member is left out. -/
def pick {α : Type} (o : Omission) (name : String) (default value : α) : α :=
  if o.drops name then default else value

@[simp] theorem under_empty (step : Json.Step) : empty.under step = empty := rfl

@[simp] theorem pick_empty {α : Type} (name : String) (default value : α) :
    empty.pick name default value = value := rfl

end Omission

namespace Json

/-- A value without some members and perhaps with members that it did not have. -/
inductive Amended : Omission → Json → Json → Prop
  | null {o : Omission} : Amended o .null .null
  | bool {o : Omission} (b : Bool) : Amended o (.bool b) (.bool b)
  | num {o : Omission} (n : JsonNumber) : Amended o (.num n) (.num n)
  | str {o : Omission} (s : String) : Amended o (.str s) (.str s)
  | arr {o : Omission} {js js' : List Json} (length : js'.length = js.length)
    (items : ∀ i j j', js[i]? = some j → js'[i]? = some j' → Amended (o.under (.item i)) j j') :
    Amended o (.arr js) (.arr js')
  | obj {o : Omission} {ms ms' : List (String × Json)} (once : (ms'.map (·.1)).Nodup)
    (given : ∀ k j, (k, j) ∈ ms → (ms'.lookup k).isSome = ! o.drops k)
    (values : ∀ k j j', (k, j) ∈ ms → ms'.lookup k = some j' →
      Amended (o.under (.member k)) j j') :
    Amended o (.obj ms) (.obj ms')

/-! ## Values that are maps all through -/

/-- No object in a value has a key twice. -/
inductive IsMap : Json → Prop
  | null : IsMap .null
  | bool (b : Bool) : IsMap (.bool b)
  | num (n : JsonNumber) : IsMap (.num n)
  | str (s : String) : IsMap (.str s)
  | arr {js : List Json} (items : ∀ j ∈ js, IsMap j) : IsMap (.arr js)
  | obj {ms : List (String × Json)} (once : (ms.map (·.1)).Nodup) (values : ∀ m ∈ ms, IsMap m.2) :
    IsMap (.obj ms)

attribute [simp] IsMap.null IsMap.bool IsMap.num IsMap.str

theorem isMap_object {fields : List (String × Json)} (once : (fields.map (·.1)).Nodup)
    (values : ∀ m ∈ fields, m.2.IsMap) : (object fields).IsMap := by
  have sorted := Members.ofList_perm once
  exact .obj ((sorted.map (·.1)).nodup_iff.2 once) fun m mem => values m (sorted.mem_iff.1 mem)

theorem get?_object {fields : List (String × Json)} (known : List String)
    (names : fields.map (·.1) = known) (once : known.Nodup) (k : String) :
    (object fields).get? k = fields.lookup k :=
  Members.lookup_ofList (names ▸ once) k

theorem isMap_list {α : Type} {f : α → Json} {xs : List α} (items : ∀ x ∈ xs, (f x).IsMap) :
    (list f xs).IsMap := by
  refine .arr fun j mem => ?_
  obtain ⟨x, inside, rfl⟩ := List.mem_map.1 mem
  exact items x inside

@[simp] theorem isMap_strings (xs : List String) : (strings xs).IsMap :=
  isMap_list fun s _ => .str s

theorem lookup_of_mem {α : Type} {entries : List (String × α)} {k : String} {v : α}
    (once : (entries.map (·.1)).Nodup) (mem : (k, v) ∈ entries) : entries.lookup k = some v := by
  induction entries with
  | nil => cases mem
  | cons entry entries ih =>
    obtain ⟨k', v'⟩ := entry
    rw [List.map_cons, List.nodup_cons] at once
    rw [Members.lookup_cons]
    obtain same | later := List.mem_cons.1 mem
    · cases same
      exact if_pos rfl
    · have apart : k ≠ k' := by
        rintro rfl
        exact once.1 (List.mem_map.2 ⟨_, later, rfl⟩)
      rw [if_neg apart]
      exact ih once.2 later

/-! ## Leaving members out -/

mutual

/-- A value with members left out and none added. -/
def without (o : Omission) : Json → Json
  | .null => .null
  | .bool b => .bool b
  | .num n => .num n
  | .str s => .str s
  | .arr items => .arr (itemsWithout o 0 items)
  | .obj members => .obj (membersWithout o members)

/-- The items of an array from the one at `i` on, with members left out. -/
def itemsWithout (o : Omission) (i : Nat) : List Json → List Json
  | [] => []
  | j :: js => j.without (o.under (.item i)) :: itemsWithout o (i + 1) js

/-- The members of an object that are not left out, with members left out of their values. -/
def membersWithout (o : Omission) : List (String × Json) → List (String × Json)
  | [] => []
  | (k, j) :: ms =>
    if o.drops k then membersWithout o ms
    else (k, j.without (o.under (.member k))) :: membersWithout o ms

end

mutual

theorem without_empty : (j : Json) → j.without .empty = j
  | .null => rfl
  | .bool _ => rfl
  | .num _ => rfl
  | .str _ => rfl
  | .arr items => by rw [without, itemsWithout_empty]
  | .obj members => by rw [without, membersWithout_empty]

theorem itemsWithout_empty : (i : Nat) → (js : List Json) → itemsWithout .empty i js = js
  | _, [] => rfl
  | i, j :: js => by
    rw [itemsWithout, Omission.under_empty, without_empty j, itemsWithout_empty (i + 1) js]

theorem membersWithout_empty : (ms : List (String × Json)) → membersWithout .empty ms = ms
  | [] => rfl
  | (k, j) :: ms => by
    rw [membersWithout, Omission.under_empty, without_empty j, membersWithout_empty ms]
    rfl

end

variable {o : Omission}

theorem getElem?_itemsWithout (js : List Json) (i n : Nat) :
    (itemsWithout o i js)[n]? = js[n]?.map (without (o.under (.item (i + n)))) := by
  induction js generalizing i n with
  | nil => rfl
  | cons j js ih =>
    cases n with
    | zero => rfl
    | succ n =>
      rw [itemsWithout, List.getElem?_cons_succ, List.getElem?_cons_succ, ih,
        Nat.add_right_comm, Nat.add_assoc]

theorem length_itemsWithout (js : List Json) (i : Nat) :
    (itemsWithout o i js).length = js.length := by
  induction js generalizing i with
  | nil => rfl
  | cons j js ih => rw [itemsWithout, List.length_cons, List.length_cons, ih]

theorem keys_membersWithout (ms : List (String × Json)) :
    (membersWithout o ms).map (·.1) = (ms.map (·.1)).filter (! o.drops ·) := by
  induction ms with
  | nil => rfl
  | cons m ms ih =>
    obtain ⟨k, j⟩ := m
    rw [membersWithout, List.map_cons, List.filter_cons]
    cases o.drops k <;> simp [ih]

theorem lookup_membersWithout (ms : List (String × Json)) (k : String) :
    (membersWithout o ms).lookup k =
      if o.drops k then none else (ms.lookup k).map (without (o.under (.member k))) := by
  induction ms with
  | nil => simp [membersWithout]
  | cons m ms ih =>
    obtain ⟨k', j⟩ := m
    rw [membersWithout, Members.lookup_cons]
    by_cases here : k = k'
    · subst here
      cases dropped : o.drops k with
      | true => simp [ih, dropped]
      | false => simp
    · cases o.drops k' with
      | true => simp [ih, here]
      | false => simp [Members.lookup_cons, ih, here]

theorem get?_without (j : Json) (k : String) :
    (j.without o).get? k =
      if o.drops k then none else (j.get? k).map (without (o.under (.member k))) := by
  cases j with
  | obj members => exact lookup_membersWithout members k
  | _ => simp [without, get?]

/-- Whatever is left out of a value, what remains amends it. -/
theorem IsMap.amended_without {j : Json} (h : j.IsMap) (o : Omission) :
    Amended o j (j.without o) := by
  induction h generalizing o with
  | null => exact .null
  | bool b => exact .bool b
  | num n => exact .num n
  | str s => exact .str s
  | @arr js _ ih =>
    refine .arr (length_itemsWithout js 0) fun i j j' found found' => ?_
    rw [getElem?_itemsWithout, found, Nat.zero_add] at found'
    obtain rfl := Option.some.inj found'
    exact ih j (List.mem_of_getElem? found) _
  | @obj ms once _ ih =>
    have distinct : ((membersWithout o ms).map (·.1)).Nodup := by
      rw [keys_membersWithout]
      exact once.filter _
    refine .obj distinct (fun k j mem => ?_) fun k j j' mem found => ?_
    · rw [lookup_membersWithout, lookup_of_mem once mem]
      cases o.drops k <;> rfl
    · rw [lookup_membersWithout, lookup_of_mem once mem] at found
      cases dropped : o.drops k with
      | true =>
        rw [dropped] at found
        cases found
      | false =>
        rw [dropped] at found
        obtain rfl := Option.some.inj found
        exact ih (k, j) mem _

/-! ## Adding members -/

/-- An object with one more member; any other value stays as it is. -/
def add (j : Json) (k : String) (value : Json) : Json :=
  match j with
  | .obj members => .obj ((k, value) :: members)
  | _ => j

theorem ne_of_lookup_eq_none {α : Type} {entries : List (String × α)} {k k' : String} {v : α}
    (absent : entries.lookup k = none) (mem : (k', v) ∈ entries) : k' ≠ k := by
  rintro rfl
  have apart := List.lookup_eq_none_iff.1 absent _ mem
  simp at apart

/-- A member that neither value has may be added to the amended one. -/
theorem Amended.add {j j' : Json} (h : Amended o j j') {k : String} (value : Json)
    (unknown : j.get? k = none) (fresh : j'.get? k = none) : Amended o j (j'.add k value) := by
  cases h with
  | null => exact .null
  | bool b => exact .bool b
  | num n => exact .num n
  | str s => exact .str s
  | arr length items => exact .arr length items
  | @obj _ ms ms' once given values =>
    have new : k ∉ ms'.map (·.1) := fun mem => by
      obtain ⟨m, inside, rfl⟩ := List.mem_map.1 mem
      exact ne_of_lookup_eq_none fresh inside rfl
    refine .obj (List.nodup_cons.2 ⟨new, once⟩) (fun k' j mem => ?_) fun k' j j' mem found => ?_
    · rw [Members.lookup_cons, if_neg (ne_of_lookup_eq_none unknown mem)]
      exact given k' j mem
    · rw [Members.lookup_cons, if_neg (ne_of_lookup_eq_none unknown mem)] at found
      exact values k' j j' mem found

end Json

/-! ## Reading amended values -/

/-- A record gives the fields of an object, amended, but for those that are left out. -/
def Record.Amends (r : Record) (o : Omission) (fields : List (String × Json)) : Prop :=
  ∀ k j, (k, j) ∈ fields →
    if o.drops k then r.fields.lookup k = none
    else ∃ j', r.fields.lookup k = some j'.draft ∧ Json.Amended (o.under (.member k)) j j'

namespace Record.Amends

variable {r : Record} {o : Omission} {fields : List (String × Json)} {α : Type}
  {read : Draft → Option α} {name : String} {j : Json} {value : α}

/-- A field is read, or its default taken. -/
theorem defaulted (h : r.Amends o fields) (i : Nat) (here : fields[i]? = some (name, j))
    (reads : ∀ j', Json.Amended (o.under (.member name)) j j' → read j'.draft = some value)
    (default : α) : r.defaulted name read default = some (o.pick name default value) := by
  have given := h name j (List.mem_of_getElem? here)
  unfold Record.defaulted Omission.pick
  cases dropped : o.drops name with
  | true =>
    rw [dropped, if_pos rfl] at given
    rw [given]
    rfl
  | false =>
    rw [dropped, if_neg (by decide)] at given
    obtain ⟨j', found, amended⟩ := given
    rw [found]
    exact reads j' amended

/-- A field that has to be there is read if it is not left out. -/
theorem required (h : r.Amends o fields) (i : Nat) (here : fields[i]? = some (name, j))
    (kept : o.drops name = false)
    (reads : ∀ j', Json.Amended (o.under (.member name)) j j' → read j'.draft = some value) :
    r.required name read = some value := by
  have given := h name j (List.mem_of_getElem? here)
  rw [kept, if_neg (by decide)] at given
  obtain ⟨j', found, amended⟩ := given
  rw [Record.required, found]
  exact reads j' amended

end Record.Amends

namespace Json.Amended

variable {o : Omission} {j : Json} {α β : Type}

/-- An amended object is a record that amends its fields, if all of them are known. -/
theorem record? {fields : List (String × Json)} (h : Amended o (object fields) j)
    (known : List String) (names : fields.map (·.1) = known) (once : known.Nodup) :
    ∃ r, j.draft.record? known = some r ∧ r.Amends o fields := by
  have sorted := Members.ofList_perm (names ▸ once)
  rw [object] at h
  cases h with
  | @obj _ _ ms' distinct given values =>
    have keys : ((ms'.map fun m => (m.1, m.2.draft)).map (·.1)).Nodup := by
      rw [List.map_map]
      exact distinct
    refine ⟨⟨true, ms'.map fun m => (m.1, m.2.draft)⟩,
      Draft.namedRecord?_of_nodup known (Draft.members?_draft ms') keys, fun k v mem => ?_⟩
    have inside := sorted.mem_iff.2 mem
    have there := given k v inside
    rw [Members.lookup_map]
    cases found : ms'.lookup k with
    | none =>
      rw [found] at there
      rw [if_pos (by simpa using there)]
      rfl
    | some v' =>
      rw [found] at there
      rw [if_neg (by simpa using there)]
      exact ⟨v', rfl, values k v v' inside found⟩

theorem draft_str {s : String} (h : Amended o (.str s) j) : j.draft = .str (some s) := by
  cases h
  rfl

theorem draft_bool {b : Bool} (h : Amended o (.bool b) j) : j.draft = .bool b := by
  cases h
  rfl

theorem draft_nat {n : Nat} (h : Amended o (.nat n) j) : j.draft = .num (some (.int n)) := by
  cases h
  rfl

theorem exists_list {f : α → Json} {xs : List α} (h : Amended o (.list f xs) j) :
    ∃ js, j = .arr js := by
  rw [list] at h
  cases h
  exact ⟨_, rfl⟩

theorem exists_object {fields : List (String × Json)} (h : Amended o (object fields) j) :
    ∃ ms, j = .obj ms := by
  rw [object] at h
  cases h
  exact ⟨_, rfl⟩

theorem mapM_draft {g : Nat → α → β} {read : Draft → Option β} {xs : List α} {js : List Json}
    (length : js.length = xs.length)
    (reads : ∀ i x j, xs[i]? = some x → js[i]? = some j → read j.draft = some (g i x)) :
    (js.map draft).mapM read = some (xs.mapIdx g) := by
  induction xs generalizing js g with
  | nil =>
    obtain rfl := List.eq_nil_of_length_eq_zero length
    rfl
  | cons x xs ih =>
    obtain ⟨j, js, rfl⟩ := List.exists_cons_of_length_eq_add_one length
    have later := ih (Nat.succ.inj length) (g := fun i => g (i + 1)) fun i x j hx hj =>
      reads (i + 1) x j hx hj
    rw [List.map_cons, List.mapM_cons, reads 0 x j rfl rfl, later, List.mapIdx_cons]
    rfl

/-- The items of an amended array are read one by one. -/
theorem list? {f : α → Json} {xs : List α} (h : Amended o (.list f xs) j) {g : Nat → α → β}
    {read : Draft → Option β}
    (reads : ∀ i x j', xs[i]? = some x → Amended (o.under (.item i)) (f x) j' →
      read j'.draft = some (g i x)) :
    Draft.list? read j.draft = some (xs.mapIdx g) := by
  rw [list] at h
  cases h with
  | @arr _ _ js' length items =>
    rw [Json.draft, Json.draftItems_eq, Draft.list?]
    rw [List.length_map] at length
    refine mapM_draft length fun i x j found found' => reads i x j found ?_
    refine items i (f x) j ?_ found'
    rw [List.getElem?_map, found]
    rfl

/-- Items that are read back whatever is added to them. -/
theorem list?_same {f : α → Json} {xs : List α} (h : Amended o (.list f xs) j)
    {read : Draft → Option α}
    (reads : ∀ i x j', Amended (o.under (.item i)) (f x) j' → read j'.draft = some x) :
    Draft.list? read j.draft = some xs := by
  rw [h.list? fun i x j' _ => reads i x j']
  exact congrArg some (List.ext_getElem? fun i => by simp)

end Json.Amended

end SqlLint
