import SqlLint.Document.Store

/-!
# Looking up open documents

What `Documents.get?` finds after each of the ways in which the open documents change.
-/

namespace SqlLint

namespace Documents

variable {ds : Documents} {uri other : Url} {d : Document}

theorem uri_of_get? (h : ds.get? uri = some d) : d.uri = uri := by
  simpa using List.find?_some h

theorem mem_of_get? (h : ds.get? uri = some d) : d ∈ ds := List.mem_of_find?_eq_some h

theorem get?_close (ds : Documents) (uri other : Url) :
    (ds.close uri).get? other = if other = uri then none else ds.get? other := by
  rw [get?, close, List.find?_filter]
  split
  · next h =>
    subst h
    simp
  · next h =>
    refine congrArg (List.find? · ds) (funext fun d => ?_)
    by_cases hd : d.uri = other
    · simp [hd, h]
    · simp [hd]

theorem get?_open_ (ds : Documents) (d : Document) (other : Url) :
    (ds.open_ d).get? other = if other = d.uri then some d else ds.get? other := by
  rw [open_, get?, List.find?_append]
  by_cases h : other = d.uri
  · rw [if_pos h, ← get?, get?_close, if_pos h]
    simp [h]
  · rw [if_neg h, ← get?, get?_close, if_neg h]
    simp [Ne.symm h]

/-- A change that leaves URLs alone changes what is found, and not whether something is. -/
theorem get?_modify (ds : Documents) (uri other : Url) {f : Document → Document}
    (hf : ∀ d, (f d).uri = d.uri) :
    (ds.modify uri f).get? other =
      if other = uri then (ds.get? other).map f else ds.get? other := by
  have same (d : Document) : (if d.uri = uri then f d else d).uri = d.uri := by
    split
    · exact hf d
    · rfl
  have predicate : ((fun d : Document => decide (d.uri = other)) ∘ fun d =>
      if d.uri = uri then f d else d) = fun d => decide (d.uri = other) :=
    funext fun d => congrArg (fun u : Url => decide (u = other)) (same d)
  rw [get?, modify, List.find?_map, predicate, ← get?]
  cases found : ds.get? other with
  | none => simp
  | some d =>
    have hd := uri_of_get? found
    rw [Option.map_some, hd]
    split <;> rfl

theorem uri_edited (version : Int) (changes : List Change) (d : Document) :
    (edited version changes d).uri = d.uri := by
  have each (d : Document) : (changes.foldl Document.change d).uri = d.uri := by
    induction changes generalizing d with
    | nil => rfl
    | cons c changes ih => exact ih _
  exact each d

theorem get?_change (ds : Documents) (uri other : Url) (version : Int) (changes : List Change) :
    (ds.change uri version changes).get? other =
      if other = uri then (ds.get? other).map (edited version changes) else ds.get? other :=
  get?_modify ds uri other (uri_edited version changes)

theorem get?_save (ds : Documents) (uri other : Url) (text : Option String) :
    (ds.save uri text).get? other =
      if other = uri then (ds.get? other).map (saved text) else ds.get? other :=
  get?_modify ds uri other fun _ => rfl

end Documents

end SqlLint
