import SqlLint.Proofs.Lint.Lanes

/-!
# The latest lint of a document

`Linter.latest?` is the lint that the lane of a URL has waiting or, if none waits, the last one that
its worker took.  Workers do not change it (`latest?_of_labour?`); handing in a lint makes that the
latest one of its document, and giving up a lane leaves none.
-/

namespace SqlLint

namespace Linter

variable {l l' : Linter} {lane lane' : Lane} {i : Nat} {uri : Url} {taken : List (Nat × LintJob)}

/-- The place of the lane of a URL. -/
def seat? (l : Linter) (uri : Url) : Option Nat := l.lanes.findIdx? (Lane.serves uri)

/-- The lint that waits at a place. -/
def waiting? (l : Linter) (i : Nat) : Option LintJob := (l.lanes[i]?).bind (·.delayer.task)

/-- The lint that a worker takes in a step, and its place. -/
def taking? (l : Linter) : Labour → Option (Nat × LintJob)
  | .take i => (l.waiting? i).map fun job => (i, job)
  | _ => none

/-- The latest lint of a document, given those that were taken at each place, the last one first. -/
def latest? (l : Linter) (taken : List (Nat × LintJob)) (uri : Url) : Option LintJob :=
  (l.seat? uri).bind fun i => (l.waiting? i).or (taken.lookup i)

theorem seat?_eq_map (l : Linter) (uri : Url) :
    l.seat? uri = (l.lanes.map (Lane.serves uri)).findIdx? id := by
  rw [List.findIdx?_map]
  rfl

theorem exists_lane_of_seat? (h : l.seat? uri = some i) :
    ∃ lane, l.lanes[i]? = some lane ∧ lane.serves uri = true := by
  obtain ⟨hi, serves, -⟩ := List.findIdx?_eq_some_iff_getElem.1 h
  exact ⟨_, List.getElem?_eq_getElem hi, serves⟩

/-- The latest lint of a document stays the same if its lane keeps its place and what waits there. -/
theorem latest?_congr (seat : l'.seat? uri = l.seat? uri)
    (waits : ∀ i lane, l.lanes[i]? = some lane → lane.serves uri = true →
      l'.waiting? i = l.waiting? i) :
    l'.latest? taken uri = l.latest? taken uri := by
  rw [latest?, latest?, seat]
  cases hseat : l.seat? uri with
  | none => rfl
  | some i =>
    obtain ⟨lane, hlane, serves⟩ := exists_lane_of_seat? hseat
    rw [Option.bind_some, Option.bind_some, waits i lane hlane serves]

theorem latest?_of_lanes_eq (h : l'.lanes = l.lanes) : l'.latest? taken = l.latest? taken := by
  funext uri
  have seat : l'.seat? uri = l.seat? uri := by rw [seat?, seat?, h]
  refine latest?_congr seat fun i _ _ _ => ?_
  rw [waiting?, waiting?, h]

/-! ## Workers -/

/-- A lane that takes the place of another and is that of the same URLs changes no place. -/
theorem map_serves_set (hlane : l.lanes[i]? = some lane)
    (same : lane'.serves uri = lane.serves uri) :
    (l.lanes.set i lane').map (Lane.serves uri) = l.lanes.map (Lane.serves uri) := by
  obtain ⟨hi, rfl⟩ := List.getElem?_eq_some_iff.1 hlane
  rw [List.map_set, same, ← List.getElem_map (Lane.serves uri) (h := by simpa using hi),
    List.set_getElem_self]

theorem latest?_of_set (hlane : l.lanes[i]? = some lane) (h : l'.lanes = l.lanes.set i lane')
    (same : ∀ uri, lane'.serves uri = lane.serves uri)
    (task : lane'.delayer.task = lane.delayer.task) : l'.latest? taken = l.latest? taken := by
  funext uri
  have seat : l'.seat? uri = l.seat? uri := by
    rw [seat?_eq_map, seat?_eq_map, h, map_serves_set hlane (same uri)]
  refine latest?_congr seat fun j _ _ _ => ?_
  rw [waiting?, waiting?, h]
  by_cases hij : i = j
  · subst hij
    rw [List.getElem?_set_self (List.getElem?_eq_some_iff.1 hlane).1, hlane]
    exact task
  · rw [List.getElem?_set_ne hij]

/-- A worker that takes a lint makes it the last one that was taken. -/
theorem latest?_of_take? (h : l.take? i = some l') :
    l'.latest? ((l.taking? (.take i)).toList ++ taken) = l.latest? taken := by
  obtain ⟨lane, job, delayer, hlane, htake, rfl⟩ := take?_eq_some h
  obtain ⟨had, has⟩ := Delayer.task_of_take? htake
  have waits : l.waiting? i = some job := by simp [waiting?, hlane, had]
  have noted : l.taking? (.take i) = some (i, job) := by rw [taking?, waits, Option.map_some]
  funext uri
  rw [latest?, latest?, seat?_eq_map, seat?_eq_map, noted, Option.toList_some,
    List.singleton_append]
  show (((l.lanes.set i (lane.begun job delayer)).map (Lane.serves uri)).findIdx? id).bind _ = _
  rw [map_serves_set hlane (Lane.serves_begun uri htake)]
  refine congrArg _ (funext fun j => ?_)
  rw [waiting?, List.lookup_cons]
  by_cases hij : i = j
  · -- What waited here is now the last one taken.
    subst hij
    rw [List.getElem?_set_self (List.getElem?_eq_some_iff.1 hlane).1, waits, beq_self_eq_true]
    show (delayer.task).or (some job) = _
    rw [has]
    rfl
  · rw [List.getElem?_set_ne hij, beq_false_of_ne (Ne.symm hij)]
    rfl

/-- Workers do not change which lint of a document is the latest. -/
theorem latest?_of_labour? {x : Labour} (h : l.labour? x = some l') :
    l'.latest? ((l.taking? x).toList ++ taken) = l.latest? taken := by
  cases x with
  | take i => exact latest?_of_take? h
  | work i =>
    obtain ⟨lane, run, run', bench, hlane, -, -, rfl⟩ := work?_eq_some h
    refine latest?_of_set hlane rfl (fun uri => Lane.serves_advanced uri lane run') ?_
    split <;> rfl
  | look i => exact latest?_of_lanes_eq (lanes_of_look? h)
  | start i => exact latest?_of_lanes_eq (lanes_of_start? h)
  | workAt i j => exact latest?_of_lanes_eq (lanes_of_workAt? h)
  | leave i j => exact latest?_of_lanes_eq (lanes_of_leave? h)

/-- Workers leave what the editor gave as it is. -/
theorem given_of_labour? {x : Labour} (h : l.labour? x = some l') :
    l'.workspace.given = l.workspace.given := by
  cases x with
  | take i =>
    obtain ⟨lane, job, delayer, -, -, rfl⟩ := take?_eq_some h
    rfl
  | work i =>
    obtain ⟨lane, run, run', bench, -, -, hstep, rfl⟩ := work?_eq_some h
    exact LintRun.given_of_step? hstep
  | look i =>
    obtain ⟨p, -, -, rfl⟩ := look?_eq_some h
    rfl
  | start i =>
    obtain ⟨p, path, files, -, -, -, ⟨-, rfl⟩ | ⟨d, -, rfl⟩⟩ := start?_eq_some h
    · rfl
    · rfl
  | workAt i j =>
    obtain ⟨p, run, run', bench, -, -, hstep, h⟩ := workAt?_eq_some h
    have given := LintRun.given_of_step? hstep
    obtain ⟨r, -, rfl⟩ | ⟨-, h⟩ := h
    · exact given
    · obtain ⟨p', run', -, -, rfl⟩ := leave?_eq_some h
      exact given
  | leave i j =>
    obtain ⟨p, run, -, -, rfl⟩ := leave?_eq_some h
    rfl

/-! ## The editor -/

theorem serves_of_ne {other : Url} (serves : lane.serves uri = true) (h : other ≠ uri) :
    lane.serves other = false := by
  rw [Lane.serves, Lane.uri_of_serves serves, beq_false_of_ne (Ne.symm h), Bool.and_false]

/-- Lanes that stay those of the URLs change no place. -/
theorem seat?_of_map {f : Lane → Lane} (h : l'.lanes = l.lanes.map f)
    (same : ∀ lane, (f lane).serves uri = lane.serves uri) : l'.seat? uri = l.seat? uri := by
  rw [seat?_eq_map, seat?_eq_map, h, List.map_map]
  exact congrArg _ (List.map_congr_left fun lane _ => same lane)

/-- A lint that is handed in to lanes that are there is the latest one of its document. -/
theorem latest?_of_give {job : LintJob} (found : l.lanes.any (Lane.serves job.uri) = true)
    (h : l'.lanes = l.lanes.map fun lane =>
      if lane.serves job.uri then lane.give l.now job else lane) (uri : Url) :
    l'.latest? taken uri = if uri = job.uri then some job else l.latest? taken uri := by
  have seat : l'.seat? uri = l.seat? uri := seat?_of_map h fun lane => by split <;> rfl
  by_cases huri : uri = job.uri
  · subst huri
    rw [if_pos rfl, latest?, seat]
    cases hseat : l.seat? job.uri with
    | none =>
      obtain ⟨lane, hlane, serves⟩ := List.any_eq_true.1 found
      rw [List.findIdx?_eq_none_iff.1 hseat lane hlane] at serves
      cases serves
    | some i =>
      obtain ⟨lane, hlane, serves⟩ := exists_lane_of_seat? hseat
      rw [Option.bind_some, waiting?, h, List.getElem?_map, hlane]
      simp [serves, Lane.give, Delayer.trigger]
  · rw [if_neg huri]
    refine latest?_congr seat fun i lane hlane serves => ?_
    rw [waiting?, waiting?, h, List.getElem?_map, hlane]
    simp [serves_of_ne serves (Ne.symm huri)]

/-- A lint that is handed in to a new lane is the latest one of its document. -/
theorem latest?_of_new {job : LintJob} {delay : Nat}
    (unserved : l.lanes.any (Lane.serves job.uri) = false)
    (h : l'.lanes = l.lanes ++ [Lane.new delay l.now job]) (uri : Url) :
    l'.latest? taken uri = if uri = job.uri then some job else l.latest? taken uri := by
  have hseat : l'.seat? uri =
      (l.seat? uri).or (if uri = job.uri then some l.lanes.length else none) := by
    rw [seat?, h, List.findIdx?_append, seat?, List.findIdx?_singleton]
    have serves : (Lane.new delay l.now job).serves uri = (job.uri == uri) := by
      simp [Lane.serves, Lane.new, Lane.isClosed, Delayer.trigger]
    rw [serves]
    by_cases huri : uri = job.uri
    · simp [huri]
    · simp [huri, Ne.symm huri]
  by_cases huri : uri = job.uri
  · subst huri
    have nowhere : l.seat? job.uri = none :=
      List.findIdx?_eq_none_iff.2 fun lane hlane => by
        simpa using List.any_eq_false.1 unserved lane hlane
    rw [if_pos rfl, latest?, hseat, nowhere, Option.none_or, if_pos rfl, Option.bind_some, waiting?,
      h, List.getElem?_concat_length]
    rfl
  · rw [if_neg huri, Option.or_none] at hseat
    rw [if_neg huri]
    refine latest?_congr hseat fun i lane hlane _ => ?_
    rw [waiting?, waiting?, h, List.getElem?_append_left (List.getElem?_eq_some_iff.1 hlane).1]

/-- A lint that is handed in is the latest one of its document. -/
theorem latest?_enqueue (l : Linter) (job : LintJob) (uri : Url) :
    (l.enqueue job).latest? taken uri = if uri = job.uri then some job else l.latest? taken uri := by
  obtain ⟨found, h⟩ | ⟨unserved, h⟩ := l.lanes_enqueue job
  · exact latest?_of_give found h uri
  · exact latest?_of_new unserved h uri

/-- A document whose lane is given up has no latest lint. -/
theorem latest?_drop (l : Linter) (uri other : Url) :
    (l.drop uri).latest? taken other = if other = uri then none else l.latest? taken other := by
  by_cases hother : other = uri
  · subst hother
    have unserved : (l.drop other).seat? other = none := by
      refine List.findIdx?_eq_none_iff.2 fun lane hlane => ?_
      obtain ⟨old, -, rfl⟩ := List.mem_map.1 hlane
      split
      · exact Lane.serves_close other old
      · next serves => simpa using serves
    rw [if_pos rfl, latest?, unserved, Option.bind_none]
  · have seat : (l.drop uri).seat? other = l.seat? other := by
      refine seat?_of_map rfl fun lane => ?_
      split
      · next serves => rw [Lane.serves_close, serves_of_ne serves hother]
      · rfl
    rw [if_neg hother]
    refine latest?_congr seat fun i lane hlane serves => ?_
    rw [waiting?, waiting?, drop, List.getElem?_map, hlane]
    simp [serves_of_ne serves (Ne.symm hother)]

theorem latest?_reset (l : Linter) (uri : Url) : l.reset.latest? taken uri = none := by
  have unserved : l.reset.seat? uri = none := by
    rw [seat?, List.findIdx?_eq_none_iff]
    intro lane hlane
    obtain ⟨old, -, rfl⟩ := List.mem_map.1 hlane
    exact Lane.serves_close uri old
  rw [latest?, unserved, Option.bind_none]

end Linter

end SqlLint
