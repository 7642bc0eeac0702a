import SqlLint.Proofs.Lint.Latest

/-!
# Lints that were asked for

`Linter.Answers` compares what was handed in from some moment on with what workers took since: of
each document the lints that were taken are some of those that were asked for, in the same order, and
the lanes of before that moment take none.  It holds when all lanes have been given up and every move
keeps it (`Answers.move?`).
-/

namespace SqlLint

/-- The lints of one document among others. -/
def lintsOf (uri : Url) (jobs : List LintJob) : List LintJob := jobs.filter (·.uri = uri)

theorem lintsOf_cons_self (job : LintJob) (jobs : List LintJob) :
    lintsOf job.uri (job :: jobs) = job :: lintsOf job.uri jobs := by
  simp [lintsOf]

theorem lintsOf_cons_of_ne {job : LintJob} {uri : Url} (h : job.uri ≠ uri) (jobs : List LintJob) :
    lintsOf uri (job :: jobs) = lintsOf uri jobs := by
  simp [lintsOf, h]

/-- The lane stays given up, and what waits in it waited there before, for the same document. -/
structure Lane.Keeps (lane lane' : Lane) : Prop where
  closed : lane.isClosed = true → lane'.isClosed = true
  waits : ∀ job, lane'.delayer.task = some job →
    lane.delayer.task = some job ∧ lane'.serves job.uri = lane.serves job.uri

namespace Lane

theorem keeps_refl (lane : Lane) : lane.Keeps lane := ⟨id, fun _ waits => ⟨waits, rfl⟩⟩

theorem keeps_close (lane : Lane) : lane.Keeps lane.close := ⟨fun _ => rfl, nofun⟩

theorem keeps_advanced (lane : Lane) (run : Option LintRun) : lane.Keeps (lane.advanced run) where
  closed closed := by rwa [isClosed_advanced]
  waits job waits := by
    have task : (lane.advanced run).delayer.task = lane.delayer.task := by cases run <;> rfl
    exact ⟨task ▸ waits, serves_advanced _ _ _⟩

end Lane

namespace Linter

variable {l l' : Linter} {since : Nat} {asked : List LintJob} {started : List (Nat × LintJob)}
  {x : Move} {i : Nat} {lane : Lane} {job : LintJob}

/-! ## Handing in and taking -/

/-- The lint that is handed in when one is asked for. -/
def handing? (l : Linter) (uri : Url) (source : LintSource) (force : Bool) : Option LintJob :=
  (l.documents.get? uri).bind fun d =>
    if l.settings.lints d.language = false ∨ l.settings.linter.run = .off ∧ force = false then none
    else some ⟨d, source, true⟩

theorem trigger_eq (l : Linter) (uri : Url) (source : LintSource) (force : Bool) :
    l.trigger uri source force = ((l.handing? uri source force).map l.enqueue).getD l := by
  unfold trigger handing?
  cases l.documents.get? uri with
  | none => rfl
  | some d =>
    rw [Option.bind_some]
    by_cases lints : l.settings.lints d.language = false
    · simp [lints]
    · by_cases off : l.settings.linter.run = .off ∧ force = false
      · simp [off]
      · simp [lints, off]

/-- While linting is off, nothing is handed in unless it is forced. -/
theorem handing?_of_off (off : l.settings.linter.run = .off) (uri : Url) (source : LintSource) :
    l.handing? uri source false = none := by
  unfold handing?
  cases l.documents.get? uri with
  | none => rfl
  | some d => exact if_pos (.inr ⟨off, rfl⟩)

theorem trigger_of_off (off : l.settings.linter.run = .off) (uri : Url) (source : LintSource) :
    l.trigger uri source false = l := by
  rw [trigger_eq, handing?_of_off off]
  rfl

/-- The lint that is handed in by a move. -/
def handed? (l : Linter) : Move → Option LintJob
  | .trigger uri source force => l.handing? uri source force
  | _ => none

/-- The lint that is taken in a move, and its place. -/
def taken? (l : Linter) : Move → Option (Nat × LintJob)
  | .labour x => l.taking? x
  | _ => none

/-! ## Answers -/

/-- All lanes were given up and nothing waits in them. -/
def IsShut (l : Linter) : Prop :=
  ∀ lane ∈ l.lanes, lane.isClosed = true ∧ lane.delayer.task = none

/-- The lints that were taken at each place answer those that were asked for, both with the last one
first, from a moment on at which there was some number of lanes. -/
structure Answers (since : Nat) (asked : List LintJob) (started : List (Nat × LintJob))
    (l : Linter) : Prop where
  single : l.IsSingle
  since_le : since ≤ l.lanes.length
  shut : ∀ (i : Nat) (lane : Lane), l.lanes[i]? = some lane → i < since → lane.isClosed = true
  waits : ∀ (i : Nat) (lane : Lane) (job : LintJob), l.lanes[i]? = some lane →
    lane.delayer.task = some job → lane.serves job.uri = true ∧
      (job :: lintsOf job.uri (started.map Prod.snd)).Sublist (lintsOf job.uri asked)
  sublist : ∀ uri, (lintsOf uri (started.map Prod.snd)).Sublist (lintsOf uri asked)
  places : ∀ p ∈ started, since ≤ p.1

theorem IsShut.answers (shut : l.IsShut) : Answers l.lanes.length [] [] l where
  single := by
    refine isSingle_of_pending_eq_zero (List.length_eq_zero_iff.2 (List.filter_eq_nil_iff.2 ?_))
    intro lane hlane
    simp [(shut lane hlane).1]
  since_le := Nat.le_refl _
  shut i lane hlane _ := (shut lane (List.mem_of_getElem? hlane)).1
  waits i lane job hlane waits := by
    rw [(shut lane (List.mem_of_getElem? hlane)).2] at waits
    cases waits
  sublist uri := List.nil_sublist _
  places := nofun

namespace Answers

/-- A lane that something waits in is one of those made since. -/
theorem since_le_of_waits (answers : Answers since asked started l) (hlane : l.lanes[i]? = some lane)
    (waits : lane.delayer.task = some job) : since ≤ i := by
  refine Nat.le_of_not_lt fun lt => ?_
  have hopen := Lane.isClosed_of_serves (answers.waits i lane job hlane waits).1
  rw [answers.shut i lane hlane lt] at hopen
  cases hopen

theorem of_keeps (answers : Answers since asked started l) (single : l'.IsSingle)
    (length : l'.lanes.length = l.lanes.length)
    (keeps : ∀ (i : Nat) (lane lane' : Lane), l.lanes[i]? = some lane → l'.lanes[i]? = some lane' →
      lane.Keeps lane') : Answers since asked started l' := by
  have old {i : Nat} {lane' : Lane} (hlane' : l'.lanes[i]? = some lane') :
      ∃ lane, l.lanes[i]? = some lane ∧ lane.Keeps lane' := by
    have hi := (List.getElem?_eq_some_iff.1 hlane').1
    have hlane := List.getElem?_eq_getElem (length ▸ hi)
    exact ⟨_, hlane, keeps i _ lane' hlane hlane'⟩
  refine ⟨single, length ▸ answers.since_le, ?_, ?_, answers.sublist, answers.places⟩
  · intro i lane' hlane' lt
    obtain ⟨lane, hlane, keeps⟩ := old hlane'
    exact keeps.closed (answers.shut i lane hlane lt)
  · intro i lane' job hlane' waits'
    obtain ⟨lane, hlane, keeps⟩ := old hlane'
    obtain ⟨waits, serves⟩ := keeps.waits job waits'
    rw [serves]
    exact answers.waits i lane job hlane waits

theorem of_lanes_eq (answers : Answers since asked started l) (h : l'.lanes = l.lanes) :
    Answers since asked started l' := by
  refine answers.of_keeps (fun uri => h ▸ answers.single uri) (by rw [h]) ?_
  intro i lane lane' hlane hlane'
  rw [h, hlane] at hlane'
  exact Option.some.inj hlane' ▸ lane.keeps_refl

theorem of_map {f : Lane → Lane} (answers : Answers since asked started l) (single : l'.IsSingle)
    (h : l'.lanes = l.lanes.map f) (keeps : ∀ lane : Lane, lane.Keeps (f lane)) :
    Answers since asked started l' := by
  refine answers.of_keeps single (by rw [h, List.length_map]) ?_
  intro i lane lane' hlane hlane'
  rw [h, List.getElem?_map, hlane] at hlane'
  exact Option.some.inj hlane' ▸ keeps lane

/-! ### Handing in -/

/-- A lint that is handed in waits next: what was taken of its document came before. -/
theorem enqueue (answers : Answers since asked started l) (single : (l.enqueue job).IsSingle) :
    Answers since (job :: asked) started (l.enqueue job) := by
  -- Lints of other documents are where they were; those of this one were asked for before.
  have others (uri : Url) : (lintsOf uri asked).Sublist (lintsOf uri (job :: asked)) :=
    (List.sublist_cons_self job asked).filter _
  have next : (job :: lintsOf job.uri (started.map Prod.snd)).Sublist
      (lintsOf job.uri (job :: asked)) := by
    rw [lintsOf_cons_self]
    exact (answers.sublist job.uri).cons_cons job
  have before {i : Nat} {lane : Lane} {job' : LintJob} (hlane : l.lanes[i]? = some lane)
      (waits : lane.delayer.task = some job') : lane.serves job'.uri = true ∧
        (job' :: lintsOf job'.uri (started.map Prod.snd)).Sublist
          (lintsOf job'.uri (job :: asked)) :=
    (answers.waits i lane job' hlane waits).imp_right (·.trans (others _))
  have sublist (uri : Url) := (answers.sublist uri).trans (others uri)
  obtain ⟨found, h⟩ | ⟨unserved, h⟩ := l.lanes_enqueue job
  · refine ⟨single, by simpa [h] using answers.since_le, ?_, ?_, sublist, answers.places⟩
    · intro i lane' hlane' lt
      rw [h, List.getElem?_map] at hlane'
      obtain ⟨lane, hlane, rfl⟩ := Option.map_eq_some_iff.1 hlane'
      have closed := answers.shut i lane hlane lt
      split <;> exact closed
    · intro i lane' job' hlane' waits'
      rw [h, List.getElem?_map] at hlane'
      obtain ⟨lane, hlane, rfl⟩ := Option.map_eq_some_iff.1 hlane'
      split at waits'
      · next serves =>
        obtain rfl := Option.some.inj waits'
        rw [if_pos serves]
        exact ⟨serves, next⟩
      · next unserved =>
        rw [if_neg unserved]
        exact before hlane waits'
  · have hlen : (l.enqueue job).lanes.length = l.lanes.length + 1 := by simp [h]
    refine ⟨single, Nat.le_trans answers.since_le (by omega), ?_, ?_, sublist, answers.places⟩
    · intro i lane' hlane' lt
      rw [h, List.getElem?_append_left (Nat.lt_of_lt_of_le lt answers.since_le)] at hlane'
      exact answers.shut i lane' hlane' lt
    · intro i lane' job' hlane' waits'
      rw [h, List.getElem?_append] at hlane'
      split at hlane'
      · exact before hlane' waits'
      · obtain rfl := List.mem_singleton.1 (List.mem_of_getElem? hlane')
        obtain rfl := Option.some.inj waits'
        exact ⟨by simp [Lane.serves, Lane.new, Lane.isClosed, Delayer.trigger], next⟩

theorem trigger (answers : Answers since asked started l) (uri : Url) (source : LintSource)
    (force : Bool) : Answers since ((l.handing? uri source force).toList ++ asked) started
      (l.trigger uri source force) := by
  have single : (l.trigger uri source force).IsSingle :=
    answers.single.move? (x := .trigger uri source force) rfl
  rw [trigger_eq] at single ⊢
  generalize l.handing? uri source force = handing at single ⊢
  cases handing with
  | none => exact answers
  | some job => exact answers.enqueue single

/-! ### Taking -/

/-- The lint that is taken waited, so that it comes after those that were taken before. -/
theorem take? (answers : Answers since asked started l) (hx : l.take? i = some l') :
    Answers since asked ((l.taking? (.take i)).toList ++ started) l' := by
  have single : l'.IsSingle := answers.single.move? (x := .labour (.take i)) hx
  obtain ⟨lane, job, delayer, hlane, htake, rfl⟩ := take?_eq_some hx
  obtain ⟨had, has⟩ := Delayer.task_of_take? htake
  have noted : l.taking? (.take i) = some (i, job) := by simp [taking?, waiting?, hlane, had]
  obtain ⟨serves, next⟩ := answers.waits i lane job hlane had
  rw [noted]
  refine ⟨single, by simpa using answers.since_le, ?_, ?_, ?_, ?_⟩
  · intro j other hother lt
    rw [List.getElem?_set_ne (by have := answers.since_le_of_waits hlane had; omega)] at hother
    exact answers.shut j other hother lt
  · intro j other job' hother waits
    by_cases hij : i = j
    · subst hij
      rw [List.getElem?_set_self (List.getElem?_eq_some_iff.1 hlane).1] at hother
      obtain rfl := Option.some.inj hother
      rw [has] at waits
      cases waits
    · rw [List.getElem?_set_ne hij] at hother
      obtain ⟨serves', waits'⟩ := answers.waits j other job' hother waits
      -- Another lane that something waits in is that of another document.
      have ne : job.uri ≠ job'.uri := by
        intro same
        exact hij (answers.single.index_eq hlane (same ▸ serves) hother serves')
      refine ⟨serves', ?_⟩
      show (job' :: lintsOf job'.uri (job :: started.map Prod.snd)).Sublist _
      rwa [lintsOf_cons_of_ne ne]
  · intro uri
    show (lintsOf uri (job :: started.map Prod.snd)).Sublist _
    by_cases same : job.uri = uri
    · subst same
      rwa [lintsOf_cons_self]
    · rw [lintsOf_cons_of_ne same]
      exact answers.sublist uri
  · rintro p (_ | ⟨_, hp⟩)
    · exact answers.since_le_of_waits hlane had
    · exact answers.places p hp

theorem labour? {y : Labour} (answers : Answers since asked started l)
    (hx : l.labour? y = some l') :
    Answers since asked ((l.taking? y).toList ++ started) l' := by
  cases y with
  | take i => exact answers.take? hx
  | work i =>
    have single : l'.IsSingle := answers.single.move? (x := .labour (.work i)) hx
    obtain ⟨lane, run, run', bench, hlane, -, -, rfl⟩ := work?_eq_some hx
    refine answers.of_keeps single (List.length_set ..) ?_
    intro j old lane' hold hlane'
    by_cases hij : i = j
    · subst hij
      rw [List.getElem?_set_self (List.getElem?_eq_some_iff.1 hlane).1] at hlane'
      obtain rfl : lane = old := Option.some.inj (hlane.symm.trans hold)
      exact Option.some.inj hlane' ▸ lane.keeps_advanced run'
    · rw [List.getElem?_set_ne hij, hold] at hlane'
      exact Option.some.inj hlane' ▸ old.keeps_refl
  | look i => exact answers.of_lanes_eq (lanes_of_look? hx)
  | start i => exact answers.of_lanes_eq (lanes_of_start? hx)
  | workAt i j => exact answers.of_lanes_eq (lanes_of_workAt? hx)
  | leave i j => exact answers.of_lanes_eq (lanes_of_leave? hx)

/-- Every move keeps the answers: it takes nothing but what was handed in. -/
theorem move? (answers : Answers since asked started l) (hx : l.move? x = some l') :
    Answers since ((l.handed? x).toList ++ asked) ((l.taken? x).toList ++ started) l' := by
  have single := answers.single.move? hx
  cases x with
  | elsewhere w => exact answers.of_lanes_eq ((Option.some.inj hx) ▸ rfl)
  | trigger uri source force => exact Option.some.inj hx ▸ answers.trigger uri source force
  | drop uri =>
    obtain rfl := Option.some.inj hx
    refine answers.of_map single rfl fun lane => ?_
    split
    · exact lane.keeps_close
    · exact lane.keeps_refl
  | retire uri => exact answers.of_lanes_eq ((Option.some.inj hx) ▸ rfl)
  | clear uri => exact answers.of_lanes_eq ((Option.some.inj hx) ▸ lanes_of_clear l uri)
  | reset =>
    obtain rfl := Option.some.inj hx
    exact answers.of_map single rfl Lane.keeps_close
  | startProject root force => exact answers.of_lanes_eq (lanes_of_startProject hx)
  | labour y => exact answers.labour? hx

end Answers

end Linter

end SqlLint
