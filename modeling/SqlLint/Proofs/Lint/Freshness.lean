import Mathlib.Data.List.Induction
import SqlLint.Proofs.Lint.Numbers

/-!
# Fresh numbers

`Generations.after` is what any calls make of the numbers.  A number is fresh if it is greater than
all that were applied and was issued after its URL was last retired.  The two counters of a URL
say which numbers are fresh, whatever was called before (`IsHonest.tells`), so that exactly these
are applied (`answers_of_honest`).
-/

namespace SqlLint.Generations

/-- What may be asked about the numbers. -/
inductive Call where
  | issue (uri : Url)
  | tryApply (uri : Url) (n : Nat)
  | retire (uri : Url)
  deriving DecidableEq, Repr

/-- The URL of a call. -/
def Call.uri : Call → Url
  | .issue uri => uri
  | .tryApply uri _ => uri
  | .retire uri => uri

/-- The numbers after a call. -/
def call (g : Generations) : Call → Generations
  | .issue uri => (g.issue uri).2
  | .tryApply uri n => (g.tryApply uri n).2
  | .retire uri => g.retire uri

/-- The numbers after some calls, none of which were made before. -/
def after (calls : List Call) : Generations := calls.foldl call []

/-- One of the calls was answered with the number. -/
def WasIssued (calls : List Call) (uri : Url) (n : Nat) : Prop :=
  ∃ before rest, calls = before ++ .issue uri :: rest ∧ ((after before).issue uri).1 = n

/-- One of the calls applied the number. -/
def WasApplied (calls : List Call) (uri : Url) (n : Nat) : Prop :=
  ∃ before rest, calls = before ++ .tryApply uri n :: rest ∧
    ((after before).tryApply uri n).1 = true

/-- One of the calls was answered with the number, and the URL was not retired after it. -/
def IsCurrent (calls : List Call) (uri : Url) (n : Nat) : Prop :=
  ∃ before rest, calls = before ++ .issue uri :: rest ∧ ((after before).issue uri).1 = n ∧
    .retire uri ∉ rest

/-- The number is greater than all that were applied, and was issued after the URL was retired. -/
def IsFresh (calls : List Call) (uri : Url) (n : Nat) : Prop :=
  (∀ m, WasApplied calls uri m → m < n) ∧ IsCurrent calls uri n

/-- What is to be applied was issued before. -/
def IsHonest (calls : List Call) : Prop :=
  ∀ before rest uri n, calls = before ++ .tryApply uri n :: rest → WasIssued before uri n

variable {g : Generations} {calls before rest : List Call} {x y : Call} {uri : Url} {n : Nat}

/-! ## One more call -/

theorem after_concat (calls : List Call) (x : Call) : after (calls ++ [x]) = (after calls).call x :=
  List.foldl_concat ..

theorem concat_eq_iff : calls ++ [x] = before ++ y :: rest ↔
    (rest = [] ∧ calls = before ∧ x = y) ∨
      ∃ rest', rest = rest' ++ [x] ∧ calls = before ++ y :: rest' := by
  constructor
  · intro split
    obtain rfl | ⟨rest, last, rfl⟩ := List.eq_nil_or_concat rest
    · obtain ⟨same, last⟩ := List.append_inj' split rfl
      exact .inl ⟨rfl, same, List.singleton_inj.1 last⟩
    · rw [List.concat_eq_append, ← List.cons_append, ← List.append_assoc] at split
      obtain ⟨same, last⟩ := List.append_inj' split rfl
      rw [List.concat_eq_append, ← List.singleton_inj.1 last]
      exact .inr ⟨rest, rfl, same⟩
  · rintro (⟨rfl, rfl, rfl⟩ | ⟨rest, rfl, rfl⟩) <;> simp

theorem exists_split_concat {P : List Call → List Call → Prop} :
    (∃ before rest, calls ++ [x] = before ++ y :: rest ∧ P before rest) ↔
      (x = y ∧ P calls []) ∨ ∃ before rest, calls = before ++ y :: rest ∧ P before (rest ++ [x]) := by
  simp only [concat_eq_iff]
  constructor
  · rintro ⟨before, rest, ⟨rfl, rfl, rfl⟩ | ⟨rest, rfl, rfl⟩, h⟩
    · exact .inl ⟨rfl, h⟩
    · exact .inr ⟨before, rest, rfl, h⟩
  · rintro (⟨rfl, h⟩ | ⟨before, rest, rfl, h⟩)
    · exact ⟨calls, [], .inl ⟨rfl, rfl, rfl⟩, h⟩
    · exact ⟨before, rest ++ [x], .inr ⟨rest, rfl, rfl⟩, h⟩

theorem wasApplied_concat : WasApplied (calls ++ [x]) uri n ↔
    (x = .tryApply uri n ∧ ((after calls).tryApply uri n).1 = true) ∨ WasApplied calls uri n :=
  exists_split_concat

theorem isCurrent_concat : IsCurrent (calls ++ [x]) uri n ↔
    (x = .issue uri ∧ ((after calls).issue uri).1 = n) ∨
      IsCurrent calls uri n ∧ x ≠ .retire uri := by
  refine exists_split_concat.trans (or_congr ?_ ?_)
  · simp
  · simp only [IsCurrent, List.mem_append, List.mem_singleton, not_or, ne_comm (a := x)]
    constructor
    · rintro ⟨before, rest, split, issued, current, kept⟩
      exact ⟨⟨before, rest, split, issued, current⟩, kept⟩
    · rintro ⟨⟨before, rest, split, issued, current⟩, kept⟩
      exact ⟨before, rest, split, issued, current, kept⟩

theorem isHonest_nil : IsHonest [] := by
  intro before rest uri n split
  simp at split

theorem isHonest_concat : IsHonest (calls ++ [x]) ↔
    IsHonest calls ∧ ∀ uri n, x = .tryApply uri n → WasIssued calls uri n := by
  constructor
  · intro honest
    refine ⟨fun before rest uri n split => honest before (rest ++ [x]) uri n (by simp [split]), ?_⟩
    rintro uri n rfl
    exact honest calls [] uri n rfl
  · rintro ⟨honest, last⟩ before rest uri n split
    obtain ⟨-, rfl, same⟩ | ⟨rest', -, split⟩ := concat_eq_iff.1 split
    · exact last uri n same
    · exact honest before rest' uri n split

/-! ## What a call does -/

/-- The numbers of one URL after a call for it. -/
def ownAfter (own : Generation) : Call → Generation
  | .issue _ => { own with issued := own.issued + 1 }
  | .tryApply _ n => if own.applied < n then { own with applied := n } else own
  | .retire _ => { own with applied := own.issued }

/-- A call changes the numbers of its URL, by what they are. -/
theorem of_call (g : Generations) (x : Call) (uri : Url) :
    (g.call x).of uri = if uri = x.uri then ownAfter (g.of uri) x else g.of uri := by
  have changes (new : Generation) (h : ownAfter (g.of x.uri) x = new) :
      (g.set x.uri new).of uri = if uri = x.uri then ownAfter (g.of uri) x else g.of uri := by
    rw [of_set]
    split
    · next own => rw [own, h]
    · rfl
  cases x with
  | issue own => exact changes _ rfl
  | retire own => exact changes _ rfl
  | tryApply own n =>
    by_cases newer : (g.of own).applied < n
    · have accepted : g.accepts own n = true := by simpa [accepts] using newer
      rw [call, tryApply_of_accepts accepted]
      exact changes _ (if_pos newer)
    · have same : g.call (.tryApply own n) = g := by simp [call, tryApply, accepts, newer]
      rw [same]
      split
      · next h => exact h ▸ (if_neg newer).symm
      · rfl

theorem tryApply_fst (g : Generations) (uri : Url) (n : Nat) :
    (g.tryApply uri n).1 = true ↔ (g.of uri).applied < n := by
  rw [tryApply]
  split <;> simp_all [accepts]

/-- The last number issued says how many were. -/
theorem issued_after (calls : List Call) (uri : Url) :
    ((after calls).of uri).issued = calls.count (.issue uri) := by
  induction calls using List.reverseRecOn with
  | nil => rfl
  | append_singleton calls x ih =>
    rw [after_concat, of_call, List.count_append, List.count_singleton, ← ih]
    cases x with
    | issue own =>
      by_cases h : uri = own
      · subst h
        simp [ownAfter, Call.uri]
      · simp [Call.uri, h, Ne.symm h]
    | retire own => simp [ownAfter, apply_ite Generation.issued]
    | tryApply own n => simp [ownAfter, apply_ite Generation.issued]

/-- Only the calls for a URL count for it. -/
theorem of_after_filter (calls : List Call) (uri : Url) :
    (after (calls.filter (·.uri = uri))).of uri = (after calls).of uri := by
  induction calls using List.reverseRecOn with
  | nil => rfl
  | append_singleton calls x ih =>
    rw [List.filter_append, List.filter_singleton, after_concat, of_call, ← ih]
    by_cases own : x.uri = uri
    · rw [if_pos own.symm, decide_eq_true own, cond_true, after_concat, of_call, if_pos own.symm]
    · rw [if_neg (Ne.symm own), decide_eq_false own, cond_false, List.append_nil]

/-! ## What the counters say -/

/-- The counters of a URL tell which numbers are fresh. -/
structure Tells (calls : List Call) (uri : Url) : Prop where
  applied_le : ((after calls).of uri).applied ≤ ((after calls).of uri).issued
  le_applied : ∀ m, WasApplied calls uri m → m ≤ ((after calls).of uri).applied
  isFresh_iff : ∀ n, IsFresh calls uri n ↔
    ((after calls).of uri).applied < n ∧ n ≤ ((after calls).of uri).issued

theorem tells_nil (uri : Url) : Tells [] uri where
  applied_le := Nat.le_refl _
  le_applied := by
    rintro m ⟨before, rest, split, -⟩
    simp at split
  isFresh_iff n := by
    constructor
    · rintro ⟨-, before, rest, split, -⟩
      simp at split
    · intro ⟨newer, issued⟩
      exact absurd (Nat.lt_of_lt_of_le newer issued) (Nat.lt_irrefl 0)

theorem WasIssued.le (issued : WasIssued calls uri n) : n ≤ ((after calls).of uri).issued := by
  obtain ⟨before, rest, rfl, rfl⟩ := issued
  rw [issued_after, List.count_append, List.count_cons_self, ← issued_after before uri]
  show ((after before).of uri).issued + 1 ≤ _
  omega

theorem of_after_concat (calls : List Call) (x : Call) :
    (after (calls ++ [x])).of x.uri = ownAfter ((after calls).of x.uri) x := by
  rw [after_concat, of_call, if_pos rfl]

namespace Tells

theorem of_ne (tells : Tells calls uri) (other : uri ≠ x.uri) : Tells (calls ++ [x]) uri := by
  have same : (after (calls ++ [x])).of uri = (after calls).of uri := by
    rw [after_concat, of_call, if_neg other]
  have applied (m : Nat) : WasApplied (calls ++ [x]) uri m ↔ WasApplied calls uri m := by
    rw [wasApplied_concat]
    refine or_iff_right ?_
    rintro ⟨rfl, -⟩
    exact other rfl
  have current (n : Nat) : IsCurrent (calls ++ [x]) uri n ↔ IsCurrent calls uri n := by
    rw [isCurrent_concat, or_iff_right, and_iff_left]
    · rintro rfl
      exact other rfl
    · rintro ⟨rfl, -⟩
      exact other rfl
  refine ⟨same ▸ tells.applied_le, ?_, ?_⟩
  · simpa only [same, applied] using tells.le_applied
  · simpa only [same, IsFresh, applied, current] using tells.isFresh_iff

theorem issue (tells : Tells calls uri) : Tells (calls ++ [.issue uri]) uri := by
  obtain ⟨sound, bound, fresh⟩ := tells
  have next : (after (calls ++ [.issue uri])).of uri =
      ⟨((after calls).of uri).issued + 1, ((after calls).of uri).applied⟩ :=
    of_after_concat calls (.issue uri)
  have applied (m : Nat) : WasApplied (calls ++ [.issue uri]) uri m ↔ WasApplied calls uri m := by
    simp [wasApplied_concat]
  have current (n : Nat) : IsCurrent (calls ++ [.issue uri]) uri n ↔
      n = ((after calls).of uri).issued + 1 ∨ IsCurrent calls uri n := by
    simp [isCurrent_concat, Generations.issue, eq_comm]
  refine ⟨?_, ?_, fun n => ?_⟩
  · rw [next]
    exact Nat.le_succ_of_le sound
  · simpa only [next, applied] using bound
  · have known := fresh n
    simp only [IsFresh, applied, current, next] at known ⊢
    constructor
    · rintro ⟨newer, rfl | issued⟩
      · omega
      · have := known.1 ⟨newer, issued⟩
        omega
    · intro ⟨newer, issued⟩
      refine ⟨fun m hm => Nat.lt_of_le_of_lt (bound m hm) newer, ?_⟩
      obtain earlier | last := Nat.le_succ_iff.1 issued
      · exact .inr (known.2 ⟨newer, earlier⟩).2
      · exact .inl last

theorem tryApply (tells : Tells calls uri) (issued : n ≤ ((after calls).of uri).issued) :
    Tells (calls ++ [.tryApply uri n]) uri := by
  obtain ⟨sound, bound, fresh⟩ := tells
  have next : (after (calls ++ [.tryApply uri n])).of uri =
      if ((after calls).of uri).applied < n then ⟨((after calls).of uri).issued, n⟩
      else (after calls).of uri :=
    of_after_concat calls (.tryApply uri n)
  have applied (m : Nat) : WasApplied (calls ++ [.tryApply uri n]) uri m ↔
      (n = m ∧ ((after calls).of uri).applied < m) ∨ WasApplied calls uri m := by
    simp [wasApplied_concat, tryApply_fst]
  have current (m : Nat) : IsCurrent (calls ++ [.tryApply uri n]) uri m ↔ IsCurrent calls uri m := by
    simp [isCurrent_concat]
  by_cases newer : ((after calls).of uri).applied < n
  · rw [if_pos newer] at next
    refine ⟨by rw [next]; exact issued, fun m hm => ?_, fun m => ?_⟩
    · rw [next]
      obtain ⟨rfl, -⟩ | earlier := (applied m).1 hm
      · exact Nat.le_refl _
      · exact Nat.le_trans (bound m earlier) (Nat.le_of_lt newer)
    · have known := fresh m
      simp only [IsFresh, applied, current, next] at known ⊢
      constructor
      · intro ⟨above, live⟩
        have := known.1 ⟨fun k hk => above k (.inr hk), live⟩
        exact ⟨above n (.inl ⟨rfl, newer⟩), this.2⟩
      · intro ⟨above, le⟩
        refine ⟨?_, (known.2 ⟨Nat.lt_trans newer above, le⟩).2⟩
        rintro k (⟨rfl, -⟩ | earlier)
        · exact above
        · exact Nat.lt_of_le_of_lt (bound k earlier) (Nat.lt_trans newer above)
  · rw [if_neg newer] at next
    have same (m : Nat) : WasApplied (calls ++ [.tryApply uri n]) uri m ↔ WasApplied calls uri m := by
      rw [applied]
      refine or_iff_right ?_
      rintro ⟨rfl, accepted⟩
      exact newer accepted
    refine ⟨next ▸ sound, ?_, ?_⟩
    · simpa only [next, same] using bound
    · simpa only [next, IsFresh, same, current] using fresh

theorem retire (tells : Tells calls uri) : Tells (calls ++ [.retire uri]) uri := by
  obtain ⟨sound, bound, fresh⟩ := tells
  have next : (after (calls ++ [.retire uri])).of uri =
      ⟨((after calls).of uri).issued, ((after calls).of uri).issued⟩ :=
    of_after_concat calls (.retire uri)
  have current (n : Nat) : ¬ IsCurrent (calls ++ [.retire uri]) uri n := by
    simp [isCurrent_concat]
  refine ⟨next ▸ Nat.le_refl _, fun m hm => ?_, fun n => ?_⟩
  · have earlier : WasApplied calls uri m := by simpa [wasApplied_concat] using hm
    rw [next]
    exact Nat.le_trans (bound m earlier) sound
  · rw [next]
    refine iff_of_false (fun h => current n h.2) ?_
    intro ⟨newer, issued⟩
    exact Nat.not_le.2 newer issued

end Tells

/-- After honest calls the counters of every URL tell which numbers are fresh. -/
theorem IsHonest.tells (honest : IsHonest calls) (uri : Url) : Tells calls uri := by
  -- The calls are taken away from the end; only `tryApply` needs the honesty of the last one.
  induction calls using List.reverseRecOn with
  | nil => exact tells_nil uri
  | append_singleton calls x ih =>
    obtain ⟨earlier, last⟩ := isHonest_concat.1 honest
    have before := ih earlier
    by_cases other : uri = x.uri
    · subst other
      cases x with
      | issue uri => exact before.issue
      | tryApply uri n => exact before.tryApply (last uri n rfl).le
      | retire uri => exact before.retire
    · exact before.of_ne other

theorem isHonest_append (honest : IsHonest (calls ++ rest)) : IsHonest calls :=
  fun before after uri n split => honest before (after ++ rest) uri n (by simp [split])

theorem grows_call (sound : g.IsSound) (x : Call) : Grows g (g.call x) := by
  cases x with
  | issue uri => exact grows_issue g uri
  | retire uri => exact grows_retire sound uri
  | tryApply uri n =>
    by_cases accepted : g.accepts uri n = true
    · exact grows_tryApply accepted
    · rw [call, tryApply, if_neg accepted]
      exact .refl g

/-- The numbers of no URL become less along honest calls. -/
theorem grows_of_append (honest : IsHonest (calls ++ rest)) :
    Grows (after calls) (after (calls ++ rest)) := by
  induction rest using List.reverseRecOn with
  | nil =>
    rw [List.append_nil]
    exact .refl _
  | append_singleton rest x ih =>
    rw [← List.append_assoc] at honest ⊢
    have earlier := isHonest_append honest
    rw [after_concat]
    exact (ih earlier).trans (grows_call (fun uri => (earlier.tells uri).applied_le) x)

/-- Each URL is counted for itself from one on, across all retirements.  A number is applied exactly if
it is fresh, and what was applied last never becomes less nor exceeds what was issued. -/
theorem answers_of_honest (honest : IsHonest calls) :
    (∀ before rest uri, calls = before ++ .issue uri :: rest →
      ((after before).issue uri).1 = before.count (.issue uri) + 1) ∧
    (∀ before rest uri n, calls = before ++ .tryApply uri n :: rest →
      (((after before).tryApply uri n).1 = true ↔ IsFresh before uri n)) ∧
    (∀ before more rest uri, calls = before ++ more ++ rest →
      ((after before).of uri).applied ≤ ((after before).of uri).issued ∧
      ((after before).of uri).applied ≤ ((after (before ++ more)).of uri).applied) ∧
    (∀ before rest uri, calls = before ++ rest →
      (after before).of uri = (after (before.filter (·.uri = uri))).of uri) := by
  refine ⟨?_, ?_, ?_, fun before rest uri _ => (of_after_filter before uri).symm⟩
  · intro before rest uri _
    rw [← issued_after]
    rfl
  · intro before rest uri n split
    have issued : WasIssued before uri n := honest before rest uri n split
    have earlier : IsHonest before := isHonest_append (split ▸ honest)
    rw [tryApply_fst, (earlier.tells uri).isFresh_iff]
    exact (and_iff_left issued.le).symm
  · intro before more rest uri split
    have upTo : IsHonest (before ++ more) := isHonest_append (split ▸ honest)
    exact ⟨((isHonest_append upTo).tells uri).applied_le, (grows_of_append upTo uri).2⟩

/-- A document that is closed while its first lint goes on, and opened again. -/
def reopened : List Call :=
  [ .issue Document.plain.uri, .issue ⟨"untitled", none, "x", none, none⟩,
    .retire Document.plain.uri, .tryApply Document.plain.uri 1, .issue Document.plain.uri,
    .tryApply Document.plain.uri 2 ]

theorem answers_of_honest_reopened :
    IsHonest reopened ∧ ¬ IsFresh (reopened.take 3) Document.plain.uri 1 ∧
      IsFresh (reopened.take 5) Document.plain.uri 2 := by
  have honest : IsHonest reopened := by
    show IsHonest ([] ++ [_] ++ [_] ++ [_] ++ [_] ++ [_] ++ [_])
    simp only [isHonest_concat, isHonest_nil, reduceCtorEq, false_implies, implies_true, true_and,
      and_true]
    constructor
    · rintro _ _ ⟨⟩
      exact ⟨[], reopened.tail.take 2, rfl, by decide⟩
    · rintro _ _ ⟨⟩
      exact ⟨reopened.take 4, [], rfl, by decide⟩
  obtain ⟨-, applies, -⟩ := answers_of_honest honest
  refine ⟨honest, ?_, ?_⟩
  · rw [← applies (reopened.take 3) (reopened.drop 4) _ 1 rfl]
    decide
  · rw [← applies (reopened.take 5) [] _ 2 rfl]
    decide

end SqlLint.Generations
