import Mathlib.Data.List.Sort
import Mathlib.Data.Prod.Lex
import Mathlib.Data.String.Basic
import SqlLint.Settings.Arguments

/-!
# The order of excluded rules

Rules are ordered by the letters that they begin with, then by their number, then by their whole
name (`RuleBefore`); this is a total order, in which no two rules have the same place
(`placeOf_injective`).  So the list of the excluded rules is sorted after any call that adds one,
and after any number of calls it depends only on what was in it and on which rules were to be
excluded (`excluding_congr`).
-/

namespace SqlLint

open Text

namespace Settings

variable {s : Settings} {a b c r rule : String} {rules others : List String}

/-! ## The order -/

/-- The ASCII letters that a rule begins with. -/
def ruleLetters (rule : String) : List Char := rule.toList.takeWhile Char.isAlpha

/-- The number that the ASCII digits after the letters of a rule write.  A rule without such digits
counts as one with the largest 32-bit number, as does one whose number is larger than that. -/
def ruleNumber (rule : String) : Nat :=
  let digits := (rule.toList.dropWhile Char.isAlpha).takeWhile Char.isDigit
  if digits = [] then UInt32.size - 1 else min (decimalValue digits) (UInt32.size - 1)

/-- A rule comes before another one, or is the same: by its letters, then by its number, then by its
whole name. -/
def RuleBefore (a b : String) : Prop :=
  ruleLetters a < ruleLetters b ∨ ruleLetters a = ruleLetters b ∧
    (ruleNumber a < ruleNumber b ∨ ruleNumber a = ruleNumber b ∧ a ≤ b)

/-- The place of a rule in the order. -/
def placeOf (rule : String) : List Char ×ₗ Nat ×ₗ String :=
  toLex (ruleLetters rule, toLex (ruleNumber rule, rule))

theorem placeOf_injective : Function.Injective placeOf := fun _ _ same =>
  congrArg (fun p => (ofLex (ofLex p).2).2) same

theorem ruleBefore_iff : RuleBefore a b ↔ placeOf a ≤ placeOf b := by
  rw [placeOf, placeOf, Prod.Lex.toLex_le_toLex, Prod.Lex.toLex_le_toLex]
  rfl

theorem getD_decimal?_of_digits {cs : List Char} (digits : cs.all Char.isDigit = true) :
    (decimal? UInt32.size cs).getD 0xFFFFFFFF =
      if cs = [] then UInt32.size - 1 else min (decimalValue cs) (UInt32.size - 1) := by
  rw [decimal?]
  by_cases empty : cs = []
  · rw [if_neg fun h => h.1 empty, if_pos empty]
    rfl
  · by_cases small : decimalValue cs < UInt32.size
    · rw [if_pos ⟨empty, digits, small⟩, if_neg empty, Option.getD_some, Nat.min_eq_left (by omega)]
    · rw [if_neg fun h => small h.2.2, if_neg empty, Option.getD_none, Nat.min_eq_right (by omega)]
      rfl

theorem ruleKey_eq (rule : String) : ruleKey rule = (ruleLetters rule, ruleNumber rule, rule) := by
  have rest : rule.toList.drop (ruleLetters rule).length = rule.toList.dropWhile Char.isAlpha := by
    have split : rule.toList = ruleLetters rule ++ rule.toList.dropWhile Char.isAlpha :=
      List.takeWhile_append_dropWhile.symm
    conv_lhs => rw [split]
    exact List.drop_left
  rw [ruleNumber, ← getD_decimal?_of_digits List.all_takeWhile, ← rest]
  rfl

theorem ruleAtMost_iff : ruleAtMost a b = true ↔ RuleBefore a b := by
  simp only [ruleAtMost, ruleKey_eq, RuleBefore, Bool.or_eq_true, Bool.and_eq_true, beq_iff_eq,
    decide_eq_true_eq]

/-! ## Excluding one rule -/

/-- The excluded rules are in order. -/
def IsSorted (s : Settings) : Prop := s.excludeRules.Pairwise RuleBefore

/-- The settings after a rule was to be excluded. -/
def exclude (s : Settings) (rule : String) : Settings := (s.excludeRule? rule).getD s

theorem exclude_of_mem (known : rule ∈ s.excludeRules) : s.exclude rule = s := by
  rw [exclude, excludeRule?_of_mem known, Option.getD_none]

theorem exclude_of_not_mem (new : rule ∉ s.excludeRules) :
    s.exclude rule =
      { s with excludeRules := (s.excludeRules ++ [rule]).mergeSort ruleAtMost } := by
  rw [exclude, excludeRule?_of_not_mem new, Option.getD_some]

/-- A call changes no other setting. -/
theorem exists_exclude_eq (s : Settings) (rule : String) :
    ∃ list, s.exclude rule = { s with excludeRules := list } := by
  by_cases known : rule ∈ s.excludeRules
  · exact ⟨s.excludeRules, exclude_of_mem known⟩
  · exact ⟨_, exclude_of_not_mem known⟩

theorem mem_exclude : r ∈ (s.exclude rule).excludeRules ↔ r ∈ s.excludeRules ∨ r = rule := by
  by_cases known : rule ∈ s.excludeRules
  · rw [exclude_of_mem known]
    exact ⟨.inl, fun h => h.elim id fun same => same ▸ known⟩
  · rw [exclude_of_not_mem known]
    simp

theorem count_exclude (s : Settings) (rule r : String) :
    (s.exclude rule).excludeRules.count r =
      if r = rule ∧ rule ∉ s.excludeRules then 1 else s.excludeRules.count r := by
  by_cases known : rule ∈ s.excludeRules
  · rw [exclude_of_mem known, if_neg fun h => h.2 known]
  · have added : (s.exclude rule).excludeRules.count r = (s.excludeRules ++ [rule]).count r := by
      rw [exclude_of_not_mem known]
      exact (List.mergeSort_perm _ _).count_eq r
    rw [added, List.count_append]
    by_cases same : r = rule
    · rw [if_pos ⟨same, known⟩, same, List.count_eq_zero.2 known, List.count_singleton_self]
    · rw [if_neg fun h => same h.1, List.count_singleton, if_neg (by simpa using Ne.symm same),
        Nat.add_zero]

theorem isSorted_exclude_of_not_mem (new : rule ∉ s.excludeRules) : (s.exclude rule).IsSorted := by
  rw [exclude_of_not_mem new]
  have trans (a b c : String) (ab : ruleAtMost a b = true) (bc : ruleAtMost b c = true) :
      ruleAtMost a c = true := by
    rw [ruleAtMost_iff, ruleBefore_iff] at ab bc ⊢
    exact ab.trans bc
  have total (a b : String) : (ruleAtMost a b || ruleAtMost b a) = true := by
    rw [Bool.or_eq_true, ruleAtMost_iff, ruleAtMost_iff, ruleBefore_iff, ruleBefore_iff]
    exact le_total _ _
  exact (List.pairwise_mergeSort trans total _).imp ruleAtMost_iff.1

theorem IsSorted.exclude (sorted : s.IsSorted) (rule : String) : (s.exclude rule).IsSorted := by
  by_cases known : rule ∈ s.excludeRules
  · rwa [exclude_of_mem known]
  · exact isSorted_exclude_of_not_mem known

/-- Lists in order that hold each rule equally often are the same. -/
theorem excludeRules_eq {t : Settings} (hs : s.IsSorted) (ht : t.IsSorted)
    (counts : ∀ r, s.excludeRules.count r = t.excludeRules.count r) :
    s.excludeRules = t.excludeRules := by
  refine List.Perm.eq_of_pairwise (fun a b _ _ ab ba => ?_) hs ht (List.perm_iff_count.2 counts)
  exact placeOf_injective (le_antisymm (ruleBefore_iff.1 ab) (ruleBefore_iff.1 ba))

/-! ## Excluding one rule after the other -/

/-- The settings after rules were to be excluded, one after the other. -/
def excluding (s : Settings) (rules : List String) : Settings := rules.foldl exclude s

theorem excluding_cons (s : Settings) (rule : String) (rules : List String) :
    s.excluding (rule :: rules) = (s.exclude rule).excluding rules := rfl

theorem excluding_concat (s : Settings) (rules : List String) (rule : String) :
    s.excluding (rules ++ [rule]) = (s.excluding rules).exclude rule := by
  rw [excluding, List.foldl_append]
  rfl

theorem exists_excluding_eq (s : Settings) (rules : List String) :
    ∃ list, s.excluding rules = { s with excludeRules := list } := by
  induction rules generalizing s with
  | nil => exact ⟨s.excludeRules, rfl⟩
  | cons rule rules ih =>
    obtain ⟨first, hfirst⟩ := s.exists_exclude_eq rule
    obtain ⟨list, hlist⟩ := ih (s.exclude rule)
    exact ⟨list, by rw [excluding_cons, hlist, hfirst]⟩

theorem count_excluding (s : Settings) (rules : List String) (r : String) :
    (s.excluding rules).excludeRules.count r =
      if r ∈ s.excludeRules then s.excludeRules.count r else if r ∈ rules then 1 else 0 := by
  induction rules generalizing s with
  | nil =>
    by_cases known : r ∈ s.excludeRules
    · exact (if_pos known).symm
    · rw [if_neg known, if_neg List.not_mem_nil]
      exact List.count_eq_zero.2 known
  | cons rule rules ih =>
    rw [excluding_cons, ih, count_exclude]
    simp only [mem_exclude, List.mem_cons]
    grind

/-- Rules that are excluded already leave the settings as they are. -/
theorem excluding_of_subset (known : ∀ rule ∈ rules, rule ∈ s.excludeRules) :
    s.excluding rules = s := by
  induction rules with
  | nil => rfl
  | cons rule rules ih =>
    rw [excluding_cons, exclude_of_mem (known rule List.mem_cons_self)]
    exact ih fun r hr => known r (List.mem_cons_of_mem _ hr)

theorem IsSorted.excluding (sorted : s.IsSorted) (rules : List String) :
    (s.excluding rules).IsSorted := by
  induction rules generalizing s with
  | nil => exact sorted
  | cons rule rules ih => exact ih (sorted.exclude rule)

theorem isSorted_excluding_of_new (new : ∃ rule ∈ rules, rule ∉ s.excludeRules) :
    (s.excluding rules).IsSorted := by
  induction rules generalizing s with
  | nil => simp at new
  | cons rule rules ih =>
    rw [excluding_cons]
    by_cases known : rule ∈ s.excludeRules
    · rw [exclude_of_mem known]
      obtain ⟨r, hr, new⟩ := new
      obtain rfl | hr := List.mem_cons.1 hr
      · exact absurd known new
      · exact ih ⟨r, hr, new⟩
    · exact (isSorted_exclude_of_not_mem known).excluding rules

/-- What counts is which rules were to be excluded, not in which order or how often. -/
theorem excluding_congr (same : ∀ rule, rule ∈ rules ↔ rule ∈ others) :
    s.excluding rules = s.excluding others := by
  by_cases new : ∃ rule ∈ rules, rule ∉ s.excludeRules
  · have new' : ∃ rule ∈ others, rule ∉ s.excludeRules :=
      new.imp fun rule h => ⟨(same rule).1 h.1, h.2⟩
    have lists := excludeRules_eq (isSorted_excluding_of_new new) (isSorted_excluding_of_new new')
      fun r => by simp only [count_excluding, same]
    obtain ⟨list, hlist⟩ := s.exists_excluding_eq rules
    obtain ⟨list', hlist'⟩ := s.exists_excluding_eq others
    rw [hlist, hlist'] at lists ⊢
    exact congrArg (fun list => { s with excludeRules := list }) lists
  · simp only [not_exists, not_and, not_not] at new
    rw [excluding_of_subset new, excluding_of_subset fun rule h => new rule ((same rule).2 h)]

/-- What comes of calls that exclude rules, whatever was excluded before them. -/
structure ExcludesInAnyOrder (s : Settings) : Prop where
  anyOrder : ∀ rules others, (∀ rule, rule ∈ rules ↔ rule ∈ others) →
    s.excluding rules = s.excluding others
  count : ∀ rules r, (s.excluding rules).excludeRules.count r =
    if r ∈ s.excludeRules then s.excludeRules.count r else if r ∈ rules then 1 else 0
  sorted : ∀ before rule after, (s.excluding before).excludeRule? rule ≠ none →
    (s.excluding (before ++ rule :: after)).excludeRules.Pairwise RuleBefore
  refused : ∀ rules rule, (s.excluding rules).excludeRule? rule = none ↔
    rule ∈ (s.excluding rules).excludeRules
  kept : ∀ rules rule,
    (s.excluding (rules ++ [rule])).excludeRules = (s.excluding rules).excludeRules ↔
      rule ∈ (s.excluding rules).excludeRules
  others : ∀ rules, ∃ list, s.excluding rules = { s with excludeRules := list }

theorem isSorted_excluding_of_added {before after : List String}
    (added : (s.excluding before).excludeRule? rule ≠ none) :
    (s.excluding (before ++ rule :: after)).IsSorted := by
  have new : rule ∉ (s.excluding before).excludeRules := mt excludeRule?_eq_none_iff.2 added
  rw [excluding, List.foldl_append]
  exact (isSorted_exclude_of_not_mem new).excluding after

theorem excludeRules_concat_eq_iff :
    (s.excluding (rules ++ [rule])).excludeRules = (s.excluding rules).excludeRules ↔
      rule ∈ (s.excluding rules).excludeRules := by
  rw [excluding_concat]
  constructor
  · intro same
    rw [← same]
    exact mem_exclude.2 (.inr rfl)
  · intro known
    rw [exclude_of_mem known]

/-- Calls that exclude rules add every new rule once and lose nothing, in any order; the list is in
order as soon as one of them adds a rule, and one that adds none leaves it as it is. -/
theorem excludesInAnyOrder (s : Settings) : s.ExcludesInAnyOrder where
  anyOrder _ _ := excluding_congr
  count := s.count_excluding
  sorted _ _ _ := isSorted_excluding_of_added
  refused _ _ := excludeRule?_eq_none_iff
  kept _ _ := excludeRules_concat_eq_iff
  others := s.exists_excluding_eq

end Settings

end SqlLint
