import SqlLint.Settings.Variables
import SqlLint.Text.Digit
import SqlLint.Tool.Version

/-!
# What settings ask for

The arguments that settings add to the commands of the tool, the severity of a rule, the languages
that are linted and formatted, and `Settings.excludeRule`, which adds a rule to the excluded ones
and keeps them in order.
-/

namespace SqlLint

open Text

/-- The arguments of every command of the tool. -/
def Config.extraArguments (c : Config) : List String :=
  let s := c.settings
  (if c.configFile.isEmpty then [] else ["--config", c.configFile]) ++
    (match s.dialect with
      | some dialect => if dialect.isEmpty then [] else ["--dialect", dialect]
      | none => []) ++
    (if s.excludeRules = [] then [] else ["--exclude-rules", joinStrings "," s.excludeRules]) ++
    (if s.ignoreLocalConfig then ["--ignore-local-config"] else []) ++
    (if s.ignoreParsing then ["--ignore", "parsing"] else []) ++
    (if s.rules = [] then [] else ["--rules", joinStrings "," s.rules])

namespace Settings

/-- The arguments of the command that lints. -/
def lintArguments (s : Settings) : List String := s.linter.arguments ++ ["--format", "json"]

/-- The arguments of the command that fixes; a tool that needs `--force` is given it once. -/
def fixArguments (s : Settings) (version : Option ToolVersion) : List String :=
  let arguments := s.format.arguments
  if version.any ToolVersion.dropsForce ∨ arguments.contains "--force" then arguments
  else arguments ++ ["--force"]

/-- The severity of the diagnostics of a rule. -/
def severityOf (s : Settings) (rule : String) : Severity :=
  match s.linter.diagnosticSeverityByRule.find? (·.rule = rule) with
  | some chosen => chosen.severity
  | none => s.linter.diagnosticSeverity

/-- Documents of the language are linted. -/
def lints (s : Settings) (language : String) : Bool := s.linter.languages.contains language

/-- Documents of the language are formatted. -/
def formats (s : Settings) (language : String) : Bool :=
  s.format.languages.any (·.language = language)

/-- The settings of a language that has some of its own. -/
def languageFormat? (s : Settings) (language : String) : Option LanguageFormat :=
  s.format.languages.findSome? fun
    | .detailed own => if own.language = language then some own else none
    | .name _ => none

/-- Quick fixes silence rules by comments. -/
def noqaEnabled (s : Settings) : Bool := s.codeActions.noqa ≠ .enabled false

/-- The rules that no quick fix silences. -/
def noqaDisabledRules (s : Settings) : List String :=
  match s.codeActions.noqa with
  | .disabledRules rules => rules
  | .enabled _ => []

/-! ## Excluded rules -/

/-- A rule as letters, a number and its name; the names of rules are ordered by these. -/
def ruleKey (rule : String) : List Char × Nat × String :=
  let letters := rule.toList.takeWhile Char.isAlpha
  let digits := (rule.toList.drop letters.length).takeWhile Char.isDigit
  (letters, (decimal? UInt32.size digits).getD 0xFFFFFFFF, rule)

/-- A rule stands before another one, or is the same. -/
def ruleAtMost (a b : String) : Bool :=
  let (x, m, s) := ruleKey a
  let (y, n, t) := ruleKey b
  decide (x < y) || (x == y && (m < n || (m == n && decide (s ≤ t))))

/-- The settings with one more rule excluded, unless it is excluded already. -/
def excludeRule? (s : Settings) (rule : String) : Option Settings :=
  if s.excludeRules.contains rule then none
  else some { s with excludeRules := (s.excludeRules ++ [rule]).mergeSort ruleAtMost }

theorem excludeRule?_of_mem {s : Settings} {rule : String} (known : rule ∈ s.excludeRules) :
    s.excludeRule? rule = none :=
  if_pos (List.contains_iff_mem.2 known)

theorem excludeRule?_of_not_mem {s : Settings} {rule : String} (new : rule ∉ s.excludeRules) :
    s.excludeRule? rule =
      some { s with excludeRules := (s.excludeRules ++ [rule]).mergeSort ruleAtMost } :=
  if_neg (mt List.contains_iff_mem.1 new)

theorem excludeRule?_eq_none_iff {s : Settings} {rule : String} :
    s.excludeRule? rule = none ↔ rule ∈ s.excludeRules := by
  by_cases known : rule ∈ s.excludeRules
  · exact iff_of_true (excludeRule?_of_mem known) known
  · rw [excludeRule?_of_not_mem known]
    exact iff_of_false nofun known

/-- Excluding a rule puts it among those that are excluded, and changes nothing else. -/
theorem excludeRule?_eq_some {s s' : Settings} {rule : String} (h : s.excludeRule? rule = some s') :
    ∃ rules, s' = { s with excludeRules := rules } ∧
      ∀ other, other ∈ rules ↔ other ∈ s.excludeRules ∨ other = rule := by
  by_cases known : rule ∈ s.excludeRules
  · rw [excludeRule?_of_mem known] at h
    cases h
  · rw [excludeRule?_of_not_mem known] at h
    exact ⟨_, (Option.some.inj h).symm, fun other => by simp⟩

end Settings

end SqlLint
