import SqlLint.Proofs.Json.Amending
import SqlLint.Settings.Json

/-!
# Settings that are written and read again

The settings read from what was written are the settings that were written, and those read from a part
of it are the same with the fields that are missing at their defaults.  `Settings.without` sets fields
to their defaults by their places in the written value; each group of settings is read by one lemma,
about any value that amends what the group writes.  What is added is not read: only a member
`sqlfluff` on top of the settings would be.
-/

namespace SqlLint

open Draft Json

/-! ## Settings without some of their fields -/

/-- The environment with the fields that are left out at their defaults. -/
def EnvironmentSettings.without (s : EnvironmentSettings) (o : Omission) : EnvironmentSettings :=
  let base : EnvironmentSettings := {}
  { environmentVariables :=
      o.pick "environmentVariables" base.environmentVariables s.environmentVariables
    customDotEnvFiles := o.pick "customDotEnvFiles" base.customDotEnvFiles s.customDotEnvFiles
    useDotEnvFile := o.pick "useDotEnvFile" base.useDotEnvFile s.useDotEnvFile }

/-- When and how documents are linted, with the fields that are left out at their defaults. -/
def LinterSettings.without (s : LinterSettings) (o : Omission) : LinterSettings :=
  let base : LinterSettings := {}
  { arguments := o.pick "arguments" base.arguments s.arguments
    run := o.pick "run" base.run s.run
    delay := o.pick "delay" base.delay s.delay
    diagnosticSeverity := o.pick "diagnosticSeverity" base.diagnosticSeverity s.diagnosticSeverity
    diagnosticSeverityByRule :=
      o.pick "diagnosticSeverityByRule" base.diagnosticSeverityByRule s.diagnosticSeverityByRule
    lintEntireProject := o.pick "lintEntireProject" base.lintEntireProject s.lintEntireProject
    languages := o.pick "languages" base.languages s.languages }

/-- How the documents of one language are formatted, with the fields that are left out at their
defaults. -/
def LanguageFormat.without (s : LanguageFormat) (o : Omission) : LanguageFormat :=
  let base : LanguageFormat := {}
  { language := o.pick "language" base.language s.language
    contextMenuFormatOptions :=
      o.pick "contextMenuFormatOptions" base.contextMenuFormatOptions s.contextMenuFormatOptions
    preserveLeadingWhitespace :=
      o.pick "preserveLeadingWhitespace" base.preserveLeadingWhitespace s.preserveLeadingWhitespace }

/-- A language that is formatted; one given by its name alone has no fields to leave out. -/
def FormattedLanguage.without (o : Omission) : FormattedLanguage → FormattedLanguage
  | .name language => .name language
  | .detailed settings => .detailed (settings.without o)

/-- Whether and how documents are formatted, with the fields that are left out at their defaults. -/
def FormatSettings.without (s : FormatSettings) (o : Omission) : FormatSettings :=
  let base : FormatSettings := {}
  { enabled := o.pick "enabled" base.enabled s.enabled
    arguments := o.pick "arguments" base.arguments s.arguments
    languages := o.pick "languages" base.languages
      (s.languages.mapIdx fun i => .without ((o.under (.member "languages")).under (.item i))) }

/-- Whether files are fixed on disk, unless that is left out, alone or with what it stands in. -/
def ExperimentalSettings.without (s : ExperimentalSettings) (o : Omission) : ExperimentalSettings :=
  let base : ExperimentalSettings := {}
  { executeInTerminal := o.pick "format" base.executeInTerminal
      ((o.under (.member "format")).pick "executeInTerminal" base.executeInTerminal
        s.executeInTerminal) }

/-- Which quick fixes exclude rules, with the fields that are left out at their defaults. -/
def ExclusionActions.without (s : ExclusionActions) (o : Omission) : ExclusionActions :=
  let base : ExclusionActions := {}
  { workspace := o.pick "workspace" base.workspace s.workspace
    «global» := o.pick "global" base.global s.global }

/-- Which quick fixes are offered, with the fields that are left out at their defaults. -/
def CodeActionSettings.without (s : CodeActionSettings) (o : Omission) : CodeActionSettings :=
  let base : CodeActionSettings := {}
  { excludeRules := o.pick "excludeRules" base.excludeRules
      (s.excludeRules.without (o.under (.member "excludeRules")))
    noqa := o.pick "noqa" base.noqa s.noqa }

/-- The dbt server, with the fields that are left out at their defaults. -/
def DbtSettings.without (s : DbtSettings) (o : Omission) : DbtSettings :=
  let base : DbtSettings := {}
  { enabled := o.pick "enabled" base.enabled s.enabled
    host := o.pick "host" base.host s.host
    port := o.pick "port" base.port s.port
    timeout := o.pick "timeoutMs" base.timeout s.timeout }

/-- Settings with the fields that are left out at their defaults. -/
def Settings.without (s : Settings) (o : Omission) : Settings :=
  let base : Settings := {}
  { executablePath := o.pick "executablePath" base.executablePath s.executablePath
    config := o.pick "config" base.config s.config
    dialect := o.pick "dialect" base.dialect s.dialect
    excludeRules := o.pick "excludeRules" base.excludeRules s.excludeRules
    rules := o.pick "rules" base.rules s.rules
    ignoreLocalConfig := o.pick "ignoreLocalConfig" base.ignoreLocalConfig s.ignoreLocalConfig
    ignoreParsing := o.pick "ignoreParsing" base.ignoreParsing s.ignoreParsing
    workingDirectory := o.pick "workingDirectory" base.workingDirectory s.workingDirectory
    shell := o.pick "shell" base.shell s.shell
    suppressNotifications :=
      o.pick "suppressNotifications" base.suppressNotifications s.suppressNotifications
    environmentVariables :=
      o.pick "environmentVariables" base.environmentVariables s.environmentVariables
    environment :=
      o.pick "env" base.environment (s.environment.without (o.under (.member "env")))
    linter := o.pick "linter" base.linter (s.linter.without (o.under (.member "linter")))
    format := o.pick "format" base.format (s.format.without (o.under (.member "format")))
    experimental := o.pick "experimental" base.experimental
      (s.experimental.without (o.under (.member "experimental")))
    codeActions := o.pick "codeActions" base.codeActions
      (s.codeActions.without (o.under (.member "codeActions")))
    dbt := o.pick "dbtInterface" base.dbt (s.dbt.without (o.under (.member "dbtInterface"))) }

/-- The places of the fields of the settings and of their groups, which may all be left out. -/
def Settings.isOptional : List Json.Step → Bool
  | [.member _] => true
  | [.member "env", .member _] => true
  | [.member "linter", .member _] => true
  | [.member "format", .member _] => true
  | [.member "format", .member "languages", .item _, .member _] => true
  | [.member "experimental", .member _] => true
  | [.member "experimental", .member "format", .member _] => true
  | [.member "codeActions", .member _] => true
  | [.member "codeActions", .member "excludeRules", .member _] => true
  | [.member "dbtInterface", .member _] => true
  | _ => false

/-! ## Reading one setting -/

namespace Json.Amended

variable {o : Omission} {j : Json}

theorem text? {s : String} (h : Amended o (.str s) j) : Draft.text? j.draft = some s := by
  rw [h.draft_str, Draft.text?]

theorem bool? {b : Bool} (h : Amended o (.bool b) j) : Draft.bool? j.draft = some b := by
  rw [h.draft_bool, Draft.bool?]

theorem word64? {n : UInt64} (h : Amended o (.nat n.toNat) j) :
    Draft.word64? j.draft = some n := by
  have bound : (n.toNat : Int) ≤ 0xFFFFFFFFFFFFFFFF := by
    have := n.toNat_lt
    omega
  rw [h.draft_nat, Draft.word64?, Draft.int?, if_pos ⟨by omega, bound⟩]
  simp

theorem word16? {n : UInt16} (h : Amended o (.nat n.toNat) j) :
    Draft.word16? j.draft = some n := by
  have bound : (n.toNat : Int) ≤ 0xFFFF := by
    have := n.toNat_lt
    omega
  rw [h.draft_nat, Draft.word16?, Draft.int?, if_pos ⟨by omega, bound⟩]
  simp

theorem texts? {xs : List String} (h : Amended o (.strings xs) j) :
    Draft.texts? j.draft = some xs :=
  h.list?_same fun _ _ _ amended => amended.text?

theorem runTrigger? {t : RunTrigger} (h : Amended o (.str t.text) j) :
    Draft.oneOf? RunTrigger.names j.draft = some t := by
  rw [h.draft_str]
  cases t <;> rfl

theorem severity? {t : Severity} (h : Amended o (.str t.text) j) :
    Draft.oneOf? Severity.names j.draft = some t := by
  rw [h.draft_str]
  cases t <;> rfl

theorem dialect? {s : Option String} (h : Amended o (.ofOption .str s) j) :
    Draft.nullable? Draft.text? j.draft = some s := by
  cases s with
  | none =>
    cases h
    rfl
  | some s =>
    rw [h.draft_str]
    rfl

theorem shell? {s : ShellSetting} (h : Amended o s.json j) :
    ShellSetting.ofDraft? j.draft = some s := by
  cases s with
  | enabled on =>
    rw [h.draft_bool]
    rfl
  | program path =>
    rw [h.draft_str]
    rfl

theorem noqa? {s : NoqaSetting} (h : Amended o s.json j) :
    NoqaSetting.ofDraft? j.draft = some s := by
  cases s with
  | enabled on =>
    rw [h.draft_bool]
    rfl
  | disabledRules rules =>
    -- An array is no truth value.
    obtain ⟨js, rfl⟩ := h.exists_list
    have read := h.texts?
    rw [Json.draft] at read ⊢
    simp [NoqaSetting.ofDraft?, Draft.firstOf, Draft.bool?, read]

/-- The variables of an environment, each of which keeps its fields. -/
theorem environmentVariables? {xs : List EnvironmentVariable}
    (h : Amended o (.list EnvironmentVariable.json xs) j)
    (kept : ∀ i name, o [.item i, .member name] = false) :
    EnvironmentVariable.listOfDraft? j.draft = some xs := by
  refine h.list?_same fun i x j' amended => ?_
  obtain ⟨r, record, fields⟩ := amended.record? ["key", "value"] rfl (by decide)
  have key := fields.required 0 rfl (kept i "key") fun _ => text?
  have value := fields.required 1 rfl (kept i "value") fun _ => text?
  rw [EnvironmentVariable.ofDraft?, record]
  simp [key, value]

/-- The severities of rules, each of which keeps its fields. -/
theorem severities? {xs : List RuleSeverity} (h : Amended o (.list RuleSeverity.json xs) j)
    (kept : ∀ i name, o [.item i, .member name] = false) :
    Draft.list? RuleSeverity.ofDraft? j.draft = some xs := by
  refine h.list?_same fun i x j' amended => ?_
  obtain ⟨r, record, fields⟩ := amended.record? ["rule", "severity"] rfl (by decide)
  have rule := fields.required 0 rfl (kept i "rule") fun _ => text?
  have severity := fields.required 1 rfl (kept i "severity") fun _ => severity?
  rw [RuleSeverity.ofDraft?, record]
  simp [rule, severity]

/-! ## Reading a group of settings -/

theorem environment? {s : EnvironmentSettings} (h : Amended o s.json j)
    (kept : ∀ i name, o [.member "environmentVariables", .item i, .member name] = false) :
    EnvironmentSettings.ofDraft? j.draft = some (s.without o) := by
  obtain ⟨r, record, fields⟩ := h.record?
    ["environmentVariables", "customDotEnvFiles", "useDotEnvFile"] rfl (by decide)
  have set := fields.defaulted 0 rfl fun _ h => h.environmentVariables? kept
  have files := fields.defaulted 1 rfl fun _ => texts?
  have uses := fields.defaulted 2 rfl fun _ => bool?
  rw [EnvironmentSettings.ofDraft?, record]
  simp [set, files, uses, EnvironmentSettings.without]

theorem linter? {s : LinterSettings} (h : Amended o s.json j)
    (kept : ∀ i name, o [.member "diagnosticSeverityByRule", .item i, .member name] = false) :
    LinterSettings.ofDraft? j.draft = some (s.without o) := by
  obtain ⟨r, record, fields⟩ := h.record?
    ["arguments", "run", "delay", "diagnosticSeverity", "diagnosticSeverityByRule",
      "lintEntireProject", "languages"] rfl (by decide)
  have arguments := fields.defaulted 0 rfl fun _ => texts?
  have run := fields.defaulted 1 rfl fun _ => runTrigger?
  have delay := fields.defaulted 2 rfl fun _ => word64?
  have severity := fields.defaulted 3 rfl fun _ => severity?
  have severities := fields.defaulted 4 rfl fun _ h => h.severities? kept
  have project := fields.defaulted 5 rfl fun _ => bool?
  have languages := fields.defaulted 6 rfl fun _ => texts?
  rw [LinterSettings.ofDraft?, record]
  simp [arguments, run, delay, severity, severities, project, languages, LinterSettings.without]

theorem languageFormat? {s : LanguageFormat} (h : Amended o s.json j) :
    LanguageFormat.ofDraft? j.draft = some (s.without o) := by
  obtain ⟨r, record, fields⟩ := h.record?
    ["language", "contextMenuFormatOptions", "preserveLeadingWhitespace"] rfl (by decide)
  have language := fields.defaulted 0 rfl fun _ => text?
  have options := fields.defaulted 1 rfl fun _ => bool?
  have whitespace := fields.defaulted 2 rfl fun _ => bool?
  rw [LanguageFormat.ofDraft?, record]
  simp [language, options, whitespace, LanguageFormat.without]

theorem formattedLanguage? {s : FormattedLanguage} (h : Amended o s.json j) :
    FormattedLanguage.ofDraft? j.draft = some (s.without o) := by
  cases s with
  | name language =>
    rw [h.draft_str]
    rfl
  | detailed settings =>
    -- An object is no string.
    obtain ⟨ms, rfl⟩ := h.exists_object
    have read := languageFormat? h
    rw [Json.draft] at read ⊢
    simp [FormattedLanguage.ofDraft?, Draft.firstOf, Draft.text?, read, FormattedLanguage.without]

theorem format? {s : FormatSettings} (h : Amended o s.json j) :
    FormatSettings.ofDraft? j.draft = some (s.without o) := by
  obtain ⟨r, record, fields⟩ := h.record? ["enabled", "arguments", "languages"] rfl (by decide)
  have enabled := fields.defaulted 0 rfl fun _ => bool?
  have arguments := fields.defaulted 1 rfl fun _ => texts?
  have languages := fields.defaulted 2 rfl fun _ h =>
    h.list? fun _ _ _ _ => formattedLanguage?
  rw [FormatSettings.ofDraft?, record]
  simp [enabled, arguments, languages, FormatSettings.without]

/-- What `experimental` has in its member `format`. -/
theorem terminal? {on : Bool} (h : Amended o (.object [("executeInTerminal", .bool on)]) j) :
    (do
      let r ← j.draft.record? ["executeInTerminal"]
      return { executeInTerminal := ← r.defaulted "executeInTerminal" Draft.bool? false } :
      Option ExperimentalSettings) =
      some ⟨o.pick "executeInTerminal" false on⟩ := by
  obtain ⟨r, record, fields⟩ := h.record? ["executeInTerminal"] rfl (by decide)
  have terminal := fields.defaulted 0 rfl fun _ => bool?
  rw [record]
  simp [terminal]

theorem experimental? {s : ExperimentalSettings} (h : Amended o s.json j) :
    ExperimentalSettings.ofDraft? j.draft = some (s.without o) := by
  obtain ⟨r, record, fields⟩ := h.record? ["format"] rfl (by decide)
  rw [ExperimentalSettings.ofDraft?, record, Option.bind_eq_bind, Option.bind_some]
  refine Eq.trans (fields.defaulted 0 rfl (fun _ => terminal?) _) ?_
  simp only [ExperimentalSettings.without, Omission.pick]
  split <;> rfl

theorem exclusion? {s : ExclusionActions}
    (h : Amended o (.object [("workspace", .bool s.workspace), ("global", .bool s.global)]) j) :
    ExclusionActions.ofDraft? j.draft = some (s.without o) := by
  obtain ⟨r, record, fields⟩ := h.record? ["workspace", "global"] rfl (by decide)
  have workspace := fields.defaulted 0 rfl fun _ => bool?
  have overall := fields.defaulted 1 rfl fun _ => bool?
  rw [ExclusionActions.ofDraft?, record]
  simp [workspace, overall, ExclusionActions.without]

theorem codeActions? {s : CodeActionSettings} (h : Amended o s.json j) :
    CodeActionSettings.ofDraft? j.draft = some (s.without o) := by
  obtain ⟨r, record, fields⟩ := h.record? ["excludeRules", "noqa"] rfl (by decide)
  have exclusion := fields.defaulted 0 rfl fun _ => exclusion?
  have noqa := fields.defaulted 1 rfl fun _ => noqa?
  rw [CodeActionSettings.ofDraft?, record]
  simp [exclusion, noqa, CodeActionSettings.without]

theorem dbt? {s : DbtSettings} (h : Amended o s.json j) :
    DbtSettings.ofDraft? j.draft = some (s.without o) := by
  obtain ⟨r, record, fields⟩ := h.record? ["enabled", "host", "port", "timeoutMs"] rfl (by decide)
  have enabled := fields.defaulted 0 rfl fun _ => bool?
  have host := fields.defaulted 1 rfl fun _ => text?
  have port := fields.defaulted 2 rfl fun _ => word16?
  have timeout := fields.defaulted 3 rfl fun _ => word64?
  rw [DbtSettings.ofDraft?, record]
  simp [enabled, host, port, timeout, DbtSettings.without]

/-- The settings that a value amending what they write denotes, if only optional fields are left
out. -/
theorem settings? {s : Settings} (h : Amended o s.json j)
    (optional : ∀ steps, o steps = true → Settings.isOptional steps = true) :
    Settings.ofDraft? j.draft = some (s.without o) := by
  have kept (steps : List Step) (needed : Settings.isOptional steps = false) : o steps = false :=
    Bool.eq_false_iff.2 fun dropped => by
      rw [optional steps dropped] at needed
      cases needed
  obtain ⟨r, record, fields⟩ := h.record? Settings.fieldNames rfl (by decide)
  have executable := fields.defaulted 0 rfl fun _ => text?
  have config := fields.defaulted 1 rfl fun _ => text?
  have dialect := fields.defaulted 2 rfl fun _ => dialect?
  have excluded := fields.defaulted 3 rfl fun _ => texts?
  have rules := fields.defaulted 4 rfl fun _ => texts?
  have configs := fields.defaulted 5 rfl fun _ => bool?
  have parsing := fields.defaulted 6 rfl fun _ => bool?
  have directory := fields.defaulted 7 rfl fun _ => text?
  have shell := fields.defaulted 8 rfl fun _ => shell?
  have silent := fields.defaulted 9 rfl fun _ => bool?
  have set := fields.defaulted 10 rfl fun _ h => h.environmentVariables? fun i name =>
    kept _ rfl
  have environment := fields.defaulted 11 rfl fun _ h => h.environment? fun i name => kept _ rfl
  have linter := fields.defaulted 12 rfl fun _ h => h.linter? fun i name => kept _ rfl
  have format := fields.defaulted 13 rfl fun _ => format?
  have experimental := fields.defaulted 14 rfl fun _ => experimental?
  have actions := fields.defaulted 15 rfl fun _ => codeActions?
  have dbt := fields.defaulted 16 rfl fun _ => dbt?
  rw [Settings.ofDraft?, record, Option.bind_eq_bind, Option.bind_some]
  dsimp only
  rw [executable, config, dialect, excluded, rules, configs, parsing, directory, shell, silent, set,
    environment, linter, format, experimental, actions, dbt]
  rfl

end Json.Amended

/-! ## Settings as they are written -/

theorem FormattedLanguage.without_empty (l : FormattedLanguage) : l.without .empty = l := by
  cases l <;> rfl

theorem FormatSettings.without_empty (s : FormatSettings) : s.without .empty = s := by
  have each : FormattedLanguage.without .empty = id := funext FormattedLanguage.without_empty
  have same : (s.languages.mapIdx fun _ => FormattedLanguage.without .empty) = s.languages :=
    List.ext_getElem? fun i => by simp [each]
  obtain ⟨enabled, arguments, languages⟩ := s
  rw [FormatSettings.without]
  simp [same]

theorem Settings.without_empty (s : Settings) : s.without .empty = s := by
  rw [Settings.without]
  simp only [Omission.pick_empty, Omission.under_empty, FormatSettings.without_empty]
  rfl

theorem isMap_environmentVariables (xs : List EnvironmentVariable) :
    (list EnvironmentVariable.json xs).IsMap :=
  isMap_list fun x _ => isMap_object (by simp) (by simp)

theorem EnvironmentSettings.isMap_json (s : EnvironmentSettings) : s.json.IsMap :=
  isMap_object (by simp) (by simp [isMap_environmentVariables])

theorem LinterSettings.isMap_json (s : LinterSettings) : s.json.IsMap := by
  have severities : (list RuleSeverity.json s.diagnosticSeverityByRule).IsMap :=
    isMap_list fun x _ => isMap_object (by simp) (by simp)
  exact isMap_object (by simp) (by simp [severities, Json.nat])

theorem FormatSettings.isMap_json (s : FormatSettings) : s.json.IsMap := by
  have languages : (list FormattedLanguage.json s.languages).IsMap := by
    refine isMap_list fun l _ => ?_
    cases l with
    | name language => exact .str language
    | detailed settings =>
      exact isMap_object (by simp) (by simp)
  exact isMap_object (by simp) (by simp [languages])

theorem ExperimentalSettings.isMap_json (s : ExperimentalSettings) : s.json.IsMap := by
  have format : (object [("executeInTerminal", .bool s.executeInTerminal)]).IsMap :=
    isMap_object (by simp) (by simp)
  exact isMap_object (by simp) (by simp [format])

theorem CodeActionSettings.isMap_json (s : CodeActionSettings) : s.json.IsMap := by
  have exclusion : (object [("workspace", .bool s.excludeRules.workspace),
      ("global", .bool s.excludeRules.global)]).IsMap :=
    isMap_object (by simp) (by simp)
  have noqa : s.noqa.json.IsMap := by
    cases s.noqa with
    | enabled on => exact .bool on
    | disabledRules rules => exact isMap_strings rules
  exact isMap_object (by simp) (by simp [exclusion, noqa])

theorem DbtSettings.isMap_json (s : DbtSettings) : s.json.IsMap :=
  isMap_object (by simp) (by simp [Json.nat])

/-- The settings are written with every key once. -/
theorem Settings.isMap_json (s : Settings) : s.json.IsMap := by
  have dialect : (Json.ofOption .str s.dialect).IsMap := by
    cases s.dialect with
    | none => exact .null
    | some dialect => exact .str dialect
  have shell : s.shell.json.IsMap := by
    cases s.shell with
    | enabled on => exact .bool on
    | program path => exact .str path
  refine isMap_object (show Settings.fieldNames.Nodup by decide) ?_
  simp [dialect, shell, isMap_environmentVariables, s.environment.isMap_json, s.linter.isMap_json,
    s.format.isMap_json, s.experimental.isMap_json, s.codeActions.isMap_json, s.dbt.isMap_json]

/-! ## Settings as editors send them -/

namespace Settings

variable {s : Settings} {o : Omission} {j : Json}

/-- An amended value of settings is an object, alone read for itself and otherwise as the member
`sqlfluff`. -/
theorem ofJson?_eq (amended : Amended o s.json j) (bare : j.get? "sqlfluff" = none) :
    ofJson? j = ofDraft? j.draft := by
  obtain ⟨ms, rfl⟩ := amended.exists_object
  have own : payload (.obj ms) = .obj ms := by
    rw [payload, show ms.lookup "sqlfluff" = none from bare]
    rfl
  rw [ofJson?, own]
  rfl

theorem ofJson?_wrapped {members : List (String × Json)}
    (wrapped : members.lookup "sqlfluff" = some j) : ofJson? (.obj members) = ofDraft? j.draft := by
  have own : payload (.obj members) = j := by
    rw [payload, wrapped]
    rfl
  rw [ofJson?, own]
  rfl

/-- What is written is not a member of something else. -/
theorem get?_sqlfluff_without (s : Settings) (o : Omission) :
    (s.json.without o).get? "sqlfluff" = none := by
  have own : s.json.get? "sqlfluff" = none :=
    (get?_object fieldNames rfl (by decide) "sqlfluff").trans rfl
  rw [get?_without, own]
  cases o.drops "sqlfluff" <;> rfl

/-- An editor that sends a value, alone or as the member `sqlfluff` of an object, chooses the settings.
Alone the value must not look like such an object. -/
def IsSentAs (s : Settings) (j : Json) : Prop :=
  (j.get? "sqlfluff" = none → ofJson? j = some s) ∧
    ∀ members, members.lookup "sqlfluff" = some j → ofJson? (.obj members) = some s

/-- Settings are sent as any value that amends what they write; they are those that were written but for
the fields that are left out. -/
theorem isSentAs_of_amended (amended : Amended o s.json j)
    (optional : ∀ steps, o steps = true → isOptional steps = true) : (s.without o).IsSentAs j :=
  ⟨fun bare => (ofJson?_eq amended bare).trans (amended.settings? optional),
    fun _ wrapped => (ofJson?_wrapped wrapped).trans (amended.settings? optional)⟩

theorem isSentAs_of_extended (extended : Amended .empty s.json j) : s.IsSentAs j := by
  have sent := isSentAs_of_amended extended fun _ dropped => by cases dropped
  rwa [s.without_empty] at sent

/-- Settings that are written are read again, alone or as the member `sqlfluff` of an object, whatever is
added to them; so are those from which optional fields were left out, which then are at their
defaults. -/
theorem ofJson?_amended (s : Settings) (o : Omission)
    (optional : ∀ steps, o steps = true → isOptional steps = true) :
    ofJson? s.json = some s ∧ ofJson? (.object [("sqlfluff", s.json)]) = some s ∧
    ofJson? (s.json.without o) = some (s.without o) ∧
    (∀ j, Amended .empty s.json j → s.IsSentAs j) ∧
    ∀ j, Amended o s.json j → (s.without o).IsSentAs j := by
  have same := s.isMap_json.amended_without .empty
  have alone := s.get?_sqlfluff_without .empty
  rw [Json.without_empty] at same alone
  refine ⟨(isSentAs_of_extended same).1 alone, (isSentAs_of_extended same).2 _ rfl, ?_,
    fun _ => isSentAs_of_extended, fun _ amended => isSentAs_of_amended amended optional⟩
  exact (isSentAs_of_amended (s.isMap_json.amended_without o) optional).1
    (s.get?_sqlfluff_without o)

/-- Settings with a shell and a language of their own. -/
def chosenSettings : Settings where
  dialect := some "ansi"
  shell := .program "/bin/sh"
  linter := { run := .onSave, delay := 250 }
  format := { languages := [.name "sql", .detailed ⟨"jinja-sql", true, true⟩] }

/-- A setting, a group of settings, and a field in a group and in a language are left out. -/
def someOmission : Omission := fun steps =>
  [ [.member "dialect"], [.member "env"], [.member "linter", .member "run"],
    [.member "format", .member "languages", .item 1, .member "language"] ].contains steps

/-- What `chosenSettings` write without that, and with a member that is no setting. -/
def sentValue : Json := (chosenSettings.json.without someOmission).add "telemetry" (.bool true)

theorem ofJson?_amended_chosen :
    (∀ steps, someOmission steps = true → isOptional steps = true) ∧
    Amended someOmission chosenSettings.json sentValue ∧
    ofJson? (.obj [("sqlfluff", sentValue)]) = some { chosenSettings with
      dialect := none
      linter := { delay := 250 }
      format := { languages := [.name "sql", .detailed ⟨"", true, true⟩] } } := by
  have optional (steps : List Step) (dropped : someOmission steps = true) :
      isOptional steps = true := by
    simp only [someOmission, List.contains_eq_mem, decide_eq_true_eq, List.mem_cons,
      List.not_mem_nil, or_false] at dropped
    obtain rfl | rfl | rfl | rfl := dropped <;> rfl
  have unknown : chosenSettings.json.get? "telemetry" = none :=
    (get?_object fieldNames rfl (by decide) "telemetry").trans rfl
  have amended : Amended someOmission chosenSettings.json sentValue :=
    (chosenSettings.isMap_json.amended_without someOmission).add _ unknown
      (by rw [get?_without, unknown]; rfl)
  obtain ⟨-, -, -, -, sent⟩ := ofJson?_amended chosenSettings someOmission optional
  exact ⟨optional, amended, (sent sentValue amended).2 _ rfl⟩

end Settings

end SqlLint
