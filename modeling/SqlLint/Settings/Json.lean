import SqlLint.Json.Record
import SqlLint.Settings.Basic

/-!
# Settings in JSON

Editors send settings as an object in which every field may be left out, alone or as the member
`sqlfluff` of another object.  `Settings.ofJson?` reads them and `Settings.json` writes every field.
-/

namespace SqlLint

/-! ## Names -/

/-- The names of the moments at which documents are linted. -/
def RunTrigger.names : List (String × RunTrigger) :=
  [("onType", .onType), ("onSave", .onSave), ("off", .off)]

/-- The names of severities. -/
def Severity.names : List (String × Severity) :=
  [("error", .error), ("warning", .warning), ("hint", .hint), ("information", .information)]

/-- The name of the moment at which documents are linted. -/
def RunTrigger.text : RunTrigger → String
  | .onType => "onType"
  | .onSave => "onSave"
  | .off => "off"

/-- The name of a severity. -/
def Severity.text : Severity → String
  | .error => "error"
  | .warning => "warning"
  | .hint => "hint"
  | .information => "information"

/-! ## Reading -/

/-- A list of strings. -/
def Draft.texts? : Draft → Option (List String) := Draft.list? Draft.text?

/-- Whether commands run in a shell. -/
def ShellSetting.ofDraft? : Draft → Option ShellSetting :=
  Draft.firstOf [fun d => d.bool?.map .enabled, fun d => d.text?.map .program]

/-- Whether quick fixes silence rules. -/
def NoqaSetting.ofDraft? : Draft → Option NoqaSetting :=
  Draft.firstOf [fun d => d.bool?.map .enabled, fun d => d.texts?.map .disabledRules]

/-- A variable of the environment. -/
def EnvironmentVariable.ofDraft? (d : Draft) : Option EnvironmentVariable := do
  let r ← d.record? ["key", "value"]
  return ⟨← r.required "key" Draft.text?, ← r.required "value" Draft.text?⟩

/-- The variables of an environment. -/
def EnvironmentVariable.listOfDraft? : Draft → Option (List EnvironmentVariable) :=
  Draft.list? EnvironmentVariable.ofDraft?

/-- The environment of the tool. -/
def EnvironmentSettings.ofDraft? (d : Draft) : Option EnvironmentSettings := do
  let r ← d.record? ["environmentVariables", "customDotEnvFiles", "useDotEnvFile"]
  return {
    environmentVariables :=
      ← r.defaulted "environmentVariables" EnvironmentVariable.listOfDraft? [],
    customDotEnvFiles := ← r.defaulted "customDotEnvFiles" Draft.texts? [],
    useDotEnvFile := ← r.defaulted "useDotEnvFile" Draft.bool? false }

/-- The severity of the diagnostics of a rule. -/
def RuleSeverity.ofDraft? (d : Draft) : Option RuleSeverity := do
  let r ← d.record? ["rule", "severity"]
  return ⟨← r.required "rule" Draft.text?, ← r.required "severity" (Draft.oneOf? Severity.names)⟩

/-- When and how documents are linted. -/
def LinterSettings.ofDraft? (d : Draft) : Option LinterSettings := do
  let r ← d.record? ["arguments", "run", "delay", "diagnosticSeverity", "diagnosticSeverityByRule",
    "lintEntireProject", "languages"]
  let base : LinterSettings := {}
  return {
    arguments := ← r.defaulted "arguments" Draft.texts? base.arguments,
    run := ← r.defaulted "run" (Draft.oneOf? RunTrigger.names) base.run,
    delay := ← r.defaulted "delay" Draft.word64? base.delay,
    diagnosticSeverity :=
      ← r.defaulted "diagnosticSeverity" (Draft.oneOf? Severity.names) base.diagnosticSeverity,
    diagnosticSeverityByRule :=
      ← r.defaulted "diagnosticSeverityByRule" (Draft.list? RuleSeverity.ofDraft?)
        base.diagnosticSeverityByRule,
    lintEntireProject := ← r.defaulted "lintEntireProject" Draft.bool? base.lintEntireProject,
    languages := ← r.defaulted "languages" Draft.texts? base.languages }

/-- How the documents of one language are formatted. -/
def LanguageFormat.ofDraft? (d : Draft) : Option LanguageFormat := do
  let r ← d.record? ["language", "contextMenuFormatOptions", "preserveLeadingWhitespace"]
  return {
    language := ← r.defaulted "language" Draft.text? "",
    contextMenuFormatOptions := ← r.defaulted "contextMenuFormatOptions" Draft.bool? false,
    preserveLeadingWhitespace := ← r.defaulted "preserveLeadingWhitespace" Draft.bool? false }

/-- A language that is formatted. -/
def FormattedLanguage.ofDraft? : Draft → Option FormattedLanguage :=
  Draft.firstOf [fun d => d.text?.map .name, fun d => (LanguageFormat.ofDraft? d).map .detailed]

/-- Whether and how documents are formatted. -/
def FormatSettings.ofDraft? (d : Draft) : Option FormatSettings := do
  let r ← d.record? ["enabled", "arguments", "languages"]
  let base : FormatSettings := {}
  return {
    enabled := ← r.defaulted "enabled" Draft.bool? base.enabled,
    arguments := ← r.defaulted "arguments" Draft.texts? base.arguments,
    languages := ← r.defaulted "languages" (Draft.list? FormattedLanguage.ofDraft?) base.languages }

/-- Whether files are fixed on disk. -/
def ExperimentalSettings.ofDraft? (d : Draft) : Option ExperimentalSettings := do
  let r ← d.record? ["format"]
  r.defaulted "format" (fun d => do
    let r ← d.record? ["executeInTerminal"]
    return { executeInTerminal := ← r.defaulted "executeInTerminal" Draft.bool? false }) {}

/-- Which quick fixes exclude rules. -/
def ExclusionActions.ofDraft? (d : Draft) : Option ExclusionActions := do
  let r ← d.record? ["workspace", "global"]
  return {
    workspace := ← r.defaulted "workspace" Draft.bool? true,
    «global» := ← r.defaulted "global" Draft.bool? true }

/-- Which quick fixes are offered. -/
def CodeActionSettings.ofDraft? (d : Draft) : Option CodeActionSettings := do
  let r ← d.record? ["excludeRules", "noqa"]
  let base : CodeActionSettings := {}
  return {
    excludeRules := ← r.defaulted "excludeRules" ExclusionActions.ofDraft? base.excludeRules,
    noqa := ← r.defaulted "noqa" NoqaSetting.ofDraft? base.noqa }

/-- The dbt server. -/
def DbtSettings.ofDraft? (d : Draft) : Option DbtSettings := do
  let r ← d.record? ["enabled", "host", "port", "timeoutMs"]
  let base : DbtSettings := {}
  return {
    enabled := ← r.defaulted "enabled" Draft.bool? base.enabled,
    host := ← r.defaulted "host" Draft.text? base.host,
    port := ← r.defaulted "port" Draft.word16? base.port,
    timeout := ← r.defaulted "timeoutMs" Draft.word64? base.timeout }

/-- The names of the settings, in their order. -/
def Settings.fieldNames : List String :=
  [ "executablePath", "config", "dialect", "excludeRules", "rules", "ignoreLocalConfig",
    "ignoreParsing", "workingDirectory", "shell", "suppressNotifications", "environmentVariables",
    "env", "linter", "format", "experimental", "codeActions", "dbtInterface" ]

/-- The settings that a draft denotes. -/
def Settings.ofDraft? (d : Draft) : Option Settings := do
  let r ← d.record? Settings.fieldNames
  let base : Settings := {}
  return {
    executablePath := ← r.defaulted "executablePath" Draft.text? base.executablePath,
    config := ← r.defaulted "config" Draft.text? base.config,
    dialect := ← r.defaulted "dialect" (Draft.nullable? Draft.text?) base.dialect,
    excludeRules := ← r.defaulted "excludeRules" Draft.texts? base.excludeRules,
    rules := ← r.defaulted "rules" Draft.texts? base.rules,
    ignoreLocalConfig := ← r.defaulted "ignoreLocalConfig" Draft.bool? base.ignoreLocalConfig,
    ignoreParsing := ← r.defaulted "ignoreParsing" Draft.bool? base.ignoreParsing,
    workingDirectory := ← r.defaulted "workingDirectory" Draft.text? base.workingDirectory,
    shell := ← r.defaulted "shell" ShellSetting.ofDraft? base.shell,
    suppressNotifications :=
      ← r.defaulted "suppressNotifications" Draft.bool? base.suppressNotifications,
    environmentVariables :=
      ← r.defaulted "environmentVariables" EnvironmentVariable.listOfDraft?
        base.environmentVariables,
    environment := ← r.defaulted "env" EnvironmentSettings.ofDraft? base.environment,
    linter := ← r.defaulted "linter" LinterSettings.ofDraft? base.linter,
    format := ← r.defaulted "format" FormatSettings.ofDraft? base.format,
    experimental := ← r.defaulted "experimental" ExperimentalSettings.ofDraft? base.experimental,
    codeActions := ← r.defaulted "codeActions" CodeActionSettings.ofDraft? base.codeActions,
    dbt := ← r.defaulted "dbtInterface" DbtSettings.ofDraft? base.dbt }

/-- The part of what an editor sends that holds the settings. -/
def Settings.payload (j : Json) : Json :=
  match j with
  | .obj members => (members.lookup "sqlfluff").getD j
  | _ => j

/-- The settings that an editor sends; null stands for the defaults. -/
def Settings.ofJson? (j : Json) : Option Settings :=
  if j.isNull then some {} else Settings.ofDraft? (Settings.payload j).draft

/-! ## Writing -/

/-- Whether commands run in a shell, in JSON. -/
def ShellSetting.json : ShellSetting → Json
  | .enabled on => .bool on
  | .program path => .str path

/-- Whether quick fixes silence rules, in JSON. -/
def NoqaSetting.json : NoqaSetting → Json
  | .enabled on => .bool on
  | .disabledRules rules => .strings rules

/-- A variable of the environment in JSON. -/
def EnvironmentVariable.json (v : EnvironmentVariable) : Json :=
  .object [("key", .str v.key), ("value", .str v.value)]

/-- The environment of the tool in JSON. -/
def EnvironmentSettings.json (s : EnvironmentSettings) : Json :=
  .object [
    ("environmentVariables", .list EnvironmentVariable.json s.environmentVariables),
    ("customDotEnvFiles", .strings s.customDotEnvFiles),
    ("useDotEnvFile", .bool s.useDotEnvFile) ]

/-- The severity of the diagnostics of a rule, in JSON. -/
def RuleSeverity.json (s : RuleSeverity) : Json :=
  .object [("rule", .str s.rule), ("severity", .str s.severity.text)]

/-- When and how documents are linted, in JSON. -/
def LinterSettings.json (s : LinterSettings) : Json :=
  .object [
    ("arguments", .strings s.arguments),
    ("run", .str s.run.text),
    ("delay", .nat s.delay.toNat),
    ("diagnosticSeverity", .str s.diagnosticSeverity.text),
    ("diagnosticSeverityByRule", .list RuleSeverity.json s.diagnosticSeverityByRule),
    ("lintEntireProject", .bool s.lintEntireProject),
    ("languages", .strings s.languages) ]

/-- How the documents of one language are formatted, in JSON. -/
def LanguageFormat.json (s : LanguageFormat) : Json :=
  .object [
    ("language", .str s.language),
    ("contextMenuFormatOptions", .bool s.contextMenuFormatOptions),
    ("preserveLeadingWhitespace", .bool s.preserveLeadingWhitespace) ]

/-- A language that is formatted, in JSON. -/
def FormattedLanguage.json : FormattedLanguage → Json
  | .name language => .str language
  | .detailed settings => settings.json

/-- Whether and how documents are formatted, in JSON. -/
def FormatSettings.json (s : FormatSettings) : Json :=
  .object [
    ("enabled", .bool s.enabled),
    ("arguments", .strings s.arguments),
    ("languages", .list FormattedLanguage.json s.languages) ]

/-- Whether files are fixed on disk, in JSON. -/
def ExperimentalSettings.json (s : ExperimentalSettings) : Json :=
  .object [("format", .object [("executeInTerminal", .bool s.executeInTerminal)])]

/-- Which quick fixes are offered, in JSON. -/
def CodeActionSettings.json (s : CodeActionSettings) : Json :=
  .object [
    ("excludeRules", .object [
      ("workspace", .bool s.excludeRules.workspace), ("global", .bool s.excludeRules.global)]),
    ("noqa", s.noqa.json) ]

/-- The dbt server in JSON. -/
def DbtSettings.json (s : DbtSettings) : Json :=
  .object [
    ("enabled", .bool s.enabled),
    ("host", .str s.host),
    ("port", .nat s.port.toNat),
    ("timeoutMs", .nat s.timeout.toNat) ]

/-- Settings in JSON. -/
def Settings.json (s : Settings) : Json :=
  .object [
    ("executablePath", .str s.executablePath),
    ("config", .str s.config),
    ("dialect", .ofOption .str s.dialect),
    ("excludeRules", .strings s.excludeRules),
    ("rules", .strings s.rules),
    ("ignoreLocalConfig", .bool s.ignoreLocalConfig),
    ("ignoreParsing", .bool s.ignoreParsing),
    ("workingDirectory", .str s.workingDirectory),
    ("shell", s.shell.json),
    ("suppressNotifications", .bool s.suppressNotifications),
    ("environmentVariables", .list EnvironmentVariable.json s.environmentVariables),
    ("env", s.environment.json),
    ("linter", s.linter.json),
    ("format", s.format.json),
    ("experimental", s.experimental.json),
    ("codeActions", s.codeActions.json),
    ("dbtInterface", s.dbt.json) ]

end SqlLint
