/-!
# Settings

`Settings` is what an editor lets its user choose: which program checks the SQL, where and with
which arguments it runs, when documents are linted, how diagnostics are shown, and whether a dbt
server does the work.  Every field has a default.
-/

namespace SqlLint

/-- When documents are linted. -/
inductive RunTrigger where
  | onType
  | onSave
  | off
  deriving DecidableEq, Repr, Inhabited

/-- How grave a diagnostic is. -/
inductive Severity where
  | error
  | warning
  | hint
  | information
  deriving DecidableEq, Repr, Inhabited

/-- The number that editors use for a severity. -/
def Severity.code : Severity → Int
  | .error => 1
  | .warning => 2
  | .information => 3
  | .hint => 4

/-- Whether commands run in a shell: in the system's one or not, or in the one named. -/
inductive ShellSetting where
  | enabled (on : Bool)
  | program (path : String)
  deriving DecidableEq, Repr

/-- Whether quick fixes silence rules by comments: for all rules or none, or for all but some. -/
inductive NoqaSetting where
  | enabled (on : Bool)
  | disabledRules (rules : List String)
  deriving DecidableEq, Repr

/-- A variable of the environment. -/
structure EnvironmentVariable where
  key : String
  value : String
  deriving DecidableEq, Repr

/-- The environment of the tool. -/
structure EnvironmentSettings where
  environmentVariables : List EnvironmentVariable := []
  customDotEnvFiles : List String := []
  useDotEnvFile : Bool := false
  deriving DecidableEq, Repr

/-- The severity of the diagnostics of a rule. -/
structure RuleSeverity where
  rule : String
  severity : Severity
  deriving DecidableEq, Repr

/-- The languages that hold SQL. -/
def sqlLanguages : List String := ["sql", "jinja-sql", "sql-bigquery"]

/-- When and how documents are linted; `delay` is in milliseconds. -/
structure LinterSettings where
  arguments : List String := []
  run : RunTrigger := .onType
  delay : UInt64 := 100
  diagnosticSeverity : Severity := .error
  diagnosticSeverityByRule : List RuleSeverity := []
  lintEntireProject : Bool := false
  languages : List String := sqlLanguages
  deriving DecidableEq, Repr

/-- How the documents of one language are formatted. -/
structure LanguageFormat where
  language : String := ""
  contextMenuFormatOptions : Bool := false
  preserveLeadingWhitespace : Bool := false
  deriving DecidableEq, Repr

/-- A language that is formatted, by its name alone or with settings of its own. -/
inductive FormattedLanguage where
  | name (language : String)
  | detailed (settings : LanguageFormat)
  deriving DecidableEq, Repr

/-- The name of a language that is formatted. -/
def FormattedLanguage.language : FormattedLanguage → String
  | .name language => language
  | .detailed settings => settings.language

/-- Whether and how documents are formatted. -/
structure FormatSettings where
  enabled : Bool := true
  arguments : List String := []
  languages : List FormattedLanguage := sqlLanguages.map .name
  deriving DecidableEq, Repr

/-- Whether files are fixed on disk instead of in the editor. -/
structure ExperimentalSettings where
  executeInTerminal : Bool := false
  deriving DecidableEq, Repr

/-- Which quick fixes exclude rules. -/
structure ExclusionActions where
  workspace : Bool := true
  «global» : Bool := true
  deriving DecidableEq, Repr

/-- The rules that comments do not silence unless the user says so. -/
def unsilencedRules : List String :=
  [ "L015", "L017", "L019", "L030", "L032", "L034", "L035", "L037", "L038", "L040", "L041", "L042",
    "L043", "L044", "L054", "L058", "L063", "L064" ]

/-- Which quick fixes are offered. -/
structure CodeActionSettings where
  excludeRules : ExclusionActions := {}
  noqa : NoqaSetting := .disabledRules unsilencedRules
  deriving DecidableEq, Repr

/-- The dbt server that lints and formats in place of the tool; `timeout` is in milliseconds. -/
structure DbtSettings where
  enabled : Bool := false
  host : String := "localhost"
  port : UInt16 := 8581
  timeout : UInt64 := 25000
  deriving DecidableEq, Repr

/-- What the user of an editor chooses. -/
structure Settings where
  executablePath : String := "sqlfluff"
  config : String := ""
  dialect : Option String := none
  excludeRules : List String := []
  rules : List String := []
  ignoreLocalConfig : Bool := false
  ignoreParsing : Bool := false
  workingDirectory : String := ""
  shell : ShellSetting := .enabled false
  suppressNotifications : Bool := false
  environmentVariables : List EnvironmentVariable := []
  environment : EnvironmentSettings := {}
  linter : LinterSettings := {}
  format : FormatSettings := {}
  experimental : ExperimentalSettings := {}
  codeActions : CodeActionSettings := {}
  dbt : DbtSettings := {}
  deriving DecidableEq, Repr

instance : Inhabited Settings := ⟨{}⟩

end SqlLint
