import SqlLint.DotEnv.Basic
import SqlLint.Json.Basic
import SqlLint.Machine.Basic
import SqlLint.Settings.Variables

/-!
# The environment of the tool

`Config.overlay` lists the variables that the tool is given besides the environment: those of the
settings in their order, and after them those of the environment files, sorted by name, that
neither the environment nor the settings define.  Of two definitions in files the first one counts.
-/

namespace SqlLint

open Text

/-- The paths of the environment files, for a tool that runs in a directory. -/
def Config.environmentFiles (c : Config) (dir : Option String) : List String :=
  let s := c.settings.environment
  let own := if s.useDotEnvFile then dir.toList.map fun d => Path.join d ".env" else []
  own ++ s.customDotEnvFiles.map fun file =>
    let path := c.vars.interpolate file
    match dir with
    | some d => Path.join d path
    | none => path

/-- The well-formed definitions of the environment files, in their order. -/
def Machine.definitions (m : Machine) (paths : List String) : List (String × String) :=
  paths.flatMap fun path =>
    match m.files.read m.directory path with
    | .ok bytes => (DotEnv.entries m.environment bytes).filterMap id
    | .error _ => []

/-- The variables that the settings define. -/
def Settings.ownVariables (s : Settings) : List (String × String) :=
  (s.environmentVariables ++ s.environment.environmentVariables).map fun v => (v.key, v.value)

/-- The first definition of each name, sorted by name. -/
def firstDefinitions (definitions : List (String × String)) : List (String × String) :=
  Members.ofList definitions.reverse

/-- The variables that the tool is given besides the environment. -/
def Config.overlay (c : Config) (m : Machine) (dir : Option String) : List (String × String) :=
  let own := c.settings.ownVariables
  own ++ (firstDefinitions (m.definitions (c.environmentFiles dir))).filter fun (name, _) =>
    (m.valueOf? name).isNone && ! own.any (·.1 = name)

end SqlLint
