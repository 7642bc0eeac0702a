import SqlLint.Path
import SqlLint.Settings.Basic

/-!
# Variables in settings

Paths among the settings may hold placeholders such as `${workspaceFolder}`.  `Variables` holds
their values and `Variables.interpolate` replaces those that have one.  `Config` is the settings
together with the variables, and tells where the tool runs.
-/

namespace SqlLint

open Text

/-- The values of the placeholders. -/
structure Variables where
  userHome : Option String := none
  workspaceFolder : Option String := none
  workspaceFolderBasename : Option String := none
  execPath : Option String := none
  deriving DecidableEq, Repr, Inhabited

namespace Variables

/-- The value of a placeholder. -/
def value? (v : Variables) (name : String) : Option String :=
  if name = "userHome" then v.userHome
  else if name = "workspaceFolder" then v.workspaceFolder
  else if name = "workspaceFolderBasename" then v.workspaceFolderBasename
  else if name = "execPath" then v.execPath
  else none

/-- The text at a placeholder: its value, or the placeholder itself if it has none. -/
def filled (v : Variables) (name : List Char) : List Char :=
  match v.value? (String.ofList name) with
  | some value => value.toList
  | none => '$' :: '\x7b' :: name ++ ['\x7d']

/-- Where a reader of placeholders is: in plain text, after a dollar sign, or in a placeholder, of
which it has read the characters given, the last one first. -/
inductive Place where
  | plain
  | dollar
  | inside (read : List Char)

/-- The text with the placeholders filled in.  A placeholder reaches from a dollar sign with a brace
to the next closing brace; one that is not closed stands for itself. -/
def fill (v : Variables) : Place → List Char → List Char
  | .plain, [] => []
  | .dollar, [] => ['$']
  | .inside read, [] => '$' :: '\x7b' :: read.reverse
  | .plain, c :: cs => if c = '$' then fill v .dollar cs else c :: fill v .plain cs
  | .dollar, c :: cs =>
    if c = '\x7b' then fill v (.inside []) cs
    else if c = '$' then '$' :: fill v .dollar cs
    else '$' :: c :: fill v .plain cs
  | .inside read, c :: cs =>
    if c = '\x7d' then v.filled read.reverse ++ fill v .plain cs
    else fill v (.inside (c :: read)) cs

/-- The text with the placeholders that have a value replaced by it. -/
def interpolate (v : Variables) (s : String) : String := String.ofList (v.fill .plain s.toList)

/-- The variables of a workspace, given the home directory of the user. -/
def ofWorkspace (home : Option String) (root : Option String) : Variables :=
  { userHome := home
    workspaceFolder := root.map Path.forwardSlashes
    workspaceFolderBasename := root.bind Path.fileName? }

end Variables

/-- Settings and the variables that fill their placeholders. -/
structure Config where
  settings : Settings := {}
  vars : Variables := {}
  deriving DecidableEq, Repr, Inhabited

namespace Config

/-- The program that checks the SQL. -/
def executable (c : Config) : String := c.vars.interpolate c.settings.executablePath

/-- The configuration file of the tool, empty if there is none. -/
def configFile (c : Config) : String := c.vars.interpolate c.settings.config

/-- The directory that the settings name, or else the folder of the workspace. -/
def chosenDirectory? (c : Config) : Option String :=
  let dir := c.vars.interpolate c.settings.workingDirectory
  if dir.isEmpty then c.vars.workspaceFolder else some dir

/-- The directory in which the tool runs. -/
def workingDirectory? (c : Config) : Option String := c.chosenDirectory?.map Path.forwardSlashes

/-- The directory still holds a placeholder, so that nothing can run in it. -/
def hasOpenPlaceholder (c : Config) : Bool :=
  c.workingDirectory?.any (holds "$\x7b")

end Config

end SqlLint
