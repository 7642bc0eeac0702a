import SqlLint.Machine.Basic

/-!
# Finding the tool

`Machine.findTool?` is the path of the program that a setting names: an absolute path if something
is there, a path seen from the directory where the tool runs, or a program on the search path.
-/

namespace SqlLint

open Text

/-- The directories that are searched for programs. -/
def Machine.searchPath (m : Machine) : List String :=
  match m.valueOf? "PATH" with
  | none => []
  | some path => (pieces (· == ':') path.toList).map String.ofList

/-- The path of a program on the search path. -/
def Machine.onSearchPath? (m : Machine) (name : String) : Option String :=
  if name.isEmpty then none
  else if name.toList.contains '/' then
    let path := Path.join ("/" ++ joinStrings "/" m.directory) name
    if m.files.isProgram m.directory name then some path else none
  else (m.searchPath.map fun dir => Path.join dir name).find? (m.files.isProgram m.directory)

/-- The path seen from a directory, if it names more than a file there. -/
def inDirectory? (dir : Option String) (name : String) : Option String := do
  let dir ← dir
  if name.toList.contains '/' ∨ name.toList.contains '\\' then some (Path.join dir name) else none

/-- The path of the program that a setting names, for a tool that runs in a directory. -/
def Machine.findTool? (m : Machine) (name : String) (dir : Option String) : Option String :=
  if Path.isAbsolute name ∧ m.files.has m.directory name then some name
  else match (inDirectory? dir name).filter (m.files.has m.directory) with
    | some path => some path
    | none => m.onSearchPath? name

/-- What is said of a program that was not found. -/
def notFoundMessage (name : String) : String :=
  name ++ " not found (cannot find binary path); set executablePath or add it to PATH"

end SqlLint
