import SqlLint.Machine.Files

/-!
# The SQL files of a project

`Files.sqlFiles` lists the files below a directory that hold SQL, as their names tell.  Files and
directories whose names begin with a dot are not left out.
-/

namespace SqlLint

/-- The endings of the names of SQL files. -/
def sqlEndings : List String := [".sql", ".sql-bigquery", ".jinja-sql"]

/-- The name is that of an SQL file. -/
def isSqlName (name : String) : Bool :=
  sqlEndings.any fun ending => ending.toList.isSuffixOf name.toList

/-- The path of a directory as the paths below it begin: without idle slashes, and without the
dots that it begins with. -/
def stem (root : String) : List String :=
  let parts := ((Text.pieces (· == '/') root.toList).filter (· ≠ [])).map String.ofList
  if Path.isAbsolute root then "" :: parts else parts.dropWhile (· = ".")

/-- The names are in order, from the first on. -/
def inOrder (names others : List String) : Bool := ! List.lex others names fun a b => decide (a < b)

namespace Files

/-- The paths of the SQL files below a directory, in order. -/
def sqlFiles (fs : Files) (dir : Place) (root : String) : List String :=
  match fs.locate dir root with
  | .error _ => []
  | .ok place =>
    let found := (fs.under place).filter fun names => names.getLast?.any isSqlName
    (found.mergeSort inOrder).map fun names => Text.joinStrings "/" (stem root ++ names)

end Files

end SqlLint
