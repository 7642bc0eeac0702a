import SqlLint.Path
import SqlLint.Text.Utf8

/-!
# Files

`Files` is a tree of directories and files, kept as the list of its nodes by their places.  A
`Place` is the list of names that leads there from the root.  `Files.locate` follows a path,
`Files.read`, `Files.write` and `Files.remove` work on files, and `Files.under` lists the files
below a directory.  What the operating system refuses is an `OsError`.
-/

namespace SqlLint

/-- Why the operating system refuses. -/
inductive OsError where
  | notFound
  | denied
  | notDirectory
  | isDirectory
  | nameTooLong
  | nulInCommand
  | nulInPath
  | notText
  | unsupported
  deriving DecidableEq, Repr, Inhabited

/-- The words of the operating system. -/
def OsError.message : OsError → String
  | .notFound => "No such file or directory (os error 2)"
  | .denied => "Permission denied (os error 13)"
  | .notDirectory => "Not a directory (os error 20)"
  | .isDirectory => "Is a directory (os error 21)"
  | .nameTooLong => "File name too long (os error 36)"
  | .nulInCommand => "nul byte found in provided data"
  | .nulInPath => "file name contained an unexpected NUL byte"
  | .notText => "stream did not contain valid UTF-8"
  | .unsupported => "operation not supported on this platform"

/-- The names that lead from the root to a node. -/
abbrev Place := List String

/-- What stands at a place. -/
inductive Node where
  | directory
  | file (bytes : List UInt8) (executable : Bool)
  deriving DecidableEq, Repr, Inhabited

/-- The nodes of a tree by their places; the root is always a directory. -/
abbrev Files := List (Place × Node)

namespace Files

/-- What stands at a place. -/
def node? (fs : Files) (place : Place) : Option Node :=
  if place = [] then some .directory else fs.lookup place

/-- The place that a component leads to. -/
def next (place : Place) : Component → Place
  | .root => []
  | .here => place
  | .up => place.dropLast
  | .name s => place ++ [s]

/-- The longest name and the longest path, in bytes. -/
def maxName : Nat := 255
def maxPath : Nat := 4095

/-- The place that components lead to; all but the last have to be directories, and no name may be
too long. -/
def walk (fs : Files) (place : Place) : List Component → Except OsError Place
  | [] => .ok place
  | c :: cs =>
    match fs.node? place with
    | none => .error .notFound
    | some (.file _ _) => .error .notDirectory
    | some .directory =>
      if maxName < c.text.utf8ByteSize then .error .nameTooLong else walk fs (next place c) cs

/-- The path can only name a directory. -/
def namesDirectory (path : String) : Bool :=
  match path.toList.reverse with
  | '/' :: _ => true
  | '.' :: '/' :: _ => true
  | _ => false

/-- The place that a path of any length names, seen from a directory. -/
def resolve (fs : Files) (dir : Place) (path : String) : Except OsError Place := do
  if path.toList.contains '\x00' then throw .nulInPath
  if path.isEmpty then throw .notFound
  let place ← fs.walk (if Path.isAbsolute path then [] else dir) (Path.components path)
  match fs.node? place with
  | some (.file _ _) => if namesDirectory path then throw .notDirectory else return place
  | _ => return place

/-- The place that a path names, seen from a directory. -/
def locate (fs : Files) (dir : Place) (path : String) : Except OsError Place :=
  if maxPath < path.utf8ByteSize ∧ ¬ path.toList.contains '\x00' then .error .nameTooLong
  else fs.resolve dir path

/-- What a path names. -/
def at? (fs : Files) (dir : Place) (path : String) : Option Node :=
  match fs.locate dir path with
  | .ok place => fs.node? place
  | .error _ => none

/-- The path names something. -/
def has (fs : Files) (dir : Place) (path : String) : Bool := (fs.at? dir path).isSome

/-- The path names a directory. -/
def isDirectory (fs : Files) (dir : Place) (path : String) : Bool :=
  fs.at? dir path = some .directory

/-- The path names a program. -/
def isProgram (fs : Files) (dir : Place) (path : String) : Bool :=
  match fs.at? dir path with
  | some (.file _ executable) => executable
  | _ => false

/-- The tree with a node put at a place. -/
def put (fs : Files) (place : Place) (node : Node) : Files :=
  (fs.filter (·.1 ≠ place)) ++ [(place, node)]

/-- The tree with a directory at a place and at every place on the way there. -/
def makeDirectories (fs : Files) (place : Place) : Files :=
  (List.range (place.length + 1)).foldl (fun fs n =>
    if (fs.node? (place.take n)).isSome then fs else fs.put (place.take n) .directory) fs

/-- The bytes of a file. -/
def read (fs : Files) (dir : Place) (path : String) : Except OsError (List UInt8) := do
  match fs.node? (← fs.locate dir path) with
  | none => throw .notFound
  | some .directory => throw .isDirectory
  | some (.file bytes _) => return bytes

/-- The text of a file. -/
def readText (fs : Files) (dir : Place) (path : String) : Except OsError String := do
  match Text.Utf8.strict? (← fs.read dir path) with
  | some text => return text
  | none => throw .notText

/-- The tree with new bytes in a file, which is made if it is missing. -/
def write (fs : Files) (dir : Place) (path : String) (bytes : List UInt8) :
    Except OsError Files := do
  let place ← fs.locate dir path
  match fs.node? place with
  | some .directory => throw .isDirectory
  | some (.file _ executable) => return fs.put place (.file bytes executable)
  | none =>
    if namesDirectory path then throw .isDirectory else return fs.put place (.file bytes false)

/-- The tree without a file. -/
def remove (fs : Files) (dir : Place) (path : String) : Files :=
  match fs.locate dir path with
  | .ok place => fs.filter (·.1 ≠ place)
  | .error _ => fs

/-- The files below a place, with the names that lead to them from there. -/
def under (fs : Files) (place : Place) : List Place :=
  fs.filterMap fun (p, node) =>
    match node with
    | .directory => none
    | .file _ _ =>
      if place.isPrefixOf p ∧ place.length < p.length then some (p.drop place.length) else none

end Files

end SqlLint
