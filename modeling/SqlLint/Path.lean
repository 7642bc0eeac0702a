import SqlLint.Text.Lines

/-!
# File paths

A path is a string; what it names is its list of `Component`s.  Empty parts and dots do not count,
apart from a dot at the very start of a relative path.  `Path.join` appends a path to a directory,
`Path.relativeTo?` leads from one path to another, `Path.forwardSlashes` turns runs of backslashes
into slashes, and `Path.same` compares two paths by their components with neither dots nor
backslashes counting.
-/

namespace SqlLint

/-- A part of a path. -/
inductive Component where
  | root
  | here
  | up
  | name (text : String)
  deriving DecidableEq, Repr, Inhabited

/-- The text of a component. -/
def Component.text : Component → String
  | .root => "/"
  | .here => "."
  | .up => ".."
  | .name s => s

namespace Path

open Text

/-- The path begins at the root. -/
def isAbsolute (path : String) : Bool := path.toList.head? == some '/'

/-- The component of a part between slashes. -/
def ofPart (part : List Char) : Option Component :=
  if part = [] ∨ part = ['.'] then none
  else if part = ['.', '.'] then some .up
  else some (.name (String.ofList part))

/-- The components of a path. -/
def components (path : String) : List Component :=
  let parts := pieces (· == '/') path.toList
  let start : List Component :=
    if isAbsolute path then [.root]
    else if parts.head? = some ['.'] then [.here]
    else []
  start ++ parts.filterMap ofPart

/-- A path appended to a directory; an absolute path replaces it. -/
def join (dir path : String) : String :=
  if isAbsolute path then path
  else if dir.isEmpty ∨ dir.toList.getLast? = some '/' then dir ++ path
  else dir ++ "/" ++ path

/-- The path of a list of components. -/
def ofComponents (cs : List Component) : String := cs.foldl (fun p c => join p c.text) ""

/-- The last component, if it is a name. -/
def fileName? (path : String) : Option String :=
  match (components path).getLast? with
  | some (.name s) => some s
  | _ => none

/-- Runs of backslashes as one slash each; `after` says that the character before was one. -/
def slashed (after : Bool) : List Char → List Char
  | [] => []
  | c :: cs =>
    if c = '\\' then if after then slashed true cs else '/' :: slashed true cs
    else c :: slashed false cs

/-- The path with every run of backslashes replaced by one slash. -/
def forwardSlashes (path : String) : String := String.ofList (slashed false path.toList)

/-- The components of a path with its dots left out. -/
def lexical (path : String) : List Component := (components path).filter (· ≠ .here)

/-- The paths have the same components, with neither dots nor backslashes counting. -/
def same (a b : String) : Bool := lexical (forwardSlashes a) = lexical (forwardSlashes b)

/-- The way from the components of a directory to those of a path.  `shared` says that everything
so far was the same on both sides. -/
def between (shared : Bool) : List Component → List Component → Option (List Component)
  | [], [] => some []
  | path, [] => some path
  | [], _ :: dir => (between false [] dir).map (.up :: ·)
  | a :: path, b :: dir =>
    if shared ∧ a = b then between true path dir
    else if b = .here then (between false path dir).map (a :: ·)
    else if b = .up then none
    else some (.up :: dir.map (fun _ => .up) ++ a :: path)

/-- The path that leads from the directory `dir` to `path`, if its text tells. -/
def relativeTo? (path dir : String) : Option String :=
  if isAbsolute path ≠ isAbsolute dir then if isAbsolute path then some path else none
  else (between true (components path) (components dir)).map ofComponents

/-- The order of paths by their components. -/
def componentKey : Component → Nat × String
  | .root => (0, "")
  | .here => (1, "")
  | .up => (2, "")
  | .name s => (3, s)

/-- A path comes before another, or is the same, component by component. -/
def atMost : List Component → List Component → Bool
  | [], _ => true
  | _ :: _, [] => false
  | a :: as, b :: bs =>
    let (k, s) := componentKey a
    let (l, t) := componentKey b
    if a = b then atMost as bs
    else k < l || (k == l && decide (s < t))

end Path

end SqlLint
