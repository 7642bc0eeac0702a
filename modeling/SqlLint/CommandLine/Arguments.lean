import SqlLint.Text.Lines

/-!
# The arguments of the command line

`Arguments.read` makes `Arguments` of the words of a command line.  Words that begin with dashes are
options, a word after an option without a value is its value, and all other words are paths; after
two dashes alone every word is a path.  A value is looked at when the next option or path comes, or
at the end.  What cannot be read is a `UsageError`; so are the two options that ask for a text.
-/

namespace SqlLint

/-- What the program does: it serves an editor, checks the setup, or lints files. -/
inductive Mode where
  | serve
  | probe
  | lint
  deriving DecidableEq, Repr

/-- The names of what the program does. -/
def Mode.names : List (String × Mode) := [("lsp", .serve), ("probe", .probe), ("lint", .lint)]

/-- What the command line says. -/
structure Arguments where
  mode : Mode := .serve
  executable : Option String := none
  directory : Option String := none
  logLevel : Option String := none
  paths : List String := []
  deriving DecidableEq, Repr

/-- The options that take a value. -/
inductive ValueOption where
  | mode
  | executable
  | directory
  | logLevel
  deriving DecidableEq, Repr

/-- The names of the options that take a value. -/
def ValueOption.names : List (String × ValueOption) :=
  [ ("mode", .mode), ("executable-path", .executable), ("working-directory", .directory),
    ("log-level", .logLevel) ]

/-- Why a command line is not carried out. -/
inductive UsageError where
  | unknownOption
  | badValue
  | repeated
  | needlessValue
  | shortHelp
  | help
  | version
  deriving DecidableEq, Repr

namespace Arguments

/-- What was read but not looked at yet. -/
inductive Pending where
  | nothing
  | option (o : ValueOption) (value : Option String)
  | paths (paths : List String)
  deriving DecidableEq, Repr

/-- What was read so far: the arguments, the options among them, what was not looked at yet, and
whether only paths follow. -/
structure Reading where
  arguments : Arguments := {}
  given : List ValueOption := []
  pending : Pending := .nothing
  onlyPaths : Bool := false

/-- The arguments with the value of an option. -/
def set (a : Arguments) (o : ValueOption) (value : String) : Except UsageError Arguments :=
  match o with
  | .mode =>
    match Mode.names.lookup value with
    | some mode => .ok { a with mode }
    | none => .error .badValue
  | .executable => .ok { a with executable := some value }
  | .directory => .ok { a with directory := some value }
  | .logLevel => .ok { a with logLevel := some value }

namespace Reading

/-- An option is given a value. -/
def give (r : Reading) (o : ValueOption) (value : String) : Except UsageError Reading := do
  if r.given.contains o then throw .repeated
  return { r with arguments := ← r.arguments.set o value, given := o :: r.given }

/-- What was not looked at yet is looked at. -/
def settle (r : Reading) : Except UsageError Reading := do
  let r' := { r with pending := .nothing }
  match r.pending with
  | .nothing => return r'
  | .option _ none => throw .badValue
  | .option o (some value) => r'.give o value
  | .paths paths =>
    if paths.contains "" then throw .badValue
    return { r' with arguments := { r'.arguments with paths := r'.arguments.paths ++ paths } }

/-- A path is read. -/
def path (r : Reading) (word : String) : Except UsageError Reading := do
  match r.pending with
  | .paths paths => return { r with pending := .paths (paths ++ [word]) }
  | _ => return { ← r.settle with pending := .paths [word] }

/-- A text is asked for. -/
def ask (r : Reading) (text : UsageError) : Except UsageError Reading := do
  let _ ← r.settle
  throw text

/-- The name of a long option and its value, if it is given one. -/
def longOption (word : List Char) : String × Option String :=
  match Text.cutAt ['='] word with
  | some (name, value) => (String.ofList name, some (String.ofList value))
  | none => (String.ofList word, none)

/-- An option with a name of its own is read. -/
def long (r : Reading) (word : List Char) : Except UsageError Reading := do
  let (name, value) := longOption word
  match ValueOption.names.lookup name, value with
  | some o, some value => (← r.settle).give o value
  | some o, none => return { ← r.settle with pending := .option o none }
  | none, value =>
    if name = "help" ∨ name = "version" then
      if value.isSome then throw .needlessValue
      r.ask (if name = "help" then .help else .version)
    else throw .unknownOption

/-- An option that is a single letter is read. -/
def short (r : Reading) (letter : Char) : Except UsageError Reading :=
  if letter = 'h' then r.ask .shortHelp
  else if letter = 'V' then r.ask .version
  else .error .unknownOption

/-- A word is read. -/
def word (r : Reading) (w : String) : Except UsageError Reading :=
  if r.onlyPaths then r.path w
  else match w.toList with
    | ['-', '-'] => .ok { r with onlyPaths := true }
    | '-' :: '-' :: name => r.long name
    | '-' :: letter :: _ => r.short letter
    | _ =>
      match r.pending with
      | .option o none => .ok { r with pending := .option o (some w) }
      | _ => r.path w

end Reading

/-- The arguments in the words of a command line. -/
def read (words : List String) : Except UsageError Arguments := do
  let r ← words.foldlM Reading.word {}
  return (← r.settle).arguments

end Arguments

end SqlLint
