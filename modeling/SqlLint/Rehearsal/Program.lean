import SqlLint.Rehearsal.Tool

/-!
# Programs of a rehearsed machine

A program is a file that may be run and holds its own name; `findProgram` is the one that a name
stands for.  Besides the tool and the shells there are a few small ones, and `program` is what each
does that is not a shell.
-/

namespace SqlLint.Rehearsal

open Text

/-! ## Finding programs -/

/-- The directories that are searched for programs. -/
def searchPath (environment : List (String × String)) : List String :=
  let path := (environment.lookup "PATH").getD "/bin:/usr/bin"
  (pieces (· == ':') path.toList).map fun dir => if dir = [] then "." else String.ofList dir

/-- The program that a path names. -/
def programAt (fs : Files) (dir : Place) (path : String) : Except OsError String := do
  let place ← fs.locate dir path
  match fs.node? place with
  | none => throw .notFound
  | some .directory => throw .denied
  | some (.file bytes executable) =>
    if executable then return Utf8.lossyString bytes else throw .denied

/-- The first program found; a file that may not be run is remembered while the search goes on, and
a name that is too long ends it. -/
def firstProgram (fs : Files) (dir : Place) (name : String) (failure : OsError) :
    List String → Except OsError String
  | [] => .error failure
  | d :: ds =>
    match programAt fs dir (Path.join d name) with
    | .ok program => .ok program
    | .error .denied => firstProgram fs dir name .denied ds
    | .error .nameTooLong => .error .nameTooLong
    | .error _ => firstProgram fs dir name failure ds

/-- The program that a name stands for. -/
def findProgram (fs : Files) (environment : List (String × String)) (dir : Place) (name : String) :
    Except OsError String :=
  if name.isEmpty then .error .notFound
  else if name.toList.contains '/' then programAt fs dir name
  else firstProgram fs dir name .notFound (searchPath environment)

/-! ## What programs say -/

/-- A command that writes and ends. -/
def wrote (output errors : String) (code : Int) : Behaviour :=
  { exit := ⟨some code, pieceOf (Utf8.encode output), Utf8.encode errors⟩ }

/-- What programs say of a failure. -/
def sayings (e : OsError) : String :=
  String.ofList (e.message.toList.takeWhile (· ≠ '(')).dropLast

/-- What a program says that does not know how to go on. -/
def puzzled (program words : String) : Behaviour :=
  let advice := "Try '" ++ program ++ " --help' for more information.\n"
  wrote "" (program ++ ": " ++ words ++ "\n" ++ advice) 1

/-- What a program says about an option that it does not know. -/
def unknownOption (program option : String) : Behaviour :=
  let letter := String.ofList ((option.toList.drop 1).take 1)
  puzzled program <| if option.startsWith "--" then "unrecognized option '" ++ option ++ "'"
    else "invalid option -- '" ++ letter ++ "'"

/-! ## Small programs -/

/-- What a text means in which a backslash begins an escape; one of them ends the text, and then the
result says so. -/
def unescaped : List Char → List Char × Bool
  | '\\' :: c :: cs =>
    if c = 'c' then ([], true)
    else
      let (rest, ends) := unescaped cs
      match c with
      | 'n' => ('\n' :: rest, ends)
      | 't' => ('\t' :: rest, ends)
      | 'r' => ('\r' :: rest, ends)
      | 'a' => ('\x07' :: rest, ends)
      | 'b' => ('\x08' :: rest, ends)
      | 'f' => ('\x0c' :: rest, ends)
      | 'v' => ('\x0b' :: rest, ends)
      | '\\' => ('\\' :: rest, ends)
      | _ => ('\\' :: c :: rest, ends)
  | c :: cs =>
    let (rest, ends) := unescaped cs
    (c :: rest, ends)
  | [] => ([], false)

/-- The program that writes its arguments; some of them read escapes in them. -/
def echo (readsEscapes : Bool) (arguments : List String) : Behaviour :=
  let isShort := arguments.head? = some "-n"
  let text := joinStrings " " (if isShort then arguments.drop 1 else arguments)
  let (text, ends) := if readsEscapes then unescaped text.toList else (text.toList, false)
  wrote (String.ofList text ++ if isShort ∨ ends then "" else "\n") "" 0

/-- A format with arguments put in. -/
def formatted : List Char → List String → List Char
  | '%' :: 's' :: cs, arguments => (arguments.headD "").toList ++ formatted cs (arguments.drop 1)
  | '%' :: '%' :: cs, arguments => '%' :: formatted cs arguments
  | c :: cs, arguments => c :: formatted cs arguments
  | [], _ => []

/-- The program that writes a format. -/
def printed : List String → Behaviour
  | [] => puzzled "printf" "missing operand"
  | format :: arguments =>
    wrote (String.ofList (formatted (unescaped format.toList).1 arguments)) "" 0

/-- The program that writes out files one after the other; a hyphen stands for its input. -/
def concatenated (fs : Files) (dir : Place) (input : String) (paths : List String) : Behaviour :=
  let one (b : Behaviour) (path : String) : Behaviour :=
    if path = "-" then { b with exit.output := b.exit.output ++ pieceOf (Utf8.encode input) }
    else match fs.read dir path with
      | .ok bytes => { b with exit.output := b.exit.output ++ pieceOf bytes }
      | .error e =>
        { b with
          exit.code := some 1
          exit.errors :=
            b.exit.errors ++ Utf8.encode ("cat: " ++ path ++ ": " ++ sayings e ++ "\n") }
  paths.foldl one (wrote "" "" 0)

/-- What a program does that is neither the tool nor a shell and starts no other one. -/
def smallProgram (fs : Files) (dir : Place) (name : String) (arguments : List String)
    (input : Option String) : Behaviour :=
  if name = "echo" then echo false arguments
  else if name = "printf" then printed arguments
  else if name = "cat" then
    match arguments.find? fun a => a.startsWith "-" ∧ a ≠ "-" with
    | some option => unknownOption name option
    | none => concatenated fs dir (input.getD "") (if arguments = [] then ["-"] else arguments)
  else if name = "sleep" then
    match arguments with
    | [] => puzzled name "missing operand"
    | a :: _ =>
      if a.startsWith "-" ∧ a ≠ "-" then unknownOption name a
      else if a.toList.all Char.isDigit then wrote "" "" 0
      else puzzled name ("invalid time interval '" ++ a ++ "'")
  else if name = "false" then wrote "" "" 1
  else wrote "" "" 0

/-- What a program does that is not a shell and starts no other one. -/
def plainProgram (plan : ToolPlan) (fs : Files) (environment : List (String × String)) (dir : Place)
    (name : String) (arguments : List String) (input : Option String) : Behaviour :=
  if name = "sqlfluff" then plan.behaviour environment dir arguments input
  else smallProgram fs dir name arguments input

/-- What the program does that starts another one with some variables set. -/
def started (plan : ToolPlan) (fs : Files) (environment : List (String × String)) (dir : Place)
    (arguments : List String) (input : Option String) : Behaviour :=
  let settings := arguments.takeWhile (·.toList.contains '=')
  let vars := settings.map fun word =>
    let (name, value) := word.toList.span (· ≠ '=')
    (String.ofList name, String.ofList (value.drop 1))
  let environment := Machine.overlay environment vars
  match arguments.drop settings.length with
  | [] => wrote "" "" 0
  | name :: arguments =>
    match findProgram fs environment dir name with
    | .ok found => plainProgram plan fs environment dir found arguments input
    | .error e =>
      wrote "" ("env: '" ++ name ++ "': " ++ sayings e ++ "\n") (if e = .notFound then 127 else 126)

/-- What a program does that is not a shell. -/
def program (plan : ToolPlan) (fs : Files) (environment : List (String × String)) (dir : Place)
    (name : String) (arguments : List String) (input : Option String) : Behaviour :=
  if name = "env" then started plan fs environment dir arguments input
  else plainProgram plan fs environment dir name arguments input

/-- The programs of a machine besides the tool. -/
def systemPrograms : List String :=
  ["sh", "dash", "bash", "cat", "echo", "env", "false", "ls", "printf", "sleep", "true"]

/-- The files of a machine: the directories of the system and its programs, with the tool in one
directory and another one to work in. -/
def systemFiles (tools workplace : Place) : Files :=
  let directories : List Place :=
    [["bin"], ["usr", "bin"], ["etc"], ["home"], ["tmp"], ["root"], ["var"], tools, workplace]
  let fs := directories.foldl Files.makeDirectories []
  let programs := systemPrograms.flatMap fun name =>
    [(["bin", name], name), (["usr", "bin", name], name)]
  ((tools ++ ["sqlfluff"], "sqlfluff") :: programs).foldl
    (fun fs (place, name) => fs.put place (.file (Utf8.encode name) true)) fs

end SqlLint.Rehearsal
