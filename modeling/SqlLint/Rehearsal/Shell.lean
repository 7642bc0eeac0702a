import SqlLint.Rehearsal.Program
import SqlLint.Shell.Word

/-!
# A rehearsed machine

`Rehearsal.start` is what happens to a command on a machine that has the tool, a few small programs
and two shells.  A shell reads a line with `Shell.scan`, fills in variables and runs the commands of
the line one after the other; `steps` are these commands, and `Session.step` runs one of them.
-/

namespace SqlLint.Rehearsal

open Text

/-! ## Words -/

/-- The variables that the shell itself sets: how the last command ended, its own name and that
there are no arguments. -/
def ownVariables (shell : String) (code : Option Int) : List (String × String) :=
  [("?", toString (code.getD 0)), ("0", shell), ("#", "0")]

/-- A name that is being read, the quoting of its first character, and whether it stands in
braces. -/
structure Reading where
  name : List Char := []
  quoting : Shell.Quoting
  isBraced : Bool := false

/-- The character goes on with the name. -/
def Reading.goesOn (r : Reading) (l : Shell.Letter) : Bool :=
  l.quoting = r.quoting && (l.char.isAlphanum || l.char = '_')

/-- The letters of a word with its variables filled in. -/
def expand (env : List (String × String)) (reading : Option Reading) :
    List Shell.Letter → List Char
  | [] => reading.elim [] fun r => value r.name
  | l :: ls =>
    let isSign := l.char = '$' ∧ l.quoting ≠ .strong
    match reading with
    | none =>
      if isSign then expand env (some { quoting := l.quoting }) ls else l.char :: expand env none ls
    | some r =>
      if r.isBraced then
        if l.char = '\x7d' then value r.name ++ expand env none ls
        else expand env (some { r with name := r.name ++ [l.char] }) ls
      else if r.name = [] ∧ l.char = '\x7b' ∧ l.quoting = r.quoting then
        expand env (some { r with isBraced := true }) ls
      else if r.name = [] ∧ l.quoting = r.quoting ∧ ("?#".contains l.char ∨ l.char.isDigit) then
        value [l.char] ++ expand env none ls
      else if r.goesOn l then expand env (some { r with name := r.name ++ [l.char] }) ls
      else if isSign then value r.name ++ expand env (some { quoting := l.quoting }) ls
      else value r.name ++ l.char :: expand env none ls
where
  value (name : List Char) : List Char :=
    if name = [] then ['$'] else ((env.lookup (String.ofList name)).getD "").toList

/-- A word that begins with a bare tilde, which stands for the home directory. -/
def atHome (env : List (String × String)) : List Shell.Letter → List Shell.Letter
  | ⟨'~', .bare⟩ :: ls =>
    let home := ((env.lookup "HOME").getD "").toList.map (⟨·, .strong⟩)
    match ls with
    | [] => home
    | ⟨'/', _⟩ :: _ => home ++ ls
    | _ => ⟨'~', .bare⟩ :: ls
  | ls => ls

/-- A word with its variables filled in; a bare word that is empty then is no word. -/
def word? (env : List (String × String)) (letters : List Shell.Letter) : Option String :=
  let text := expand env none (atHome env letters)
  if text = [] ∧ letters.all (·.quoting = .bare) ∧ letters ≠ [] then none
  else some (String.ofList text)

/-- The variable that a word sets. -/
def assignment? (letters : List Shell.Letter) : Option (String × List Shell.Letter) :=
  let name := letters.takeWhile fun l => l.quoting = .bare ∧ (l.char.isAlphanum ∨ l.char = '_')
  match letters.drop name.length, name.head? with
  | l :: value, some first =>
    if l = ⟨'=', .bare⟩ ∧ ¬ first.char.isDigit then
      some (String.ofList (name.map (·.char)), value)
    else none
  | _, _ => none

/-- The variables that words set. -/
def assignments (env : List (String × String)) (words : List (List Shell.Letter)) :
    List (String × String) :=
  words.filterMap fun w => (assignment? w).map fun (k, v) =>
    (k, String.ofList (expand env none (atHome env v)))

/-! ## Commands of a line -/

/-- What joins a command to the one before it: it runs always, or depending on how that one ended,
or it reads what that one wrote. -/
inductive Joint where
  | always
  | ifWell
  | ifNot
  | piped
  deriving DecidableEq

/-- Where a channel of a command leads. -/
inductive Channel where
  | output
  | errors
  | file (path : List Shell.Letter)
  deriving DecidableEq

/-- A command of a line: what joins it to the one before it, its words, where its channels lead, the
file that it reads, and the number of the line that it stands on. -/
structure Step where
  joint : Joint := .always
  words : List (List Shell.Letter) := []
  output : Channel := .output
  errors : Channel := .errors
  source : Option (List Shell.Letter) := none
  row : Nat

/-- A command one of whose channels leads elsewhere: the one with the number in front, or else its
output. -/
def Step.tied (s : Step) (target : Channel) : Step :=
  match s.words.getLast? with
  | some [⟨'2', .bare⟩] => { s with words := s.words.dropLast, errors := target }
  | some [⟨'1', .bare⟩] => { s with words := s.words.dropLast, output := target }
  | _ => { s with output := target }

/-- Where the channel leads that has a number. -/
def Step.channel (s : Step) (letters : List Shell.Letter) : Channel :=
  if letters.map (·.char) = ['2'] then s.errors else s.output

/-- The commands of a line, from what has been read of the first one. -/
def steps (s : Step) : List Shell.Token → List Step
  | [] => [s]
  | .word letters :: ts => steps { s with words := s.words ++ [letters] } ts
  | .operator '>' :: .operator '&' :: .word letters :: ts => steps (s.tied (s.channel letters)) ts
  | .operator '>' :: .word letters :: ts => steps (s.tied (.file letters)) ts
  | .operator '<' :: .word letters :: ts => steps { s with source := some letters } ts
  | .operator '&' :: .operator '&' :: ts => s :: steps { joint := .ifWell, row := s.row } ts
  | .operator '|' :: .operator '|' :: ts => s :: steps { joint := .ifNot, row := s.row } ts
  | .operator '|' :: ts => s :: steps { joint := .piped, row := s.row } ts
  | .operator '\n' :: ts => s :: steps { row := s.row + 1 } ts
  | .operator _ :: ts => s :: steps { row := s.row } ts

/-- What stands at the wrong place of a line: an operator, or its end, where a parenthesis or
another command should be. -/
inductive Misplaced where
  | operator (text : String)
  | ending (wanted : String)

/-- What stands at the wrong place, given whether a command has begun and one has to follow, and how
many parentheses are open. -/
def misplaced? (hasBegun isNeeded : Bool) (depth : Nat) : List Shell.Token → Option Misplaced
  | [] =>
    if isNeeded ∧ ¬ hasBegun then some (.ending "")
    else if 0 < depth then some (.ending " (expecting \")\")") else none
  | .word _ :: ts => misplaced? true false depth ts
  | .operator '>' :: .operator '&' :: ts | .operator '>' :: ts | .operator '<' :: ts =>
    misplaced? true false depth ts
  | .operator '\n' :: ts => misplaced? false isNeeded depth ts
  | .operator '(' :: ts =>
    if hasBegun then some (.operator "(") else misplaced? false true (depth + 1) ts
  | .operator ')' :: ts =>
    if depth = 0 ∨ ¬ hasBegun then some (.operator ")") else misplaced? true false (depth - 1) ts
  | .operator '&' :: .operator '&' :: ts =>
    if hasBegun then misplaced? false true depth ts else some (.operator "&&")
  | .operator '|' :: .operator '|' :: ts =>
    if hasBegun then misplaced? false true depth ts else some (.operator "||")
  | .operator ';' :: .operator ';' :: _ => some (.operator ";;")
  | .operator '|' :: ts =>
    if hasBegun then misplaced? false true depth ts else some (.operator "|")
  | .operator c :: ts =>
    if hasBegun then misplaced? false false depth ts else some (.operator (String.singleton c))

/-! ## What a shell says -/

/-- The shell is the larger one. -/
def isLarge (shell : String) : Bool := shell.endsWith "bash"

/-- What a shell says about a command that cannot be run, and the exit code. -/
def complaint : OsError → String × Int
  | .notFound | .notDirectory => ("not found", 127)
  | .nameTooLong => ("File name too long", 127)
  | _ => ("Permission denied", 126)

/-- The same for the larger shell, which sees whether the command is a path, and whether a directory
is there. -/
def longComplaint (isPath isDirectory : Bool) : OsError → String × Int
  | .notFound => (if isPath then "No such file or directory" else "command not found", 127)
  | .notDirectory => ("Not a directory", 126)
  | .nameTooLong => if isPath then ("File name too long", 126) else ("command not found", 127)
  | _ => (if isDirectory then "Is a directory" else "Permission denied", 126)

/-- What stands before what a shell says of a command. -/
def lead (shell : String) (row : Nat) : String :=
  shell ++ (if isLarge shell then ": line " else ": ") ++ toString row ++ ": "

/-- What a shell says about a quotation that does not end. -/
def openQuotation (shell line : String) : String :=
  if isLarge shell then
    let mark := if (Shell.scan (line ++ "'")).isSome then "'" else "\""
    shell ++ ": -c: line 1: unexpected EOF while looking for matching `" ++ mark ++ "'\n"
  else shell ++ ": 1: Syntax error: Unterminated quoted string\n"

/-- What a shell says about a line in which something is misplaced. -/
def Misplaced.message (shell line : String) : Misplaced → String
  | .operator text =>
    if isLarge shell then
      shell ++ ": -c: line 1: syntax error near unexpected token `" ++ text ++ "'\n" ++
        shell ++ ": -c: line 1: `" ++ line ++ "'\n"
    else shell ++ ": 1: Syntax error: \"" ++ text ++ "\" unexpected\n"
  | .ending wanted =>
    if isLarge shell then shell ++ ": -c: line 2: syntax error: unexpected end of file\n"
    else shell ++ ": 1: Syntax error: end of file unexpected" ++ wanted ++ "\n"

/-! ## Sessions -/

/-- A shell between two commands; `last` is what the last one wrote, which the next one may read,
and `went` tells whether it ran. -/
structure Session where
  shell : String
  files : Files
  environment : List (String × String)
  place : Place
  input : Option String
  done : Behaviour
  last : List (List UInt8) := []
  went : Bool := true
  isOver : Bool := false

/-- A session in which more was written and a command ended. -/
def Session.after (s : Session) (b : Behaviour) : Session :=
  { s with done :=
      { calls := s.done.calls ++ b.calls
        changes := s.done.changes ++ b.changes
        exit.code := b.exit.code
        exit.output := s.done.exit.output ++ b.exit.output
        exit.errors := s.done.exit.errors ++ b.exit.errors
        held := s.done.held || b.held } }

/-- What a session says about a command that cannot be run, and the exit code. -/
def Session.complaint (s : Session) (row : Nat) (name : String) (e : OsError) : String × Int :=
  let isPath := name.toList.contains '/'
  let (words, code) :=
    if isLarge s.shell then longComplaint isPath (isPath && s.files.isDirectory s.place name) e
    else Rehearsal.complaint e
  (lead s.shell row ++ name ++ ": " ++ words ++ "\n", code)

/-- A session that goes to a directory. -/
def Session.goTo (s : Session) (row : Nat) (path : String) : Session :=
  let failed (e : OsError) :=
    s.after <| if isLarge s.shell then
      wrote "" (lead s.shell row ++ "cd: " ++ path ++ ": " ++ sayings e ++ "\n") 1
    else wrote "" (lead s.shell row ++ "cd: can't cd to " ++ path ++ "\n") 2
  match s.files.locate s.place path with
  | .error e => failed e
  | .ok place =>
    match s.files.node? place with
    | none => failed .notFound
    | some (.file _ _) => failed .notDirectory
    | some .directory => { s.after (wrote "" "" 0) with place }

/-- A session after a command given by its words. -/
def Session.run (plan : ToolPlan) (s : Session) (row : Nat) (environment : List (String × String)) :
    List String → Session
  | [] => { s.after (wrote "" "" 0) with environment }
  | "exec" :: words => { s.run plan row environment words with isOver := words ≠ [] }
  | "command" :: words => s.run plan row environment words
  | "exit" :: arguments =>
    let code := (arguments.head?.bind String.toInt?).orElse fun _ => s.done.exit.code
    { s.after (wrote "" "" (code.getD 0)) with isOver := true }
  | "cd" :: arguments =>
    s.goTo row (arguments.headD ((environment.lookup "HOME").getD "/"))
  | "pwd" :: _ => s.after (wrote ("/" ++ joinStrings "/" s.place ++ "\n") "" 0)
  | "export" :: settings =>
    let vars := settings.filterMap fun word =>
      let (name, value) := word.toList.span (· ≠ '=')
      if value = [] then none else some (String.ofList name, String.ofList (value.drop 1))
    { s.after (wrote "" "" 0) with environment := Machine.overlay environment vars }
  | "unset" :: names =>
    { s.after (wrote "" "" 0) with environment := environment.filter fun v => ! names.contains v.1 }
  | "echo" :: arguments => s.after (echo (! isLarge s.shell) arguments)
  | name :: arguments =>
    if [":", "true", "false", "printf"].contains name then
      s.after (smallProgram s.files s.place name arguments s.input)
    else match findProgram s.files environment s.place name with
      | .ok found => s.after (program plan s.files environment s.place found arguments s.input)
      | .error e =>
        let (text, code) := s.complaint row name e
        s.after (wrote "" text code)

/-- A session after a simple command; an exclamation mark in front turns its outcome round. -/
def Session.simple (plan : ToolPlan) (s : Session) (row : Nat) :
    List (List Shell.Letter) → Session
  | [⟨'!', .bare⟩] :: words =>
    let ran := s.simple plan row words
    { ran with done.exit.code := some (if ran.done.exit.code = some 0 then 1 else 0) }
  | words =>
    let known := s.environment ++ ownVariables s.shell s.done.exit.code
    let settings := words.takeWhile fun w => (assignment? w).isSome
    s.run plan row (Machine.overlay s.environment (assignments known settings))
      ((words.drop settings.length).filterMap (word? known))

/-- The command runs, given how the one before it ended. -/
def Joint.goes (joint : Joint) (s : Session) : Bool :=
  ! s.isOver && match joint with
    | .always => true
    | .ifWell => s.done.exit.code = some 0
    | .ifNot => s.done.exit.code ≠ some 0
    | .piped => s.went

/-- What a command writes, led where its channels lead; the files that it writes are changed. -/
def Step.led (s : Step) (env : List (String × String)) (b : Behaviour) : Behaviour :=
  let output := b.exit.output.flatten
  let written (channel : Channel) (bytes : List UInt8) : List FileChange :=
    match channel with
    | .file letters =>
      let path := String.ofList (expand env none (atHome env letters))
      if path = "/dev/null" then [] else [.write path bytes]
    | _ => []
  { b with
    changes := b.changes ++ written s.output output ++ written s.errors b.exit.errors
    exit.output := (if s.output = .output then b.exit.output else []) ++
      (if s.errors = .output then pieceOf b.exit.errors else [])
    exit.errors := (if s.output = .errors then output else []) ++
      (if s.errors = .errors then b.exit.errors else []) }

/-- What a command reads that takes its input from a file. -/
def Session.read (s : Session) (row : Nat) (letters : List Shell.Letter) :
    Except Behaviour String :=
  let path := String.ofList (expand s.environment none (atHome s.environment letters))
  if path = "/dev/null" then .ok ""
  else match s.files.read s.place path with
    | .ok bytes => .ok (Utf8.lossyString bytes)
    | .error e =>
      .error <| if isLarge s.shell then
        wrote "" (lead s.shell row ++ path ++ ": " ++ sayings e ++ "\n") 1
      else wrote "" (lead s.shell row ++ "cannot open " ++ path ++ ": No such file\n") 2

/-- A session in which what the last command wrote has become output. -/
def Session.flushed (s : Session) : Session :=
  { s with done.exit.output := s.done.exit.output ++ s.last, last := [] }

/-- A session after a command of a line. -/
def Session.step (plan : ToolPlan) (s : Session) (step : Step) : Session :=
  let isPiped := step.joint = .piped
  let piped := if isPiped then some (Utf8.lossyString s.last.flatten) else s.input
  let s := if isPiped then { s with last := [] } else s.flushed
  if ¬ step.joint.goes s then { s with went := false }
  else if step.words = [] then { s with went := step.source.isNone }
  else
    let fresh : Behaviour := { exit := ⟨s.done.exit.code, [], []⟩ }
    let ran := match step.source.elim (.ok (piped.getD "")) (s.read step.row) with
      | .error b => { s with done := b }
      | .ok text =>
        let input := if step.source.isSome then some text else piped
        { s with done := fresh, input }.simple plan step.row step.words
    let led := step.led s.environment ran.done
    let quiet := { led with exit.output := [] }
    { ran with
      done := (s.after quiet).done
      last := led.exit.output
      input := s.input
      went := true }

/-- What a shell does that is given a line. -/
def runLine (plan : ToolPlan) (s : Session) (line : String) : Behaviour :=
  match Shell.scan line with
  | none => wrote "" (openQuotation s.shell line) 2
  | some tokens =>
    match misplaced? false false 0 tokens with
    | some m => wrote "" (m.message s.shell line) 2
    | none => ((steps { row := 1 } tokens).foldl (Session.step plan) s).flushed.done

/-! ## Commands -/

/-- What happens to a command. -/
def start (plan : ToolPlan) (fs : Files) (environment : List (String × String)) (dir : Place)
    (c : Command) : Except OsError Behaviour := do
  let name ← findProgram fs environment dir c.program
  match name, c.arguments with
  | "sh", "-c" :: line :: _ | "dash", "-c" :: line :: _ | "bash", "-c" :: line :: _ =>
    return runLine plan
      { shell := c.program, files := fs, environment, place := dir, input := c.input
        done := { exit := ⟨some 0, [], []⟩ } } line
  | _, arguments => return program plan fs environment dir name arguments c.input

end SqlLint.Rehearsal
