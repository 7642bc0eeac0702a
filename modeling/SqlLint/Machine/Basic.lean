import SqlLint.Machine.Files

/-!
# The machine

`Machine` is what surrounds the service: the files, the environment, the programs that can be
started and the server that answers requests.  A started program is a `Process` until it has ended;
what it does is fixed when it is started.  `Machine.spawn` starts a command, `Machine.kill` ends a
process early, `Machine.collect?` takes the outcome of one that has ended, and `Machine.send` sends
a request.
-/

namespace SqlLint

/-- A command: a program and its arguments, where it runs, the variables it is given besides the
environment, and the text on its standard input. -/
structure Command where
  program : String
  arguments : List String
  directory : Option String := none
  vars : List (String × String) := []
  input : Option String := none
  deriving DecidableEq, Repr, Inhabited

/-- How a process ended: its exit code unless a signal ended it, what it wrote on its standard
output, in the pieces in which that is read, and on its standard error. -/
structure Exit where
  code : Option Int
  output : List (List UInt8) := []
  errors : List UInt8 := []
  deriving DecidableEq, Repr, Inhabited

/-- A change that a process makes to the files. -/
inductive FileChange where
  | write (path : String) (bytes : List UInt8)
  | remove (path : String)
  deriving DecidableEq, Repr

/-- A call of the tool, as the tool sees it. -/
structure ToolCall where
  arguments : List String
  input : String
  directory : Place
  vars : List (String × String)
  deriving DecidableEq, Repr

/-- What a command does: the calls of the tool it makes, the changes of files, seen from its
directory, and how it ends; it may go on until it is released. -/
structure Behaviour where
  calls : List ToolCall := []
  changes : List FileChange := []
  exit : Exit
  held : Bool := false
  deriving Repr, Inhabited

/-- A process that has been started. -/
structure Process where
  id : Nat
  directory : Place
  behaviour : Behaviour
  held : Bool
  deriving Repr

/-- A process ended by a signal before it did anything. -/
def Process.killed (p : Process) : Process :=
  { p with held := false, behaviour := { p.behaviour with exit := ⟨none, [], []⟩ } }

/-- A request to the server. -/
structure HttpRequest where
  method : String
  target : String
  body : String
  deriving DecidableEq, Repr

/-- What the server does with a request: it answers after some milliseconds, or hangs up. -/
inductive HttpReply where
  | answer (status : Nat) (body : List UInt8) (delay : Nat)
  | hangUp
  deriving Repr

namespace HttpReply

/-- The status belongs to an answer: it has three digits and does not just announce one. -/
def isFinal (status : Nat) : Bool := 200 ≤ status && status ≤ 999

/-- An answer with the status has a body; those for no content and for nothing new have none. -/
def hasBody (status : Nat) : Bool := status ≠ 204 && status ≠ 304

/-- The status and the body that arrive within some milliseconds. -/
def arrived? (timeout : Nat) : HttpReply → Option (Nat × List UInt8)
  | .answer status body delay =>
    if isFinal status && delay < timeout then some (status, if hasBody status then body else [])
    else none
  | .hangUp => none

end HttpReply

/-- What surrounds the service.  `start` is what happens to a command, given the files, the
environment and the place where it runs; a buffer of up to `memory` bytes can be had. -/
structure Machine where
  files : Files := []
  directory : Place := []
  environment : List (String × String) := []
  start : Files → List (String × String) → Place → Command → Except OsError Behaviour :=
    fun _ _ _ _ => .error .notFound
  serve : Option (HttpRequest → HttpReply) := none
  released : Bool := false
  processes : List Process := []
  nextProcess : Nat := 1
  calls : List ToolCall := []
  requests : List HttpRequest := []
  clock : Nat := 0
  memory : Nat := 0x7FFFFFFFFFFFFFFF

namespace Machine

/-- The value of a variable of the environment. -/
def valueOf? (m : Machine) (name : String) : Option String := m.environment.lookup name

/-- A list of variables with some of them set, each in its place. -/
def overlay (environment : List (String × String)) (vars : List (String × String)) :
    List (String × String) :=
  vars.foldl (fun env (k, v) => env.filter (·.1 ≠ k) ++ [(k, v)]) environment

/-- The words of a command all do without the character that ends words. -/
def isClean (c : Command) : Bool :=
  ! ((c.program :: c.arguments ++ c.directory.toList ++ c.vars.flatMap fun (k, v) => [k, v]).any
    fun word => word.toList.contains '\x00')

/-- The place where a command runs. -/
def workplace (m : Machine) (c : Command) : Except OsError Place := do
  match c.directory with
  | none => return m.directory
  | some dir =>
    let place ← m.files.locate m.directory dir
    match m.files.node? place with
    | none => throw .notFound
    | some (.file _ _) => throw .notDirectory
    | some .directory => return place

/-- What happens to a command. -/
def behaviour (m : Machine) (c : Command) : Except OsError (Place × Behaviour) := do
  if ! isClean c then throw .nulInCommand
  let place ← m.workplace c
  return (place, ← m.start m.files (overlay m.environment c.vars) place c)

/-- The files after a change that a process makes. -/
def changed (dir : Place) (fs : Files) : FileChange → Files
  | .write path bytes => (fs.write dir path bytes).toOption.getD fs
  | .remove path => fs.remove dir path

/-- The machine with a command started; gives the process. -/
def spawn (m : Machine) (c : Command) : Except OsError (Nat × Machine) := do
  let (place, behaviour) ← m.behaviour c
  let held := behaviour.held && ! m.released
  let process : Process := ⟨m.nextProcess, place, behaviour, held⟩
  return (m.nextProcess,
    { m with
      processes := m.processes ++ [process]
      nextProcess := m.nextProcess + 1
      calls := m.calls ++ behaviour.calls
      files := if held then m.files else behaviour.changes.foldl (changed place) m.files })

/-- A process goes on. -/
def isRunning (m : Machine) (id : Nat) : Bool := m.processes.any fun p => p.id == id && p.held

/-- The machine with a process ended early; nothing happens to one that has ended. -/
def kill (m : Machine) (id : Nat) : Machine :=
  { m with processes := m.processes.map fun p => if p.id = id ∧ p.held then p.killed else p }

/-- How a process ended, unless it goes on, and the machine without it. -/
def collect? (m : Machine) (id : Nat) : Option (Exit × Machine) :=
  match m.processes.find? (·.id = id) with
  | none => none
  | some p =>
    if p.held then none
    else some (p.behaviour.exit, { m with processes := m.processes.filter (·.id ≠ id) })

/-- The machine with a command run to its end. -/
def run (m : Machine) (c : Command) : Except OsError (Exit × Machine) := do
  let (place, behaviour) ← m.behaviour c
  return (behaviour.exit,
    { m with
      calls := m.calls ++ behaviour.calls
      files := behaviour.changes.foldl (changed place) m.files })

/-- The machine with all held processes let go on. -/
def release (m : Machine) : Machine :=
  let held := m.processes.filter (·.held)
  { m with
    released := true
    files := held.foldl (fun fs p => p.behaviour.changes.foldl (changed p.directory) fs) m.files
    processes := m.processes.map fun p => { p with held := false } }

/-- The answer to a request within some milliseconds, and the machine after it. -/
def send (m : Machine) (timeout : Nat) (request : HttpRequest) :
    Option (Nat × List UInt8) × Machine :=
  match m.serve with
  | none => (none, m)
  | some serve =>
    ((serve request).arrived? timeout, { m with requests := m.requests ++ [request] })

end Machine

end SqlLint
