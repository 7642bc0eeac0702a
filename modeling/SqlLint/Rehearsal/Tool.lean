import SqlLint.Machine.Basic

/-!
# A rehearsed tool and server

For rehearsals the tool and the dbt server answer by a plan.  A `ToolPlan` tells by the first
argument of a call what the tool writes, how it ends and what it does to its last argument; a
`ServerPlan` tells by the name of a path what the server answers.
-/

namespace SqlLint.Rehearsal

/-- What the tool does when it is called. -/
structure ToolAnswer where
  output : List UInt8 := []
  echoesInCapitals : Bool := false
  errors : String := ""
  exit : Int := 0
  isKilled : Bool := false
  rewrites : Option String := none
  removes : Bool := false
  holds : Bool := false
  deriving Repr, Inhabited

/-- What the tool does, by the first argument of a call. -/
abbrev ToolPlan := List (String × ToolAnswer)

/-- What the tool does when it is called with arguments. -/
def ToolPlan.answer (plan : ToolPlan) (arguments : List String) : ToolAnswer :=
  (arguments.head?.bind fun name => List.lookup name plan).getD {}

/-- The variables that the tool notes. -/
def noted (environment : List (String × String)) : List (String × String) :=
  environment.filter fun (k, _) => "ORT_".toList.isPrefixOf k.toList

/-- The text with its ASCII letters in capitals. -/
def capitals (text : String) : String := String.ofList (text.toList.map Char.toUpper)

/-- Bytes as one piece, or none if there are none. -/
def pieceOf (bytes : List UInt8) : List (List UInt8) := if bytes = [] then [] else [bytes]

/-- The changes that a call makes to the file that its last argument names. -/
def ToolAnswer.changes (a : ToolAnswer) (arguments : List String) : List FileChange :=
  match arguments.getLast? with
  | none => []
  | some path =>
    (a.rewrites.map fun text => .write path (Text.Utf8.encode text)).toList ++
      (if a.removes then [.remove path] else [])

/-- What a call of the tool does. -/
def ToolPlan.behaviour (plan : ToolPlan) (environment : List (String × String)) (dir : Place)
    (arguments : List String) (input : Option String) : Behaviour :=
  let answer := plan.answer arguments
  let text := input.getD ""
  let output := if answer.echoesInCapitals then Text.Utf8.encode (capitals text) else answer.output
  { calls := [⟨arguments, text, dir, noted environment⟩]
    changes := answer.changes arguments
    exit := ⟨if answer.isKilled then none else some (answer.exit % 256), pieceOf output,
      Text.Utf8.encode answer.errors⟩
    held := answer.holds }

/-- What the server does with the requests for one path. -/
structure ServerAnswer where
  status : Nat := 200
  body : List UInt8 := []
  hangsUp : Bool := false
  delay : Nat := 0
  deriving Repr, Inhabited

/-- What the server does, by the name of the path. -/
abbrev ServerPlan := List (String × ServerAnswer)

/-- The name of the path of a target. -/
def pathName (target : String) : String :=
  String.ofList ((target.toList.drop 1).takeWhile (· != '?'))

/-- What the server does with a request. -/
def ServerPlan.reply (plan : ServerPlan) (request : HttpRequest) : HttpReply :=
  let answer := (List.lookup (pathName request.target) plan).getD {}
  if answer.hangsUp then .hangUp else .answer answer.status answer.body answer.delay

end SqlLint.Rehearsal
