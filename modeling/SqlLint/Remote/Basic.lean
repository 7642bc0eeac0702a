import SqlLint.Json.Parse
import SqlLint.Json.Print
import SqlLint.Json.Record
import SqlLint.Machine.Basic
import SqlLint.Settings.Basic
import SqlLint.Url.Parse

/-!
# The dbt server

A dbt server lints and formats in place of the tool.  `Remote.lint` and `Remote.format` first ask
whether the server is well and then post the text, or the path of a file.  An answer that says what
went wrong is a `RemoteError`; so is everything that is not an answer.
-/

namespace SqlLint

/-! ## Errors -/

/-- The kinds of errors, by the numbers that the server uses. -/
inductive RemoteCode where
  | unreachable
  | compilation
  | execution
  | projectParsing
  | other (n : Int)
  deriving DecidableEq, Repr

namespace RemoteCode

/-- The kind of an error with a number. -/
def ofNumber (n : Int) : RemoteCode :=
  if n = -1 then .unreachable
  else if n = 1 then .compilation
  else if n = 2 then .execution
  else if n = 3 then .projectParsing
  else .other n

/-- The number of a kind. -/
def number : RemoteCode → Int
  | .unreachable => -1
  | .compilation => 1
  | .execution => 2
  | .projectParsing => 3
  | .other n => n

end RemoteCode

/-- What went wrong with a request. -/
structure RemoteError where
  code : RemoteCode
  message : String
  detail : Option String
  deriving DecidableEq, Repr

namespace RemoteError

/-- The server at an address gave no answer that makes sense. -/
def unreachable (address : String) : RemoteError :=
  ⟨.unreachable, "Query failed to reach dbt sync server.",
    some ("Is the server listening on the " ++ address ++ " address?")⟩

/-- The server is not well, or not there. -/
def notRegistered : RemoteError :=
  ⟨.unreachable, "Dbt project not registered in the dbt-core-interface server.",
    some "Wait for its loading process to finish"⟩

/-- What the user is told: the message and the detail. -/
def userMessage (e : RemoteError) : String :=
  match e.detail with
  | some detail => if detail.isEmpty then e.message else e.message ++ "\n" ++ detail
  | none => e.message

/-- The error in the log. -/
def text (e : RemoteError) : String :=
  "[" ++ toString e.code.number ++ "] " ++ e.userMessage

end RemoteError

/-! ## Answers -/

/-- The members of an object of any values, `depth` levels deep at most. -/
def Draft.memberValues? (depth : Nat) : Draft → Option (List (String × Json))
  | .obj members => Draft.settleMembers? depth members
  | _ => none

/-- The error that an answer tells; one whose number is zero is none. -/
def RemoteError.ofDraft? (d : Draft) : Option (Option RemoteError) := do
  let r ← d.record? ["code", "message", "data"]
  let code ← r.required "code" Draft.int64?
  let message ← r.defaulted "message" Draft.text? ""
  let data ← r.defaulted "data" (Draft.memberValues? (Draft.maxDepth - 3)) []
  let detail := (Members.ofList data).lookup "error"
  let words : Json → String
    | .str s => s
    | other => other.compress
  return if code = 0 then none else some ⟨.ofNumber code, message, detail.map words⟩

/-- An answer whose result has a name and is read by `read`. -/
def readAnswer? {α : Type} (name : String) (read : Draft → Option α) (text : String) :
    Option (Option α × Option RemoteError) := do
  let r ← (← Draft.parse? text).record? [name, "error"]
  let result ← r.defaulted name (Draft.nullable? read) none
  let error ← r.defaulted "error" (Draft.nullable? RemoteError.ofDraft?) none
  return (result, error.join)

/-! ## Requests -/

/-- A text to be linted or formatted, or the path of a file that holds it, and a configuration
file. -/
structure RemoteRequest where
  sql : Option String := none
  path : Option String := none
  extraConfig : String := ""
  deriving DecidableEq, Repr, Inhabited

namespace RemoteRequest

/-- The parameters of a request; the path is left out when the text is sent. -/
def parameters (r : RemoteRequest) : List (String × String) :=
  (if r.sql.isNone then r.path.toList.map ("sql_path", ·) else []) ++
    (if r.extraConfig.isEmpty then [] else [("extra_config_path", r.extraConfig)])

end RemoteRequest

namespace DbtSettings

/-- The address of the server. -/
def address (s : DbtSettings) : String := "http://" ++ s.host ++ ":" ++ toString s.port.toNat

/-- The URL of a request. -/
def url? (s : DbtSettings) (endpoint : String) (r : RemoteRequest) : Option Url :=
  Url.withParameters? (s.address ++ "/" ++ endpoint) r.parameters

end DbtSettings

namespace Remote

/-- The milliseconds within which a server has to say that it is well. -/
def healthTimeout : Nat := 1000

/-- The target of a request: the path and the query of its URL. -/
def target (u : Url) : String := u.path ++ (u.query.map ("?" ++ ·)).getD ""

/-- Whether the server says that it is well, and the machine after it was asked. -/
def health (m : Machine) (s : DbtSettings) : Bool × Machine :=
  match Url.parse? (s.address ++ "/health") with
  | none => (false, m)
  | some u =>
    let (answer, m) := m.send healthTimeout ⟨"GET", target u, ""⟩
    (answer.any (·.1 = 200), m)

/-- The text that the server answers to a post, if it does. -/
def post (m : Machine) (s : DbtSettings) (u : Url) (body : Option String) :
    Option String × Machine :=
  let (answer, m) := m.send s.timeout.toNat ⟨"POST", target u, body.getD ""⟩
  (answer.map fun (_, bytes) => Text.Utf8.lossyString bytes, m)

/-- A result from an answer. -/
def outcome {α : Type} (s : DbtSettings) : Option (Option α × Option RemoteError) →
    Except RemoteError (Option α)
  | none => .error (.unreachable s.address)
  | some (_, some error) => .error error
  | some (result, none) => .ok result

/-- The result of a request, read from the answer by `read`. -/
def call {α : Type} (m : Machine) (s : DbtSettings) (endpoint : String) (r : RemoteRequest)
    (read : String → Option (Option α × Option RemoteError)) :
    Except RemoteError (Option α) × Machine :=
  let (isWell, m) := health m s
  if ! isWell then (.error .notRegistered, m)
  else match s.url? endpoint r with
    | none => (.error (.unreachable s.address), m)
    | some u =>
      let (text, m) := post m s u r.sql
      (outcome s (text.bind read), m)

/-- The violations that the server finds, an empty list if it names none. -/
def lint (m : Machine) (s : DbtSettings) (r : RemoteRequest) : Except RemoteError Json × Machine :=
  let (result, m) :=
    call m s "lint" r (readAnswer? "result" (Draft.settleAt? (Draft.maxDepth - 1)))
  (result.map fun found => found.getD (.arr []), m)

/-- The text as the server formats it, if it gives one. -/
def format (m : Machine) (s : DbtSettings) (r : RemoteRequest) :
    Except RemoteError (Option String) × Machine :=
  call m s "format" r (readAnswer? "sql" Draft.text?)

end Remote

end SqlLint
