import SqlLint.Json.Parse
import SqlLint.Json.Print
import SqlLint.Server.Frame
import SqlLint.Server.Request
import SqlLint.Workspace.Basic

/-!
# Messages

A `Message` is what arrives from the editor: a request with its number, a notice, or anything else,
which is passed over.  What is sent to the editor is a JSON value: a request, a notice, an answer or
a refusal.  `Event.message` is the message for an event and `Event.bytes` its frame.
-/

namespace SqlLint

/-- What arrives from the editor. -/
inductive Message where
  | request (id : Json) (method : String) (parameters : Json)
  | notice (method : String) (parameters : Json)
  | other

namespace Message

/-- The message that a value is. -/
def ofJson (j : Json) : Message :=
  match (j.get? "method").bind Json.str? with
  | none => .other
  | some method =>
    let parameters := (j.get? "params").getD .null
    match j.get? "id" with
    | some id => .request id method parameters
    | none => .notice method parameters

/-- The message with the given members, which tells its kind of protocol. -/
def envelope (members : List (String × Json)) : Json :=
  .object (("jsonrpc", .str "2.0") :: members)

/-- A notice. -/
def tell (method : String) (parameters : Json) : Json :=
  envelope [("method", .str method), ("params", parameters)]

/-- A request. -/
def ask (id : Nat) (method : String) (parameters : Json) : Json :=
  envelope [("id", .nat id), ("method", .str method), ("params", parameters)]

/-- The answer to a request. -/
def answer (id result : Json) : Json := envelope [("id", id), ("result", result)]

/-- The refusal of a request. -/
def refusal (id : Json) (fault : RequestFault) : Json :=
  envelope [
    ("id", id),
    ("error", .object [("code", .int fault.code), ("message", .str fault.message)])]

/-- The frame of a message. -/
def frame (message : Json) : List UInt8 := Frame.write (Text.Utf8.encode message.compress)

end Message

namespace Event

/-- What a publication says; without a version there is none in it. -/
def publication (uri : Url) (diagnostics : List Diagnostic) (version : Option Int) : Json :=
  .objectOf [
    ("uri", some (.str uri.text)), ("diagnostics", some (.list Diagnostic.json diagnostics)),
    ("version", version.map .int)]

/-- The message for an event. -/
def message : Event → Json
  | .published uri diagnostics version =>
    Message.tell "textDocument/publishDiagnostics" (publication uri diagnostics version)
  | .shown kind text =>
    Message.tell "window/showMessage" (.object [("type", .int kind.code), ("message", .str text)])
  | .sent message => message

/-- The frame of the message for an event. -/
def bytes (e : Event) : List UInt8 := Message.frame e.message

end Event

end SqlLint
