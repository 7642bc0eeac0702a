import SqlLint.Diagnostic.Basic
import SqlLint.Document.Basic
import SqlLint.Server.Capabilities

/-!
# Requests and notices

An editor asks the service for something by a `Request`, which is answered, and tells it something
by a `Notice`, which is not.  `Request.read` and `Notice.read?` make them of the name of a method
and its parameters; a request that is not understood is a `RequestFault`, and such a notice is
passed over.
-/

namespace SqlLint

/-- What an editor says when it starts the service: the directory of the workspace and the
settings. -/
structure Opening where
  root : Option String
  settings : Option Json

/-- What an editor asks for. -/
inductive Request where
  | start (opening : Opening)
  | shutDown
  | format (uri : Url)
  | formatRange (uri : Url) (range : Range)
  | quickFixes (uri : Url) (diagnostics : List Diagnostic)
  | hover (uri : Url) (position : Position)
  | command (name : String) (arguments : List Json)

/-- What an editor tells. -/
inductive Notice where
  | ready
  | leave
  | opened (document : Document)
  | changed (uri : Url) (version : Int) (changes : List Change)
  | saved (uri : Url) (text : Option String)
  | closed (uri : Url)
  | configured (settings : Json)

/-- Why a request cannot be answered. -/
inductive RequestFault where
  | unknownMethod (name : String)
  | badParameters
  | noFolder
  | noDocument
  | noRule
  | unknownCommand (name : String)
  deriving DecidableEq, Repr

/-- The number for why a request cannot be answered. -/
def RequestFault.code : RequestFault → Int
  | .unknownMethod _ => -32601
  | _ => -32602

/-- The words for why a request cannot be answered. -/
def RequestFault.message : RequestFault → String
  | .unknownMethod name => "method not found: " ++ name
  | .badParameters => "invalid params"
  | .noFolder => "no workspace folder open"
  | .noDocument => "expected a document URI"
  | .noRule => "expected a rule code"
  | .unknownCommand name => "unknown command: " ++ name

/-! ## Parts of parameters -/

/-- A token for progress: a number or a text. -/
def Draft.token? (d : Draft) : Option Unit := (DiagnosticCode.ofDraft? d).map fun _ => ()

/-- A record written by name that may also hold tokens for progress. -/
def Draft.request? (known : List String) (tokens : List String) (d : Draft) : Option Record := do
  let r ← d.namedRecord? (known ++ tokens)
  let _ ← tokens.mapM fun name => r.optional name Draft.token?
  return r

/-- The names of the tokens for progress. -/
def progressToken : String := "workDoneToken"

/-- The name of the token for results that come in parts. -/
def partsToken : String := "partialResultToken"

/-- The URL of the document that a record names. -/
def Record.document? (r : Record) : Option Url :=
  r.required "textDocument" fun d => do (← d.record? ["uri"]).required "uri" Url.ofDraft?

/-- What an editor may say about formatting; none of it is used, but it has to be well formed. -/
def formattingOptions? (d : Draft) : Option Unit := do
  let flags := ["trimTrailingWhitespace", "insertFinalNewline", "trimFinalNewlines"]
  let known := ["tabSize", "insertSpaces"] ++ flags
  let r ← d.namedRecord? known
  let _ ← r.required "tabSize" Draft.nat32?
  let _ ← r.required "insertSpaces" Draft.bool?
  let _ ← flags.mapM fun name => r.optional name Draft.bool?
  let others := r.others known
  let property (d : Draft) : Option Unit := (d.bool?.map fun _ => ()).or d.token?
  let _ ← others.mapM fun (_, d) => property d

/-- A change of a document. -/
def Change.ofDraft? (d : Draft) : Option Change := do
  let r ← d.record? ["range", "rangeLength", "text"]
  let range ← r.optional "range" Range.ofDraft?
  let _ ← r.optional "rangeLength" Draft.nat32?
  return ⟨range, ← r.required "text" Draft.text?⟩

/-- The diagnostics for which quick fixes are asked. -/
def fixContext? (d : Draft) : Option (List Diagnostic) := do
  let r ← d.record? ["diagnostics", "only", "triggerKind"]
  let diagnostics ← r.required "diagnostics" (Draft.list? Diagnostic.ofDraft?)
  let _ ← r.optional "only" (Draft.list? Draft.text?)
  let _ ← r.optional "triggerKind" Draft.int32?
  return diagnostics

/-! ## The opening -/

/-- The URL of a folder of the workspace. -/
def folder? (d : Draft) : Option Url := do
  let r ← d.record? ["uri", "name"]
  let uri ← r.required "uri" Url.ofDraft?
  let _ ← r.required "name" Draft.text?
  return uri

/-- The name and the version of an editor. -/
def clientInfo? (d : Draft) : Option Unit := do
  let r ← d.record? ["name", "version"]
  let _ ← r.required "name" Draft.text?
  let _ ← r.optional "version" Draft.text?

/-- How much an editor wants to be told about the service. -/
def trace? : Draft → Option Unit := Draft.oneOf? [("off", ()), ("messages", ()), ("verbose", ())]

/-- What an editor says when it starts the service.  The directory is that of the first folder, or
else of the root. -/
def Opening.ofDraft? (d : Draft) : Option Opening := do
  let r ← d.request? [
    "processId", "rootPath", "rootUri", "initializationOptions", "capabilities", "trace",
    "workspaceFolders", "clientInfo", "locale"] [progressToken]
  let _ ← r.optional "processId" Draft.nat32?
  let _ ← r.optional "rootPath" Draft.text?
  let rootUri ← r.optional "rootUri" Url.ofDraft?
  let settings ← r.optional "initializationOptions" Draft.settle?
  let _ ← r.required "capabilities" Capabilities.shape.read?
  let _ ← r.optional "trace" trace?
  let folders ← r.optional "workspaceFolders" (Draft.list? folder?)
  let _ ← r.optional "clientInfo" clientInfo?
  let _ ← r.optional "locale" Draft.text?
  let first := (folders.getD []).head?
  return ⟨(first.bind Url.filePath?).or (rootUri.bind Url.filePath?), settings⟩

/-! ## Requests -/

namespace Request

/-- A request to format a document. -/
def formatOf? (d : Draft) : Option Request := do
  let r ← d.request? ["textDocument", "options"] [progressToken]
  let uri ← r.document?
  let _ ← r.required "options" formattingOptions?
  return .format uri

/-- A request to format a range of a document. -/
def formatRangeOf? (d : Draft) : Option Request := do
  let r ← d.request? ["textDocument", "range", "options"] [progressToken]
  let uri ← r.document?
  let range ← r.required "range" Range.ofDraft?
  let _ ← r.required "options" formattingOptions?
  return .formatRange uri range

/-- A request for quick fixes. -/
def quickFixesOf? (d : Draft) : Option Request := do
  let r ← d.request? ["textDocument", "range", "context"] [progressToken, partsToken]
  let uri ← r.document?
  let _ ← r.required "range" Range.ofDraft?
  return .quickFixes uri (← r.required "context" fixContext?)

/-- A request for what is shown at a position. -/
def hoverOf? (d : Draft) : Option Request := do
  let r ← d.request? ["textDocument", "position"] [progressToken]
  return .hover (← r.document?) (← r.required "position" Position.ofDraft?)

/-- A request to carry out a command. -/
def commandOf? (d : Draft) : Option Request := do
  let r ← d.request? ["command", "arguments"] [progressToken]
  let name ← r.required "command" Draft.text?
  return .command name (← r.defaulted "arguments" (Draft.list? Draft.settle?) [])

/-- The request that a method and its parameters make. -/
def read (method : String) (parameters : Draft) : Except RequestFault Request :=
  let checked : Option Request → Except RequestFault Request
    | some request => .ok request
    | none => .error .badParameters
  match method with
  | "initialize" => checked ((Opening.ofDraft? parameters).map .start)
  | "shutdown" => .ok .shutDown
  | "textDocument/formatting" => checked (formatOf? parameters)
  | "textDocument/rangeFormatting" => checked (formatRangeOf? parameters)
  | "textDocument/codeAction" => checked (quickFixesOf? parameters)
  | "textDocument/hover" => checked (hoverOf? parameters)
  | "workspace/executeCommand" => checked (commandOf? parameters)
  | _ => .error (.unknownMethod method)

end Request

/-! ## Notices -/

namespace Notice

/-- The notice that a document was opened. -/
def openedOf? (d : Draft) : Option Notice := do
  let r ← d.record? ["textDocument"]
  r.required "textDocument" fun d => do
    let r ← d.record? ["uri", "languageId", "version", "text"]
    return .opened {
      uri := ← r.required "uri" Url.ofDraft?
      language := ← r.required "languageId" Draft.text?
      version := ← r.required "version" Draft.int32?
      text := ← r.required "text" Draft.text? }

/-- The notice that a document was changed. -/
def changedOf? (d : Draft) : Option Notice := do
  let r ← d.record? ["textDocument", "contentChanges"]
  let (uri, version) ← r.required "textDocument" fun d => do
    let r ← d.record? ["uri", "version"]
    return (← r.required "uri" Url.ofDraft?, ← r.required "version" Draft.int32?)
  return .changed uri version (← r.required "contentChanges" (Draft.list? Change.ofDraft?))

/-- The notice that a document was saved. -/
def savedOf? (d : Draft) : Option Notice := do
  let r ← d.record? ["textDocument", "text"]
  return .saved (← r.document?) (← r.optional "text" Draft.text?)

/-- The notice that a document was closed. -/
def closedOf? (d : Draft) : Option Notice := do
  return .closed (← (← d.record? ["textDocument"]).document?)

/-- The notice that the settings were changed. -/
def configuredOf? (d : Draft) : Option Notice := do
  return .configured (← (← d.record? ["settings"]).required "settings" Draft.settle?)

/-- The notice that a method and its parameters make. -/
def read? (method : String) (parameters : Draft) : Option Notice :=
  match method with
  | "initialized" => some .ready
  | "exit" => some .leave
  | "textDocument/didOpen" => openedOf? parameters
  | "textDocument/didChange" => changedOf? parameters
  | "textDocument/didSave" => savedOf? parameters
  | "textDocument/didClose" => closedOf? parameters
  | "workspace/didChangeConfiguration" => configuredOf? parameters
  | _ => none

end Notice

end SqlLint
