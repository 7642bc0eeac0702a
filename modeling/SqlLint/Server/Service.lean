import SqlLint.Action.Hover
import SqlLint.Lint.Settle
import SqlLint.Server.Message
import SqlLint.Settings.Json
import SqlLint.Workspace.Format
import SqlLint.Workspace.Probe

/-!
# The service

`Service` answers the editor.  `Service.answer` carries out a request and `Service.heed` takes
notice of something; `Service.receive` does so with a message and tells whether the service goes on.
`Service.serve` reads a whole stream of messages.
-/

namespace SqlLint

/-- What the command line lays down over the settings. -/
structure Overrides where
  executable : Option String := none
  directory : Option String := none
  deriving DecidableEq, Repr

/-- The settings with what the command line lays down. -/
def Overrides.apply (o : Overrides) (s : Settings) : Settings :=
  { s with
    executablePath := o.executable.getD s.executablePath
    workingDirectory := o.directory.getD s.workingDirectory }

/-- The linter, what the command line laid down, the directory of the workspace, and the number of
the next request to the editor. -/
structure Service where
  linter : Linter := {}
  overrides : Overrides := {}
  root : Option String := none
  nextRequest : Nat := 1000000

/-- Whether the service goes on after a message. -/
inductive Flow where
  | goOn
  | leave
  deriving DecidableEq, Repr

namespace Service

/-! ## Parts -/

/-- The workspace. -/
def workspace (s : Service) : Workspace := s.linter.workspace

/-- The settings. -/
def settings (s : Service) : Settings := s.workspace.settings

/-- The service with its linter changed. -/
def modifyLinter (s : Service) (f : Linter → Linter) : Service := { s with linter := f s.linter }

/-- The service with its workspace changed. -/
def modify (s : Service) (f : Workspace → Workspace) : Service :=
  s.modifyLinter fun l => l.modify f

/-- The service with its linter in another workspace. -/
def withWorkspace (s : Service) (w : Workspace) : Service := s.modify fun _ => w

/-- A message is sent to the editor. -/
def send (s : Service) (message : Json) : Service := s.modify fun w => w.tell (.sent message)

/-- The configuration that settings make in the workspace. -/
def configOf (s : Service) (settings : Settings) : Config :=
  ⟨settings, .ofWorkspace (s.workspace.machine.valueOf? "HOME") s.root⟩

/-- The settings in a value, or else the usual ones, with what the command line laid down. -/
def settingsOf (s : Service) (value : Option Json) : Settings :=
  s.overrides.apply ((value.bind Settings.ofJson?).getD {})

/-- The service on a machine before the first message. -/
def launch (machine : Machine) (log : OutputLog) (overrides : Overrides) : Service :=
  let s : Service := { overrides }
  let s := s.modify fun w => { w with machine, log }
  s.modify fun w => { w with config := s.configOf (overrides.apply ({} : Settings)) }

/-! ## The beginning -/

/-- The names of the commands that the service carries out. -/
def commands : List String :=
  [ "sqlfluff.lint", "sqlfluff.lintProject", "sqlfluff.format", "sqlfluff.debug",
    "sqlfluff.showOutput", QuickFix.excludeGlobally, QuickFix.excludeInWorkspace ]

/-- What the service can do. -/
def capabilities : Json :=
  .object [
    ("textDocumentSync", .object [
      ("openClose", .bool true), ("change", .nat 2),
      ("save", .object [("includeText", .bool true)])]),
    ("hoverProvider", .bool true),
    ("documentFormattingProvider", .bool true),
    ("documentRangeFormattingProvider", .bool true),
    ("codeActionProvider", .object [("codeActionKinds", .strings ["quickfix"])]),
    ("executeCommandProvider", .object [("commands", .strings commands)]) ]

/-- The name of the service. -/
def name : String := "sqlfluff_ls"

/-- The version of the service. -/
def version : String := "0.1.0"

/-- What the service says about itself. -/
def introduction : Json :=
  .object [
    ("capabilities", capabilities),
    ("serverInfo", .object [("name", .str name), ("version", .str version)])]

/-- The editor starts the service. -/
def start (s : Service) (o : Opening) : Service :=
  let s := { s with root := o.root }
  s.modify fun w => (w.configure (s.configOf (s.settingsOf o.settings))).2

/-- The files of the workspace are linted, unless linting is off and it is not forced. -/
def lintRoot (s : Service) (root : String) (force : Bool) : Service :=
  s.modifyLinter fun l => (l.startProject root force).getD l

/-- The files of the workspace are linted if the settings say so. -/
def lintProjectIfEnabled (s : Service) : Service :=
  if s.settings.linter.lintEntireProject then
    match s.root with
    | some root => s.lintRoot root false
    | none => s
  else s

/-- The editor is ready. -/
def ready (s : Service) : Service := (s.modify Workspace.refreshVersion).lintProjectIfEnabled

/-- The settings were changed: open documents are linted anew, after the time that they say. -/
def configured (s : Service) (value : Json) : Service :=
  if value.isNull then s
  else
    let (renamed, w) := s.workspace.configure (s.configOf (s.settingsOf (some value)))
    let s := s.withWorkspace (if renamed then w.refreshVersion else w)
    (s.modifyLinter fun l => l.reset.lintOpen false).lintProjectIfEnabled

/-- All running commands are killed. -/
def killAll (s : Service) : Service :=
  s.modify fun w => { w with
    machine := w.registry.children.foldl Machine.kill w.machine
    registry := w.registry.clear }

/-! ## Formatting -/

/-- The user is told why a document was not formatted, where that is of interest. -/
def report (s : Service) (e : FormatError) : Service :=
  match e with
  | .disabled | .unknownDocument _ | .commandFailed => s
  | e => s.modify fun w => w.complain w.settings e.message

/-- The document is open and its language is formatted. -/
def formats (s : Service) (uri : Url) : Bool :=
  (s.workspace.documents.get? uri).any fun d => s.settings.formats d.language

/-- The edits that format a document or a range of it. -/
def format (s : Service) (uri : Url) (range : Option Range) : Json × Service :=
  if ! s.formats uri then (.arr [], s)
  else
    let (outcome, w) := match range with
      | some range => s.workspace.formatRange uri range
      | none => s.workspace.formatDocument uri
    let s := s.withWorkspace w
    match outcome with
    | .ok edits => (.list Edit.json edits, s)
    | .error e => (.arr [], s.report e)

/-! ## Commands -/

/-- The request that the editor make edits of a document. -/
def editRequest (id : Nat) (uri : Url) (edits : List Edit) : Json :=
  Message.ask id "workspace/applyEdit" (.object [
    ("label", .str "SQLFluff Format"),
    ("edit", .object [("changes", .object [(uri.text, .list Edit.json edits)])])])

/-- The editor is asked to format a document. -/
def formatCommand (s : Service) (uri : Url) : Service :=
  let (outcome, w) := s.workspace.formatDocument uri
  let s := s.withWorkspace w
  match outcome with
  | .error e => s.report e
  | .ok [] => s
  | .ok edits =>
    { s.send (editRequest s.nextRequest uri edits) with nextRequest := s.nextRequest + 1 }

/-- The setup is checked and the user is told the outcome. -/
def debugCommand (s : Service) : Json × Service :=
  let (checkup, w) := s.workspace.check
  let failed := match checkup.failure? with
    | some check => check.name ++ ": " ++ check.detail
    | none => ""
  let w :=
    if checkup.isOk then w.showMessage .info "SQLFluff setup looks good."
    else w.showMessage .error ("SQLFluff setup check failed (" ++ failed ++ ").")
  (checkup.json, s.withWorkspace w)

/-- The user is told where the log is. -/
def showOutputCommand (s : Service) : Json × Service :=
  let path := s.workspace.log.path?
  let text := match path with
    | some path => "SQLFluff output log: " ++ path
    | none => "SQLFluff output log is disabled."
  (.object [("path", .ofOption .str path)], s.modify fun w => w.showMessage .info text)

/-- A rule is excluded from now on. -/
def excludeCommand (s : Service) (rule : String) : Json × Service :=
  let s := match s.settings.excludeRule? rule with
    | some settings =>
      (s.modify fun w => w.withSettings settings).modifyLinter fun l => l.lintOpen false
    | none => s
  (.strings s.settings.excludeRules, s)

/-- The document that the first argument names, alone or in an object. -/
def documentOf? (arguments : List Json) : Option Url := do
  let first ← arguments.head?
  Url.parse? (← first.str?.or ((first.get? "uri").bind Json.str?))

/-- A command is carried out. -/
def command (s : Service) (name : String) (arguments : List Json) :
    Except RequestFault Json × Service :=
  let excluding : Except RequestFault Json × Service :=
    match arguments.head?.bind Json.str? with
    | some rule =>
      let (rules, s) := s.excludeCommand rule
      (.ok rules, s)
    | none => (.error .noRule, s)
  match name with
  | "sqlfluff.lint" =>
    (.ok .null, s.modifyLinter fun l => match documentOf? arguments with
      | some uri => l.forced uri
      | none => l.lintOpen true)
  | "sqlfluff.lintProject" =>
    match s.root with
    | some root => (.ok .null, s.lintRoot root true)
    | none => (.error .noFolder, s)
  | "sqlfluff.format" =>
    match documentOf? arguments with
    | some uri => (.ok .null, s.formatCommand uri)
    | none => (.error .noDocument, s)
  | "sqlfluff.debug" =>
    let (checkup, s) := s.debugCommand
    (.ok checkup, s)
  | "sqlfluff.showOutput" =>
    let (path, s) := s.showOutputCommand
    (.ok path, s)
  | "sqlfluff.quickfix.excludeRule" => excluding
  | "sqlfluff.quickfix.excludeRuleWorkspace" => excluding
  | name => (.error (.unknownCommand name), s)

/-! ## Messages -/

/-- A request is carried out. -/
def answer (s : Service) (r : Request) : Except RequestFault Json × Service :=
  match r with
  | .start opening => (.ok introduction, s.start opening)
  | .shutDown => (.ok .null, s.killAll)
  | .format uri =>
    let (edits, s) := s.format uri none
    (.ok edits, s)
  | .formatRange uri range =>
    let (edits, s) := s.format uri (some range)
    (.ok edits, s)
  | .quickFixes uri diagnostics =>
    match s.workspace.documents.get? uri with
    | some d => (.ok (.list QuickFix.json (quickFixes d diagnostics s.settings)), s)
    | none => (.ok (.arr []), s)
  | .hover uri position =>
    let shown := (s.workspace.documents.get? uri).bind fun d =>
      hover? d ((s.workspace.published? uri).getD []) position
    (.ok (.ofOption hoverJson shown), s)
  | .command name arguments => s.command name arguments

/-- The documents are changed, and then the linter is told. -/
def documentEvent (s : Service) (change : Documents → Documents) (event : Linter → Linter) :
    Service :=
  (s.modify fun w => { w with documents := change w.documents }).modifyLinter event

/-- The service takes notice. -/
def heed (s : Service) (n : Notice) : Flow × Service :=
  match n with
  | .ready => (.goOn, s.ready)
  | .leave => (.leave, s.killAll)
  | .opened d => (.goOn, s.documentEvent (·.open_ d) (·.opened d.uri))
  | .changed uri version changes =>
    (.goOn, s.documentEvent (·.change uri version changes) (·.changed uri))
  | .saved uri text => (.goOn, s.documentEvent (·.save uri text) (·.saved uri))
  | .closed uri => (.goOn, s.documentEvent (·.close uri) (·.closed uri))
  | .configured settings => (.goOn, s.configured settings)

/-- A message arrives: a request is answered, and of a notice the service takes notice. -/
def receive (s : Service) (message : Message) : Flow × Service :=
  match message with
  | .other => (.goOn, s)
  | .request id method parameters =>
    let (outcome, s) := match Request.read method parameters.draft with
      | .ok request => s.answer request
      | .error fault => (.error fault, s)
    (.goOn, s.send (match outcome with
      | .ok result => Message.answer id result
      | .error fault => Message.refusal id fault))
  | .notice method parameters =>
    match Notice.read? method parameters.draft with
    | some notice => s.heed notice
    | none => (.goOn, s)

/-- Messages are received in their order, until one that ends the service. -/
def receiveAll (s : Service) : List Json → Flow × Service
  | [] => (.goOn, s)
  | j :: js =>
    match s.receive (.ofJson j) with
    | (.goOn, s) => receiveAll s js
    | (.leave, s) => (.leave, s)

/-- A stream of messages is read to its end or to the message that ends the service.  Bodies that
are no JSON are passed over; a fault in the frames is an error. -/
def serve (s : Service) (stream : List UInt8) : Option FrameFault × Service :=
  let (bodies, fault, _) := Frame.readAll stream s.workspace.machine.memory
  match s.receiveAll (bodies.filterMap Json.parseBytes?) with
  | (.leave, s) => (none, s.killAll)
  | (.goOn, s) =>
    match fault with
    | some fault => (some fault, s)
    | none => (none, s.killAll)

end Service

end SqlLint
