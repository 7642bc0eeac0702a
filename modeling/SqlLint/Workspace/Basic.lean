import SqlLint.Diagnostic.Basic
import SqlLint.Document.Store
import SqlLint.Settings.Variables
import SqlLint.Tool.Registry
import SqlLint.Tool.Version
import SqlLint.Workspace.Log

/-!
# The workspace

`Workspace` is what the service keeps: the settings, the open documents, the running commands, the
files that the tool ignores, and everything it has told the editor, as a list of `Event`s.  What the
editor shows is a view of the events.
-/

namespace SqlLint

/-- How a message is shown to the user. -/
inductive MessageKind where
  | error
  | info
  deriving DecidableEq, Repr

/-- The number that editors use for a kind of message. -/
def MessageKind.code : MessageKind → Int
  | .error => 1
  | .info => 3

/-- What the service tells the editor. -/
inductive Event where
  | published (uri : Url) (diagnostics : List Diagnostic) (version : Option Int)
  | shown (kind : MessageKind) (text : String)
  | sent (message : Json)

/-- What the service keeps. -/
structure Workspace where
  machine : Machine := {}
  config : Config := {}
  documents : Documents := []
  version : Option ToolVersion := none
  ignored : List String := []
  popupShown : Bool := false
  registry : Registry Nat := Registry.empty
  log : OutputLog := .memory []
  events : List Event := []

namespace Workspace

/-- The settings. -/
def settings (w : Workspace) : Settings := w.config.settings

/-! ## Telling -/

/-- The workspace after something was told to the editor. -/
def tell (w : Workspace) (e : Event) : Workspace := { w with events := w.events ++ [e] }

/-- The workspace after diagnostics were published. -/
def publish (w : Workspace) (uri : Url) (diagnostics : List Diagnostic) (version : Option Int) :
    Workspace :=
  w.tell (.published uri diagnostics version)

/-- The workspace after a message was shown. -/
def showMessage (w : Workspace) (kind : MessageKind) (text : String) : Workspace :=
  w.tell (.shown kind text)

/-- The workspace after an error was shown, unless the settings suppress notifications. -/
def complain (w : Workspace) (s : Settings) (text : String) : Workspace :=
  if s.suppressNotifications then w else w.showMessage .error text

/-- The workspace after lines were noted in the log. -/
def note (w : Workspace) (lines : List String) : Workspace :=
  lines.foldl (fun w line =>
    let (log, machine) := w.log.append w.machine line
    { w with log, machine }) w

/-! ## Views -/

/-- The diagnostics last published for a URL. -/
def published? (w : Workspace) (uri : Url) : Option (List Diagnostic) :=
  w.events.reverse.findSome? fun
    | .published u diagnostics _ => if u = uri then some diagnostics else none
    | _ => none

/-- The URLs for which diagnostics were published, each once. -/
def publishedUrls (w : Workspace) : List Url :=
  (w.events.filterMap fun
    | .published u _ _ => some u
    | _ => none).eraseDups

/-- How often diagnostics were published. -/
def publishCount (w : Workspace) : Nat :=
  (w.events.filter fun
    | .published _ _ _ => true
    | _ => false).length

/-! ## Settings -/

/-- The workspace with a new configuration, and whether the program has another name in it. -/
def configure (w : Workspace) (c : Config) : Bool × Workspace :=
  (w.config.executable ≠ c.executable, { w with config := c })

/-- The workspace with other settings. -/
def withSettings (w : Workspace) (s : Settings) : Workspace :=
  { w with config := { w.config with settings := s } }

end Workspace

end SqlLint
