import SqlLint.Path
import SqlLint.Text.Lines
import SqlLint.Url.Percent

/-!
# URLs

A `Url` is kept in its normal form: the scheme and the host in lower case, no dots among the parts
of the path, every part percent encoded.  `Url.text` writes it, `Url.filePath?` is the path of the
file that a URL names, `Url.diskPath?` the same where it stands for bytes, and `Url.ofFilePath?` the
URL of a file.
-/

namespace SqlLint

/-- Who answers for a URL: the host, with the user and the port if they are given. -/
structure Authority where
  user : String := ""
  password : Option String := none
  host : String := ""
  port : Option Nat := none
  deriving DecidableEq, Repr, Inhabited

/-- A URL in normal form. -/
structure Url where
  scheme : String
  authority : Option Authority := none
  path : String := ""
  query : Option String := none
  fragment : Option String := none
  deriving DecidableEq, Repr, Inhabited

/-- The authority as it is written in a URL. -/
def Authority.text (a : Authority) : String :=
  let user := a.user ++ (a.password.map (":" ++ ·)).getD ""
  (if user.isEmpty then "" else user ++ "@") ++ a.host ++
    (a.port.map fun p => ":" ++ toString p).getD ""

namespace Url

open Text

/-- The text of a URL. -/
def text (u : Url) : String :=
  let hierarchy := match u.authority with
    | some a => "//" ++ a.text
    | none => if u.path.toList.take 2 = ['/', '/'] then "/." else ""
  u.scheme ++ ":" ++ hierarchy ++ u.path ++ (u.query.map ("?" ++ ·)).getD "" ++
    (u.fragment.map ("#" ++ ·)).getD ""

/-- The URL has no host, or the local one. -/
def isLocal (u : Url) : Bool :=
  match u.authority with
  | none => true
  | some a => a.host.isEmpty || a.host == "localhost"

/-- The bytes end in a letter and a colon or a bar, the name of a drive. -/
def endsInDrive (bytes : List UInt8) : Bool :=
  match bytes.reverse with
  | mark :: letter :: _ :: _ =>
    (Char.ofNat letter.toNat).isAlpha && letter.toNat < 0x80 &&
      (mark.toNat == ':'.toNat || mark.toNat == '|'.toNat)
  | _ => false

/-- The bytes of the path of the file that the URL names; the name of a drive is followed by a
slash. -/
def fileBytes? (u : Url) : Option (List UInt8) :=
  if u.path.toList.head? = some '/' ∧ u.isLocal then
    let bytes := decode u.path.toList
    some (if endsInDrive bytes then bytes ++ Utf8.encode "/" else bytes)
  else none

/-- The path of the file that the URL names, as a text for people and programs. -/
def filePath? (u : Url) : Option String := u.fileBytes?.map Utf8.lossyString

/-- The path of the file that the URL names, as the files know it: a name that is not text differs
there from every name that is. -/
def diskPath? (u : Url) : Option String := u.fileBytes?.map fun bytes =>
  joinStrings "/" ((pieces (· == 0x2F) bytes).map Utf8.nameOf)

/-- A component of a path as a segment of a URL. -/
def segment (c : Component) : List Char := encodeWith inSegment c.text.toList

/-- The URL of the file at an absolute path. -/
def ofFilePath? (path : String) : Option Url :=
  if Path.isAbsolute path then
    let segments := (Path.components path).drop 1
    let text := if segments = [] then ['/'] else segments.flatMap fun c => '/' :: segment c
    some ⟨"file", some {}, String.ofList text, none, none⟩
  else none

end Url

end SqlLint
