import SqlLint.Url.Basic
import SqlLint.Url.Host

/-!
# Reading URLs

`Url.parse` reads the text of a URL and puts it in normal form.  The schemes of the web have a
host and take backslashes for slashes, those of files may leave the host out, and any other scheme
may have a path that is plain text.  `Url.withParameters` reads a URL and appends parameters to its
query.
-/

namespace SqlLint.Url

open Text

/-- What a scheme is for. -/
inductive SchemeKind where
  | web
  | file
  | other
  deriving DecidableEq, Repr

/-- The port that a scheme of the web uses unless another one is given. -/
def defaultPort? (scheme : String) : Option Nat :=
  [("http", 80), ("https", 443), ("ws", 80), ("wss", 443), ("ftp", 21)].lookup scheme

/-- The kind of a scheme. -/
def schemeKind (scheme : String) : SchemeKind :=
  if scheme = "file" then .file
  else if (defaultPort? scheme).isSome then .web
  else .other

/-- A slash, or a backslash where it counts as one. -/
def isSlash (kind : SchemeKind) (c : Char) : Bool := c == '/' || (kind != .other && c == '\\')

/-- The end of a path: the query or the fragment begins. -/
def endsPath (c : Char) : Bool := c == '?' || c == '#'

/-- A tab or a line end, which does not count in a URL. -/
def isBreak (c : Char) : Bool := c == '\t' || c == '\n' || c == '\r'

/-- The text without tabs and line ends. -/
def unbroken (cs : List Char) : List Char := cs.filter (! isBreak ·)

/-- The text without the blanks and control characters around it. -/
def trimmed (cs : List Char) : List Char :=
  let isEdge (c : Char) : Bool := c.toNat ≤ 0x20
  ((cs.dropWhile isEdge).reverse.dropWhile isEdge).reverse

/-- The scheme at the start of a text, in lower case, and the text after its colon. -/
def scheme? (cs : List Char) : Option (String × List Char) :=
  let isSchemeChar (c : Char) : Bool := c.isAlphanum || "+-.".contains c
  match cs.head?, cs.dropWhile isSchemeChar with
  | some c, ':' :: rest =>
    if c.isAlpha then some (String.ofList ((cs.takeWhile isSchemeChar).map Char.toLower), rest)
    else none
  | _, _ => none

/-! ## Paths -/

/-- The segments of a path that goes one level up. -/
def isDoubleDot (segment : List Char) : Bool :=
  ["..", "%2e.", ".%2e", "%2e%2e"].contains (String.ofList (segment.map Char.toLower))

/-- The segments of a path that stay at their level. -/
def isSingleDot (segment : List Char) : Bool :=
  [".", "%2e"].contains (String.ofList (segment.map Char.toLower))

/-- A letter and a colon or a bar. -/
def isDrive (segment : List Char) : Bool :=
  match segment with
  | [c, mark] => c.isAlpha && (mark == ':' || mark == '|')
  | _ => false

/-- The segments without the last one, unless it is a drive; the last one comes first. -/
def climb (front : List (List Char)) : List (List Char) :=
  match front with
  | [] => []
  | segment :: above => if isDrive segment then segment :: above else above

/-- The segments in front, last one first, with one more segment after them. -/
def pushSegment (isLast : Bool) (front : List (List Char)) (segment : List Char) :
    List (List Char) :=
  if isDoubleDot segment then if isLast then [] :: climb front else climb front
  else if isSingleDot segment then if isLast then [] :: front else front
  else segment :: front

/-- A drive and what follows it, if a tab or a line end stands between them. -/
def brokenDrive? (piece : List Char) : Option (List Char × List Char) :=
  match unbroken piece with
  | c :: ':' :: d :: rest =>
    let isBroken := ((piece.dropWhile (· ≠ ':')).drop 1).head?.any isBreak
    if c.isAlpha && isBroken then some ([c, ':'], d :: rest) else none
  | _ => none

/-- The segments in front, last one first, with the one after them that a text between two slashes
writes; in the path of a file a drive and what follows it in the text are two segments. -/
def pushPiece (kind : SchemeKind) (isLast : Bool) (front : List (List Char)) (piece : List Char) :
    List (List Char) :=
  match if kind = .file ∧ front = [] then brokenDrive? piece else none with
  | some (drive, rest) => [encodeWith inPath rest, drive]
  | none => pushSegment isLast front (encodeWith inPath (unbroken piece))

/-- The segments of a path without dots among them, last one first. -/
def normalSegments (kind : SchemeKind) (front : List (List Char)) :
    List (List Char) → List (List Char)
  | [] => front
  | [piece] => pushPiece kind true front piece
  | piece :: rest => normalSegments kind (pushPiece kind false front piece) rest

/-- The normal form of the path that begins after its first slash. -/
def normalPath (kind : SchemeKind) (cs : List Char) : List Char :=
  let path := join ['/'] (normalSegments kind [] (pieces (isSlash kind) cs)).reverse
  '/' :: if kind = .file then path.dropWhile (· == '/') else path

/-! ## Hosts -/

/-- The characters up to the last at sign, if there is one, and those after it. -/
def splitUser? (cs : List Char) : Option (List Char × List Char) :=
  if cs.contains '@' then
    let host := (cs.reverse.takeWhile (· != '@')).reverse
    some (cs.take (cs.length - host.length - 1), host)
  else none

/-- The length of the host at the start of a text: a colon inside brackets belongs to it. -/
def hostLength (inBrackets : Bool) : List Char → Nat
  | [] => 0
  | c :: cs =>
    if c = ':' ∧ ¬ inBrackets then 0
    else hostLength (if c = '[' then true else if c = ']' then false else inBrackets) cs + 1

/-- The port that a text after the host writes and what is left of the text; no port if it is the
one of the scheme or not given. -/
def readPort (scheme : String) (cs : List Char) : Except Fault (Option Nat × List Char) :=
  let digits := cs.takeWhile Char.isDigit
  let rest := cs.drop digits.length
  if rest ≠ [] ∧ rest.head? ≠ some '\\' then .error .badPort
  else if digits = [] then .ok (none, rest)
  else match decimal? 0x10000 digits with
    | none => .error .badPort
    | some n => .ok (if defaultPort? scheme = some n then none else some n, rest)

/-- The authority that a text between the slashes and the path writes, and what is left of the text
after the port; `isAll` says that nothing follows the text. -/
def readAuthority (scheme : String) (kind : SchemeKind) (isAll : Bool) (cs : List Char) :
    Except Fault (Authority × List Char) := do
  let (given, user, password, rest) ← match splitUser? cs with
    | none => pure (false, "", none, cs)
    | some ([], rest) =>
      if rest = [] ∧ ¬ isAll then .error .emptyHost else pure (false, "", none, rest)
    | some (info, rest) =>
      let name := String.ofList (encodeWith inUser (info.takeWhile (· != ':')))
      let secret := encodeWith inUser ((info.dropWhile (· != ':')).drop 1)
      pure (info ≠ [':'], name, if secret = [] then none else some (String.ofList secret), rest)
  let length := hostLength false rest
  let name := rest.take length
  let after := rest.drop length
  if name = [] ∧ (kind = .web ∨ after ≠ [] ∨ given) then .error .emptyHost
  let host ← if kind = .web then specialHost name else plainHost name
  let (port, left) ← readPort scheme (after.drop 1)
  return (⟨user, password, String.ofList host, port⟩, left)

/-- The host of a file: none if it is the local one. -/
def fileHost (cs : List Char) : Except Fault String := do
  if cs = [] then return ""
  let host ← specialHost cs
  return if host = "localhost".toList then "" else String.ofList host

/-! ## URLs -/

/-- The query and the fragment that follow a path. -/
def endings (kind : SchemeKind) (cs : List Char) : Option String × Option String :=
  let beforeHash := cs.takeWhile (· != '#')
  let afterHash := cs.drop beforeHash.length
  let fragment := afterHash.tail?.map fun f => String.ofList (encodeWith inFragment f)
  let set := if kind = .other then inQuery else inSpecialQuery
  (beforeHash.tail?.map fun q => String.ofList (encodeWith set q), fragment)

/-- A URL from its parts and the text after its path. -/
def withEndings (scheme : String) (kind : SchemeKind) (a : Option Authority)
    (path rest : List Char) : Url :=
  let (query, fragment) := endings kind rest
  ⟨scheme, a, String.ofList path, query, fragment⟩

/-- The path at the start of a text and the text after it. -/
def splitPath (cs : List Char) : List Char × List Char :=
  (cs.takeWhile (! endsPath ·), cs.dropWhile (! endsPath ·))

/-- A path without its first slash. -/
def afterSlash (kind : SchemeKind) (cs : List Char) : List Char :=
  match cs with
  | c :: rest => if isSlash kind c then rest else c :: rest
  | [] => []

/-- The URL of a scheme with a host, from the text after the slashes. -/
def hosted (scheme : String) (kind : SchemeKind) (cs : List Char) : Except Fault Url := do
  let isEnd (c : Char) : Bool := isSlash kind c || endsPath c
  let after := cs.dropWhile (! isEnd ·)
  let (a, left) ← readAuthority scheme kind after.isEmpty (cs.takeWhile (! isEnd ·))
  let (path, rest) := splitPath (left ++ after)
  let path := if path = [] ∧ kind = .other then [] else normalPath kind (afterSlash kind path)
  return withEndings scheme kind (some a) path rest

/-! ## Files -/

/-- The URL of a file, from its host, the path after the first slash and the text after that. -/
def fileUrl (host : String) (path ends : List Char) : Url :=
  withEndings "file" .file (some { host }) (normalPath .file path) (unbroken ends)

/-- The first segment of a path. -/
def firstSegment (path : List Char) : List Char := path.takeWhile (! isSlash .file ·)

/-- The URL of a file whose path is not written with its first slash: a drive at its start has a
colon, and makes the host not count. -/
def rootedUrl (host : String) (path ends : List Char) : Url :=
  let first := firstSegment path
  match unbroken first with
  | [c, mark] =>
    if isDrive [c, mark] then fileUrl "" (c :: ':' :: path.drop first.length) ends
    else fileUrl host path ends
  | _ => fileUrl host path ends

/-- The text after the two slashes that a text begins with. -/
def afterTwoSlashes? (cs : List Char) : Option (List Char) :=
  match cs.dropWhile isBreak with
  | a :: rest =>
    match rest.dropWhile isBreak with
    | b :: rest => if isSlash .file a && isSlash .file b then some rest else none
    | [] => none
  | [] => none

/-- The URL of a file, from the text after the colon. -/
def ofFile (cs : List Char) : Except Fault Url := do
  match afterTwoSlashes? cs with
  | some rest =>
    let isEnd (c : Char) : Bool := isSlash .file c || endsPath c
    let name := rest.takeWhile (! isEnd ·)
    let (path, ends) := splitPath (rest.dropWhile (! isEnd ·))
    if isDrive (unbroken name) then return rootedUrl "" (name ++ path) ends
    else
      let host ← fileHost (unbroken name)
      if host.isEmpty then return fileUrl "" (afterSlash .file path) ends
      else return rootedUrl host (afterSlash .file path) ends
  | none =>
    let (path, ends) := splitPath (cs.dropWhile isBreak)
    if path.head?.any (isSlash .file) then return fileUrl "" (afterSlash .file path) ends
    else return rootedUrl "" path ends

/-! ## All schemes -/

/-- The URL of a scheme that need not have a host, from the text after the colon. -/
def ofOther (scheme : String) (cs : List Char) : Except Fault Url := do
  match cs with
  | '/' :: '/' :: rest => hosted scheme .other rest
  | _ =>
    let (path, ends) := splitPath cs
    let path := match path with
      | '/' :: inner => normalPath .other inner
      | plain => encodeWith isControl plain
    return withEndings scheme .other none path ends

/-- The URL that a text writes. -/
def parse (s : String) : Except Fault Url :=
  let cs := trimmed s.toList
  match scheme? (unbroken cs) with
  | none => .error .relative
  | some (scheme, rest) =>
    match schemeKind scheme with
    | .file => ofFile ((cs.dropWhile (· ≠ ':')).drop 1)
    | .web => hosted scheme .web (rest.dropWhile (isSlash .web))
    | .other => ofOther scheme rest

/-- The URL that a text writes. -/
def parse? (s : String) : Option Url := (parse s).toOption

/-- The URL with parameters appended to its query. -/
def addParameters (u : Url) (parameters : List (String × String)) : Url :=
  let pairs := parameters.map fun (k, v) => formEncode k ++ '=' :: formEncode v
  let query := (u.query.getD "").toList
  let parts := (if query = [] then [] else [query]) ++ pairs
  { u with query := some (String.ofList (join ['&'] parts)) }

/-- The URL that a text writes, with parameters appended to its query. -/
def withParameters? (s : String) (parameters : List (String × String)) : Option Url :=
  (parse? s).map (addParameters · parameters)

end SqlLint.Url
