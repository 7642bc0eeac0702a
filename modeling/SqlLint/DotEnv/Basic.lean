import SqlLint.Text.Blank
import SqlLint.Text.Letter
import SqlLint.Text.Lines
import SqlLint.Text.Utf8

/-!
# Environment files

A file of variables holds definitions `NAME=value`, one on a line; a quote that is open at the end
of a line goes on in the next one.  Values may be quoted, hold escapes and refer to variables of
the environment or to earlier definitions.  `DotEnv.entries` reads a file: it gives the definitions
in their order and `none` for each one that is malformed.
-/

namespace SqlLint.DotEnv

open Text

/-! ## Lines -/

/-- Where a reader of lines is. -/
inductive LinePlace where
  | value
  | escape
  | blank
  | strong
  | strongEscape
  | weak
  | weakEscape
  deriving DecidableEq, Repr

/-- The place after a character outside of quotes. -/
def outside (c : Char) : LinePlace :=
  if c = '\\' then .escape else if c = '"' then .weak else if c = '\'' then .strong else .value

/-- The place after a character; none where a comment begins. -/
def LinePlace.next? (p : LinePlace) (c : Char) : Option LinePlace :=
  match p with
  | .value => some (if isBlank c ∧ c ≠ '\n' ∧ c ≠ '\r' then .blank else outside c)
  | .blank => if c = '#' then none else some (outside c)
  | .escape => some .value
  | .strong => some (if c = '\\' then .strongEscape else if c = '\'' then .value else .strong)
  | .strongEscape => some .strong
  | .weak => some (if c = '\\' then .weakEscape else if c = '"' then .value else .weak)
  | .weakEscape => some .weak

/-- The text up to a comment, and the place after it unless a comment began. -/
def scanLine (p : LinePlace) : List Char → List Char × Option LinePlace
  | [] => ([], some p)
  | c :: cs =>
    match p.next? c with
    | none => ([], none)
    | some q => (c :: (scanLine q cs).1, (scanLine q cs).2)

/-- The bytes of each line with the line feed that ends it. -/
def byteLines : List UInt8 → List (List UInt8)
  | [] => []
  | b :: bs =>
    if b = 10 then [b] :: byteLines bs
    else match byteLines bs with
      | [] => [[b]]
      | l :: ls => (b :: l) :: ls

/-- The line without its line feed and the carriage return before it. -/
def withoutEnd (cs : List Char) : List Char :=
  if cs.getLast? = some '\n' then stripReturn cs.dropLast else cs

/-- The lines that definitions stand on, those that a quote joins put together; none for a line
that is not text and for one that is not finished.  `begun` is the part of a line that goes on. -/
def joinedLines (begun : List Char) (p : LinePlace) : List (List UInt8) → List (Option (List Char))
  | [] => if p = .value then [] else [none]
  | bytes :: rest =>
    match Utf8.strict? bytes with
    | none => none :: joinedLines [] .value rest
    | some line =>
      if (trimStart (begun ++ line.toList)).head? = some '#' then
        some [] :: joinedLines [] .value rest
      else
        let (read, place) := scanLine p line.toList
        match place with
        | none => some (begun ++ read) :: joinedLines [] .value rest
        | some .value => some (withoutEnd (begun ++ line.toList)) :: joinedLines [] .value rest
        | some q => joinedLines (begun ++ line.toList) q rest

/-! ## Values -/

/-- The values that a definition may refer to. -/
structure Scope where
  environment : List (String × String)
  defined : List (String × String) := []

/-- The value of a variable: that of the environment, or else the last definition, or nothing. -/
def Scope.value (s : Scope) (name : List Char) : List Char :=
  let name := String.ofList name
  (((s.environment.lookup name).or (s.defined.lookup name)).getD "").toList

/-- Where a reader of a value is; a name that is read is given with the place it stands in. -/
inductive ValuePlace where
  | plain
  | weak
  | strong
  | escape (inWeak : Bool)
  | name (inWeak : Bool) (read : List Char)
  | braced (inWeak : Bool) (read : List Char)
  | over
  deriving DecidableEq, Repr

/-- The place between names and escapes. -/
def base (inWeak : Bool) : ValuePlace := if inWeak then .weak else .plain

/-- The character that an escape stands for. -/
def escaped? (c : Char) : Option Char :=
  if "\\'\"$ ".contains c then some c else if c = 'n' then some '\n' else none

/-- The value that a text writes, from a place in it; none if it is malformed. -/
def readValue? (s : Scope) : ValuePlace → List Char → Option (List Char)
  | .plain, [] => some []
  | .over, [] => some []
  | .escape false, [] => some []
  | .name false read, [] => some (s.value read)
  | .weak, [] => none
  | .strong, [] => none
  | .escape true, [] => none
  | .name true _, [] => none
  | .braced _ _, [] => none
  | .over, c :: cs =>
    if c = ' ' ∨ c = '\t' then readValue? s .over cs else if c = '#' then some [] else none
  | .escape w, c :: cs => do
    let e ← escaped? c
    return e :: (← readValue? s (base w) cs)
  | .strong, c :: cs =>
    if c = '\'' then readValue? s .plain cs else (readValue? s .strong cs).map (c :: ·)
  | .name w read, c :: cs =>
    if isLetterOrNumber c then readValue? s (.name w (read ++ [c])) cs
    else if c = '\x7b' ∧ read = [] then readValue? s (.braced w []) cs
    else if c = '$' then (readValue? s (.name w []) cs).map (s.value read ++ ·)
    else (readValue? s (base w) cs).map fun rest => s.value read ++ c :: rest
  | .braced w read, c :: cs =>
    if c = '\x7d' then (readValue? s (base w) cs).map (s.value read ++ ·)
    else readValue? s (.braced w (read ++ [c])) cs
  | .weak, c :: cs =>
    if c = '$' then readValue? s (.name true []) cs
    else if c = '"' then readValue? s .plain cs
    else if c = '\\' then readValue? s (.escape true) cs
    else (readValue? s .weak cs).map (c :: ·)
  | .plain, c :: cs =>
    if c = '$' then readValue? s (.name false []) cs
    else if c = '\'' then readValue? s .strong cs
    else if c = '"' then readValue? s .weak cs
    else if c = '\\' then readValue? s (.escape false) cs
    else if c = ' ' ∨ c = '\t' then readValue? s .over cs
    else (readValue? s .plain cs).map (c :: ·)

/-! ## Definitions -/

/-- The name at the start of a text and the text after it. -/
def name? (cs : List Char) : Option (List Char × List Char) :=
  let isNameChar (c : Char) : Bool := c.isAlphanum || c == '_' || c == '.'
  match cs with
  | c :: _ => if c.isAlpha ∨ c = '_' then some (cs.takeWhile isNameChar, cs.dropWhile isNameChar)
    else none
  | [] => none

/-- The text after the equals sign that a text begins with. -/
def afterEquals? (cs : List Char) : Option (List Char) :=
  match trimStart cs with
  | '=' :: rest => some rest
  | _ => none

/-- The name that a line defines, which may follow the word `export`, and the text of its value. -/
def split? (cs : List Char) : Option (List Char × List Char) := do
  let (name, rest) ← name? cs
  match afterEquals? rest with
  | some value => return (name, value)
  | none =>
    if name = "export".toList then
      let (name, rest) ← name? (trimStart rest)
      return (name, ← afterEquals? rest)
    else none

/-- A line read: nothing, a definition, or something malformed. -/
inductive Item where
  | nothing
  | definition (name value : String)
  | malformed
  deriving DecidableEq, Repr

/-- A line as a definition. -/
def item (s : Scope) (line : List Char) : Item :=
  let cs := trimStart (trimEnd line)
  if cs = [] ∨ cs.head? = some '#' then .nothing
  else match split? cs with
    | none => .malformed
    | some (name, value) =>
      let value := trimStart value
      let read := if value.head? = some '#' then some [] else readValue? s .plain value
      match read with
      | none => .malformed
      | some text => .definition (String.ofList name) (String.ofList text)

/-- The definitions on lines, each seeing those before it. -/
def readLines (s : Scope) : List (Option (List Char)) → List (Option (String × String))
  | [] => []
  | none :: rest => none :: readLines s rest
  | some line :: rest =>
    match item s line with
    | .nothing => readLines s rest
    | .malformed => none :: readLines s rest
    | .definition name value =>
      some (name, value) :: readLines { s with defined := (name, value) :: s.defined } rest

/-- The definitions of a file in their order, and none for each that is malformed. -/
def entries (environment : List (String × String)) (bytes : List UInt8) :
    List (Option (String × String)) :=
  readLines ⟨environment, []⟩ (joinedLines [] .value (byteLines bytes))

end SqlLint.DotEnv
