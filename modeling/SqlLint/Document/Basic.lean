import SqlLint.Document.Position
import SqlLint.Text.Blank
import SqlLint.Text.Lines
import SqlLint.Text.Units
import SqlLint.Url.Basic

/-!
# Documents

A `Document` is the text of a file as it stands in the editor.  Its lines end at line feeds and are
seen without the carriage return before the line feed.  `Document.offsetAt` is the place of a
position in the text, `Document.slice` the text of a range, `Document.edit` replaces one, and
`Document.wordAt?` finds the word around a column.  Offsets count characters; a position past the
end of its line stands for that end and a line past the last one for the end of the text.
-/

namespace SqlLint

open Text

/-- An open file: its text, the version the editor counts, and whether it has unsaved changes. -/
structure Document where
  uri : Url
  language : String
  version : Int
  text : String
  dirty : Bool := false
  deriving DecidableEq, Repr, Inhabited

/-- A change of a text: of a range, or of the whole when there is no range. -/
structure Change where
  range : Option Range
  text : String
  deriving DecidableEq, Repr, Inhabited

/-- A text that takes the place of a range. -/
structure Edit where
  range : Range
  text : String
  deriving DecidableEq, Repr, Inhabited

/-! ## Texts -/

namespace Text

/-- The line without the line feeds and carriage returns at its end. -/
def lineContent (line : List Char) : List Char := (line.reverse.dropWhile isTerminator).reverse

/-- The offset at which a line begins. -/
def lineStart (cs : List Char) (line : Nat) : Nat :=
  ((pieces isLineFeed cs).take line).foldl (fun n l => n + l.length + 1) 0

/-- The offset of a position. -/
def offsetAt (cs : List Char) (p : Position) : Nat :=
  match (pieces isLineFeed cs)[p.line]? with
  | none => cs.length
  | some line => lineStart cs p.line + charsBefore (lineContent line) p.character

/-- The offsets of a range; one that ends before it begins is empty. -/
def span (cs : List Char) (r : Range) : Nat × Nat :=
  let start := offsetAt cs r.start
  (start, max (offsetAt cs r.stop) start)

/-- The text of a range. -/
def slice (cs : List Char) (r : Range) : List Char :=
  let (start, stop) := span cs r
  (cs.take stop).drop start

/-- The text with another one in place of a range. -/
def replace (cs : List Char) (r : Range) (new : List Char) : List Char :=
  let (start, stop) := span cs r
  cs.take start ++ new ++ cs.drop stop

/-- The range of the whole text. -/
def fullRange (cs : List Char) : Range :=
  let ls := lines cs
  ⟨⟨0, 0⟩, ⟨ls.length - 1, units16 (ls.getLastD [])⟩⟩

/-! ## Words -/

/-- The characters, besides blanks, that no word holds. -/
def wordSeparators : List Char := "`~!@#$%^&*()-=+[{]}\\|;:'\",.<>/?".toList

/-- A character of a word. -/
def isWordChar (c : Char) : Bool := ! isBlank c && ! wordSeparators.contains c

/-- The columns, in UTF-16 units, of the word of a line that holds a character column or ends
there. -/
def wordAt? (line : List Char) (column : Nat) : Option (Nat × Nat) :=
  let before := line.take column
  let left := (before.reverse.takeWhile isWordChar).length
  let right := ((line.drop column).takeWhile isWordChar).length
  if line.length < column ∨ left + right = 0 then none
  else some (units16 (line.take (column - left)), units16 (line.take (column + right)))

end Text

namespace Document

/-- The characters of the text. -/
def chars (d : Document) : List Char := d.text.toList

/-- The path of the file. -/
def path? (d : Document) : Option String := d.uri.filePath?

/-- The path of the file, as the files know it. -/
def diskPath? (d : Document) : Option String := d.uri.diskPath?

/-- The lines of the text. -/
def lines (d : Document) : List (List Char) := Text.lines d.chars

/-- A line of the text. -/
def line? (d : Document) (line : Nat) : Option (List Char) := d.lines[line]?

/-- The number of lines. -/
def lineCount (d : Document) : Nat := d.lines.length

/-- The UTF-16 column of a character column, at most the end of the line. -/
def utf16Column (d : Document) (line column : Nat) : Nat :=
  match d.line? line with
  | some text => units16 (text.take column)
  | none => column

/-- The character column of a UTF-16 column, at most the end of the line. -/
def charColumn (d : Document) (line column : Nat) : Nat :=
  match d.line? line with
  | some text => charsBefore text column
  | none => column

/-- The position of a character column. -/
def positionAtChar (d : Document) (line column : Nat) : Position :=
  ⟨line, d.utf16Column line column⟩

/-- The word around a character column. -/
def wordAt? (d : Document) (line column : Nat) : Option Range := do
  let (start, stop) ← Text.wordAt? (← d.line? line) column
  return .inLine line start stop

/-- The word around a position. -/
def wordAtPosition? (d : Document) (p : Position) : Option Range :=
  d.wordAt? p.line (d.charColumn p.line p.character)

/-- The offset of a position. -/
def offsetAt (d : Document) (p : Position) : Nat := Text.offsetAt d.chars p

/-- The offset of a position in the bytes of the text. -/
def byteOffsetAt (d : Document) (p : Position) : Nat := utf8Size (d.chars.take (d.offsetAt p))

/-- The text of a range. -/
def slice (d : Document) (r : Range) : String := String.ofList (Text.slice d.chars r)

/-- The range of the whole text. -/
def fullRange (d : Document) : Range := Text.fullRange d.chars

/-- The text after a change. -/
def changed (text : String) (c : Change) : String :=
  match c.range with
  | none => c.text
  | some r => String.ofList (Text.replace text.toList r c.text.toList)

/-- The document after a change. -/
def change (d : Document) (c : Change) : Document := { d with text := changed d.text c }

/-- The document after an edit. -/
def edit (d : Document) (e : Edit) : Document := d.change ⟨some e.range, e.text⟩

end Document

end SqlLint
