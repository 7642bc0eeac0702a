import SqlLint.Document.Basic

/-!
# Open documents

`Documents` holds the documents that are open, one for each URL, in the order in which they were
opened.  Changes make a document dirty and saving makes it clean.
-/

namespace SqlLint

/-- The open documents, one for each URL. -/
abbrev Documents := List Document

namespace Documents

/-- The document of a URL. -/
def get? (ds : Documents) (uri : Url) : Option Document := ds.find? (·.uri = uri)

/-- The documents with the one of a URL changed. -/
def modify (ds : Documents) (uri : Url) (f : Document → Document) : Documents :=
  ds.map fun d => if d.uri = uri then f d else d

/-- The documents without the one of a URL. -/
def close (ds : Documents) (uri : Url) : Documents := ds.filter (·.uri ≠ uri)

/-- The documents with one opened; it takes the place of an open one of the same URL. -/
def open_ (ds : Documents) (d : Document) : Documents := ds.close d.uri ++ [d]

/-- A document changed by the editor, one change after the other. -/
def edited (version : Int) (changes : List Change) (d : Document) : Document :=
  { changes.foldl Document.change d with version, dirty := true }

/-- The documents after the editor changed one. -/
def change (ds : Documents) (uri : Url) (version : Int) (changes : List Change) : Documents :=
  ds.modify uri (edited version changes)

/-- A document saved, with the text that was written if the editor tells it. -/
def saved (text : Option String) (d : Document) : Document :=
  { d with text := text.getD d.text, dirty := false }

/-- The documents after one was saved. -/
def save (ds : Documents) (uri : Url) (text : Option String) : Documents :=
  ds.modify uri (saved text)

/-- The document of a file. -/
def ofPath? (ds : Documents) (path : String) : Option Document :=
  ds.find? fun d => d.diskPath?.any fun p => Path.components p = Path.components path

end Documents

end SqlLint
