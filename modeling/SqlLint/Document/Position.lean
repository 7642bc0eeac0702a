import SqlLint.Json.Record

/-!
# Positions and ranges

A `Position` is a line and a column of a document, both counted from zero, the column in UTF-16
units.  A `Range` leads from one position to another.  Both are read from and written as JSON.
-/

namespace SqlLint

/-- A line and a column, counted from zero. -/
structure Position where
  line : Nat
  character : Nat
  deriving DecidableEq, Repr, Inhabited

/-- The text from one position to another. -/
structure Range where
  start : Position
  stop : Position
  deriving DecidableEq, Repr, Inhabited

namespace Position

/-- A position is not after another one. -/
def atMost (p q : Position) : Bool :=
  p.line < q.line || (p.line == q.line && p.character ≤ q.character)

theorem atMost_iff {p q : Position} : p.atMost q = true ↔
    p.line < q.line ∨ p.line = q.line ∧ p.character ≤ q.character := by
  simp [atMost]

/-- A position in JSON. -/
def json (p : Position) : Json := .object [("line", .nat p.line), ("character", .nat p.character)]

/-- The position that a draft denotes. -/
def ofDraft? (d : Draft) : Option Position := do
  let r ← d.record? ["line", "character"]
  return ⟨← r.required "line" Draft.nat32?, ← r.required "character" Draft.nat32?⟩

end Position

namespace Range

/-- The range between two columns of a line. -/
def inLine (line start stop : Nat) : Range := ⟨⟨line, start⟩, ⟨line, stop⟩⟩

/-- The range reaches to the position. -/
def reaches (r : Range) (p : Position) : Bool := r.start.atMost p && p.atMost r.stop

/-- A range in JSON. -/
def json (r : Range) : Json := .object [("start", r.start.json), ("end", r.stop.json)]

/-- The range that a draft denotes. -/
def ofDraft? (d : Draft) : Option Range := do
  let r ← d.record? ["start", "end"]
  return ⟨← r.required "start" Position.ofDraft?, ← r.required "end" Position.ofDraft?⟩

end Range

end SqlLint
