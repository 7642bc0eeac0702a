import SqlLint.Domain.Substitute
import SqlLint.Text.Normal

/-!
# Mapping of domain names

`mapped?` gives the form of a text under which it counts as the name of a domain: every character
replaced by its image, and the whole in normal form C.  A text with a character that no domain holds
has none.
-/

namespace SqlLint.Domain

open Text

/-- What stands for a character in the name of a domain. -/
def image? (c : Char) : Option (List Char) :=
  if c.toNat < 0x80 then some [c.toLower]
  else if CharRange.contains leftOut c then some []
  else if CharRange.contains refused c then none
  else match substitutes.find? (·.source.has c) with
    | some s => some (s.image c)
    | none => some [c]

/-- The form of a text that names domains. -/
def mapped? (cs : List Char) : Option (List Char) := do
  return normalize (← cs.mapM image?).flatten

end SqlLint.Domain
