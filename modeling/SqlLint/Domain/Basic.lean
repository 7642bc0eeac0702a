import SqlLint.Domain.Direction
import SqlLint.Domain.Joiner
import SqlLint.Domain.Mapping
import SqlLint.Domain.Punycode

/-!
# Domain names

A domain is written in labels between dots.  `ascii?` gives the name of a domain in ASCII, where a
label with other characters is `xn--` and its Punycode.  It is refused when a character may not
stand in a domain, when a label would be read differently from how it is written, and when a label
in Punycode is not what `ascii?` writes for the text in it.
-/

namespace SqlLint.Domain

open Text

/-- The ASCII characters that no domain holds. -/
def isDenied (c : Char) : Bool :=
  c.toNat ≤ 0x20 || c.toNat == 0x7F || "#%/:<>?@[\\]^|".contains c

/-- The text is ASCII. -/
def isAscii (cs : List Char) : Bool := cs.all (·.toNat < 0x80)

/-- What labels in Punycode begin with. -/
def mark : List Char := "xn--".toList

/-- The longest label that is written in Punycode, and the longest one that is read. -/
def maxWritten : Nat := 1000
def maxRead : Nat := 2000

/-- The text that a label in Punycode writes, if the label is in its proper form. -/
def decoded? (code : List Char) : Option (List Char) := do
  if code.getLast?.all (· == '-') || ! isAscii code || maxRead < code.length then none
  let text ← Punycode.decode? code
  if isAscii text || mapped? text != some text then none
  return text

/-- The text of a label that has been mapped. -/
def text? (label : List Char) : Option (List Char) :=
  if mark.isPrefixOf label then decoded? (label.drop mark.length) else some label

/-- The label, given by its text, does not begin with a mark, and its joiners fit. -/
def isWhole (text : List Char) : Bool :=
  isAscii text || (! text.head?.any isMark && joinersFit text)

/-- The labels, given by their texts, keep their order next to text that goes to the left. -/
def areOrderly (texts : List (List Char)) : Bool :=
  ! texts.any (·.any fun c => (direction c).goesLeft) ||
    texts.all fun text => Direction.isOrderly (text.map direction)

/-- A label that has been mapped, in ASCII. -/
def asciiLabel? (label : List Char) : Option (List Char) :=
  if isAscii label then some label
  else if maxWritten < label.length then none
  else some (mark ++ Punycode.encode label)

/-- The name of a domain in ASCII. -/
def ascii? (cs : List Char) : Option (List Char) := do
  let name ← mapped? cs
  if name.any isDenied then none
  let labels := pieces (· == '.') name
  let texts ← labels.mapM text?
  if ! texts.all isWhole || ! areOrderly texts then none
  return join ['.'] (← labels.mapM asciiLabel?)

end SqlLint.Domain
