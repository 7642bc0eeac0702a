/-!
# Blank characters

`isBlank` is the Unicode property `White_Space`: the characters that separate words, that a line
may consist of without holding anything, and that trimming removes.  `trimStart`, `trimEnd` and
`trim` remove them from the ends of a text and `isBlankText` says that nothing else is there.
-/

namespace SqlLint.Text

/-- The Unicode property `White_Space`. -/
def isBlank (c : Char) : Bool :=
  let n := c.toNat
  (0x09 ≤ n && n ≤ 0x0D) || n == 0x20 || n == 0x85 || n == 0xA0 || n == 0x1680 ||
    (0x2000 ≤ n && n ≤ 0x200A) || n == 0x2028 || n == 0x2029 || n == 0x202F || n == 0x205F ||
    n == 0x3000

/-- The text without the blank characters at its start. -/
def trimStart (cs : List Char) : List Char := cs.dropWhile isBlank

/-- The text without the blank characters at its end. -/
def trimEnd (cs : List Char) : List Char := (cs.reverse.dropWhile isBlank).reverse

/-- The text without the blank characters at either end. -/
def trim (cs : List Char) : List Char := trimEnd (trimStart cs)

/-- The blank characters at the start of the text. -/
def leadingBlank (cs : List Char) : List Char := cs.takeWhile isBlank

/-- Every character of the text is blank. -/
def isBlankText (cs : List Char) : Bool := cs.all isBlank

theorem leadingBlank_append_trimStart (cs : List Char) : leadingBlank cs ++ trimStart cs = cs :=
  List.takeWhile_append_dropWhile

end SqlLint.Text
