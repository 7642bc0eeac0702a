/-!
# Words of a command line

`Shell.scan` reads a command line the way the shell does: blanks part words, apostrophes, quotes
and backslashes take the special meaning from what they enclose, a number sign at the start of a
word begins a comment.  A `Letter` of a word knows whether it was quoted.  `Shell.words?` is the
words of a line that holds one simple command and nothing for the shell to expand.
-/

namespace SqlLint.Shell

/-- How a character of a word was written: bare, between quotes, or so that it stands for itself. -/
inductive Quoting where
  | bare
  | weak
  | strong
  deriving DecidableEq, Repr

/-- A character of a word. -/
structure Letter where
  char : Char
  quoting : Quoting
  deriving DecidableEq, Repr

/-- A part of a command line. -/
inductive Token where
  | word (letters : List Letter)
  | operator (c : Char)
  deriving DecidableEq, Repr

/-- Where a reader of a command line is. -/
inductive Place where
  | bare
  | escape
  | strong
  | weak
  | weakEscape
  | comment
  deriving DecidableEq, Repr

/-- The characters that end a command or join two. -/
def isOperator (c : Char) : Bool := "\n;&|()<>".contains c

/-- A blank between words. -/
def isBlank (c : Char) : Bool := c == ' ' || c == '\t'

/-- The word read so far, with a letter more. -/
def extend (word : Option (List Letter)) (c : Char) (quoting : Quoting) : Option (List Letter) :=
  some (word.getD [] ++ [⟨c, quoting⟩])

/-- The word read so far as a token, in front of others. -/
def emit (word : Option (List Letter)) (rest : List Token) : List Token :=
  match word with
  | some letters => .word letters :: rest
  | none => rest

/-- The tokens of a command line, from a place in it; none if a quote is not closed. -/
def scanFrom : Place → Option (List Letter) → List Char → Option (List Token)
  | .strong, _, [] => none
  | .weak, _, [] => none
  | .weakEscape, _, [] => none
  | .escape, word, [] => some (emit (extend word '\\' .strong) [])
  | .bare, word, [] => some (emit word [])
  | .comment, word, [] => some (emit word [])
  | .bare, word, c :: cs =>
    if isBlank c then (scanFrom .bare none cs).map (emit word)
    else if isOperator c then (scanFrom .bare none cs).map fun ts => emit word (.operator c :: ts)
    else if c = '\\' then scanFrom .escape word cs
    else if c = '\'' then scanFrom .strong (some (word.getD [])) cs
    else if c = '"' then scanFrom .weak (some (word.getD [])) cs
    else if c = '#' ∧ word.isNone then scanFrom .comment none cs
    else scanFrom .bare (extend word c .bare) cs
  | .escape, word, c :: cs =>
    if c = '\n' then scanFrom .bare word cs else scanFrom .bare (extend word c .strong) cs
  | .strong, word, c :: cs =>
    if c = '\'' then scanFrom .bare word cs else scanFrom .strong (extend word c .strong) cs
  | .weak, word, c :: cs =>
    if c = '"' then scanFrom .bare word cs
    else if c = '\\' then scanFrom .weakEscape word cs
    else scanFrom .weak (extend word c .weak) cs
  | .weakEscape, word, c :: cs =>
    if c = '\n' then scanFrom .weak word cs
    else if "$\"\\".contains c ∨ c.toNat = 0x60 then scanFrom .weak (extend word c .strong) cs
    else scanFrom .weak (extend (extend word '\\' .strong) c .weak) cs
  | .comment, word, c :: cs =>
    if c = '\n' then (scanFrom .bare none cs).map fun ts => emit word (.operator c :: ts)
    else scanFrom .comment word cs

/-- The tokens of a command line. -/
def scan (line : String) : Option (List Token) := scanFrom .bare none line.toList

/-- The character means something to the shell where it is not quoted. -/
def isSpecial (c : Char) : Bool := "$*?[]{}~!#".contains c || c.toNat == 0x60

/-- A character that means nothing to the shell, so that it may stand in a word without quotes. -/
def IsOrdinary (c : Char) : Prop :=
  isBlank c = false ∧ isOperator c = false ∧ c ≠ '\\' ∧ c ≠ '\'' ∧ c ≠ '"' ∧ isSpecial c = false

theorem scanFrom_ordinary {c : Char} (h : IsOrdinary c) (word : Option (List Letter))
    (cs : List Char) : scanFrom .bare word (c :: cs) = scanFrom .bare (extend word c .bare) cs := by
  obtain ⟨blank, operator, escape, strong, weak, special⟩ := h
  have comment : c ≠ '#' := by
    rintro rfl
    simp [isSpecial] at special
  simp [scanFrom, blank, operator, escape, strong, weak, comment]

/-- The letter stands for itself. -/
def Letter.isLiteral (l : Letter) : Bool :=
  match l.quoting with
  | .bare => ! isSpecial l.char
  | .weak => l.char != '$' && l.char.toNat != 0x60
  | .strong => true

/-- The text of a word in which every letter stands for itself. -/
def literal? (letters : List Letter) : Option String :=
  if letters.all Letter.isLiteral then some (String.ofList (letters.map (·.char))) else none

/-- The words of a command line that is one simple command and holds nothing to expand. -/
def words? (line : String) : Option (List String) := do
  (← scan line).mapM fun
    | .word letters => literal? letters
    | .operator _ => none

end SqlLint.Shell
