import SqlLint.Json.Basic

/-!
# Writing JSON

`Json.compress` writes a value without blanks.  In strings the quote, the backslash and the control
characters are escaped and every other character stands for itself.
-/

namespace SqlLint

/-- A control character as an escape of four hexadecimal digits. -/
def hexEscape (c : Char) : List Char :=
  let n := c.toNat
  let digit (k : Nat) : Char := (Nat.digitChar (k % 16))
  ['\\', 'u', digit (n / 4096), digit (n / 256), digit (n / 16), digit n]

/-- A character inside a JSON string. -/
def escapeChar (c : Char) : List Char :=
  if c = '"' then ['\\', '"']
  else if c = '\\' then ['\\', '\\']
  else if c = '\n' then ['\\', 'n']
  else if c = '\r' then ['\\', 'r']
  else if c = '\t' then ['\\', 't']
  else if c = '\x08' then ['\\', 'b']
  else if c = '\x0c' then ['\\', 'f']
  else if c.toNat < 0x20 then hexEscape c
  else [c]

/-- A string in JSON. -/
def quoteJson (s : String) : List Char := '"' :: s.toList.flatMap escapeChar ++ ['"']

/-- A number in JSON. -/
def JsonNumber.chars : JsonNumber → List Char
  | .int i => (toString i).toList
  | .real d => if d.isFinite then d.render.toList else "null".toList

mutual

/-- A value in JSON, as characters. -/
def Json.chars : Json → List Char
  | .null => "null".toList
  | .bool true => "true".toList
  | .bool false => "false".toList
  | .num n => n.chars
  | .str s => quoteJson s
  | .arr items => '[' :: itemChars items ++ [']']
  | .obj members => '{' :: memberChars members ++ ['}']

/-- The items of an array, with commas between them. -/
def itemChars : List Json → List Char
  | [] => []
  | [j] => j.chars
  | j :: js => j.chars ++ ',' :: itemChars js

/-- The members of an object, with commas between them. -/
def memberChars : List (String × Json) → List Char
  | [] => []
  | [(k, j)] => quoteJson k ++ ':' :: j.chars
  | (k, j) :: ms => quoteJson k ++ ':' :: (j.chars ++ ',' :: memberChars ms)

end

/-- A value in JSON, without blanks. -/
def Json.compress (j : Json) : String := String.ofList j.chars

end SqlLint
