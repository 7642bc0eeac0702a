import SqlLint.Text.Digit

/-!
# Tool versions

`ToolVersion.parse?` finds the first three runs of digits with dots between them in the output of
the tool, and `ToolVersion.text` writes a version.  `dropsForce` and `takesFileName` say what the
tool of a version does with its arguments.
-/

namespace SqlLint

open Text

/-- A version of the tool. -/
structure ToolVersion where
  major : UInt32
  minor : UInt32
  patch : UInt32
  deriving DecidableEq, Repr, Inhabited

namespace ToolVersion

/-- The digits at the start of a text, if there are any, and the text after them. -/
def digitRun? (cs : List Char) : Option (List Char × List Char) :=
  let run := cs.takeWhile isDigit
  if run = [] then none else some (run, cs.dropWhile isDigit)

/-- Three runs of digits with dots between them at the start of a text. -/
def tripleAtStart? (cs : List Char) : Option (List Char × List Char × List Char) :=
  match digitRun? cs with
  | some (a, '.' :: cs) =>
    match digitRun? cs with
    | some (b, '.' :: cs) => (digitRun? cs).map fun (c, _) => (a, b, c)
    | _ => none
  | _ => none

/-- The first three runs of digits with dots between them. -/
def triple? : List Char → Option (List Char × List Char × List Char)
  | [] => none
  | c :: cs => (tripleAtStart? (c :: cs)).or (triple? cs)

/-- The number that a run of ASCII digits writes, if it fits 32 bits. -/
def component? (cs : List Char) : Option UInt32 := (decimal? UInt32.size cs).map (·.toUInt32)

/-- The version that an output of the tool tells first. -/
def parse? (output : String) : Option ToolVersion := do
  let (a, b, c) ← triple? output.toList
  return ⟨← component? a, ← component? b, ← component? c⟩

/-- A version with dots. -/
def text (v : ToolVersion) : String :=
  toString v.major.toNat ++ "." ++ toString v.minor.toNat ++ "." ++ toString v.patch.toNat

/-- A version comes before another. -/
def before (v w : ToolVersion) : Bool :=
  v.major < w.major || (v.major == w.major &&
    (v.minor < w.minor || (v.minor == w.minor && v.patch < w.patch)))

/-- The tool fixes without being told `--force`, from 3.0.0 on. -/
def dropsForce (v : ToolVersion) : Bool := ! v.before ⟨3, 0, 0⟩

/-- The tool takes the name of the file that its standard input stands for, after 3.0.5. -/
def takesFileName (v : ToolVersion) : Bool := before ⟨3, 0, 5⟩ v

end ToolVersion

end SqlLint
