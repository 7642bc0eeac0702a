import SqlLint.Machine.Basic
import SqlLint.Settings.Basic
import SqlLint.Text.Lines

/-!
# Command lines for the shell

`Shell.quote` writes an argument so that the shell reads it as one word that stands for itself:
plain words as they are, others between apostrophes.  `Shell.line` is a whole command line and
`ShellSetting.command` the command that runs the tool, directly or through a shell.
-/

namespace SqlLint

open Text

namespace Shell

/-- A character that the shell never treats specially. -/
def isPlain (c : Char) : Bool := c.isAlphanum || "-_./=:,@%+".contains c

/-- An argument between apostrophes; an apostrophe inside is written on its own, escaped. -/
def wrapped (cs : List Char) : List Char :=
  '\'' :: cs.flatMap (fun c => if c = '\'' then "'\\''".toList else [c]) ++ ['\'']

/-- An argument as a word of a command line. -/
def quote (argument : String) : String :=
  let cs := argument.toList
  if cs ≠ [] ∧ cs.all isPlain then argument else String.ofList (wrapped cs)

/-- The command line that runs a program with arguments. -/
def line (program : String) (arguments : List String) : String :=
  joinStrings " " (program :: arguments.map quote)

end Shell

/-- A word of a command as it is shown; one that holds the character that ends words has no form of
its own. -/
def shownWord (word : String) : String :=
  if word.toList.contains '\x00' then "<string-with-nul>" else word

/-- The shell that a setting asks for. -/
def ShellSetting.shell? : ShellSetting → Option String
  | .enabled on => if on then some "/bin/sh" else none
  | .program path => if path.isEmpty then none else some path

/-- The program and the arguments that run a program with arguments, directly or through a shell. -/
def ShellSetting.command (s : ShellSetting) (program : String) (arguments : List String) :
    String × List String :=
  match s.shell? with
  | none => (program, arguments)
  | some shell => (shell, ["-c", Shell.line program arguments])

end SqlLint
