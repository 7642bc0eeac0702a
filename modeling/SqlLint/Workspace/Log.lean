import SqlLint.Machine.Basic
import SqlLint.Text.Lines

/-!
# The output log

The service notes every command and what it writes.  A log is kept in memory, appended to a file,
or not kept.  `Machine.openLog` says by the environment which of them it is, and `stamp` writes the
moment that stands before every line of a file.
-/

namespace SqlLint

/-- Where the lines of a log go. -/
inductive OutputLog where
  | memory (lines : List String)
  | file (path : String)
  | off
  deriving DecidableEq, Repr, Inhabited

/-- A line that parts what belongs to different commands. -/
def logRule : String := String.ofList (List.replicate 60 '-')

/-- A line that begins a section of the log. -/
def logSection (title : String) : String :=
  let dashes := String.ofList (List.replicate 20 '-')
  dashes ++ title ++ dashes

/-! ## Moments -/

/-- A number in decimal, with zeros in front up to a width. -/
def padded (width n : Nat) : String :=
  let digits := Nat.toDigits 10 n
  String.ofList (List.replicate (width - digits.length) '0' ++ digits)

/-- The date of a day counted from the first of January 1970: year, month and day. -/
def civilDate (day : Nat) : Nat × Nat × Nat :=
  let z := day + 719468
  let era := z / 146097
  let dayOfEra := z % 146097
  let yearOfEra := (dayOfEra - dayOfEra / 1460 + dayOfEra / 36524 - dayOfEra / 146096) / 365
  let dayOfYear := dayOfEra - (365 * yearOfEra + yearOfEra / 4 - yearOfEra / 100)
  let shifted := (5 * dayOfYear + 2) / 153
  let month := if shifted < 10 then shifted + 3 else shifted - 9
  let year := yearOfEra + 400 * era
  (if month ≤ 2 then year + 1 else year, month, dayOfYear - (153 * shifted + 2) / 5 + 1)

/-- A moment, in milliseconds since the beginning of 1970, as date and time. -/
def stamp (millis : Nat) : String :=
  let seconds := millis / 1000
  let (year, month, day) := civilDate (seconds / 86400)
  padded 4 year ++ "-" ++ padded 2 month ++ "-" ++ padded 2 day ++ " " ++
    padded 2 (seconds / 3600 % 24) ++ ":" ++ padded 2 (seconds / 60 % 60) ++ ":" ++
    padded 2 (seconds % 60) ++ "." ++ padded 3 (millis % 1000)

/-! ## Opening and appending -/

/-- The directory of the log file. -/
def Machine.logDirectory (m : Machine) : String :=
  ((m.valueOf? "SQLFLUFF_LS_TMP_DIR").or (m.valueOf? "TMPDIR")).getD "/tmp"

/-- The log is kept unless the environment forbids it. -/
def Machine.keepsLog (m : Machine) : Bool := m.valueOf? "SQLFLUFF_LS_OUTPUT_LOG" ≠ some "0"

/-- The path of the log file. -/
def Machine.logPath (m : Machine) : String :=
  Path.join m.logDirectory "sqlfluff_ls_output.log"

/-- The machine with bytes appended to a file, if that can be done. -/
def Machine.append? (m : Machine) (path : String) (bytes : List UInt8) : Option Machine :=
  let old := (m.files.read m.directory path).toOption.getD []
  (m.files.write m.directory path (old ++ bytes)).toOption.map fun files => { m with files }

/-- The log that the environment asks for. -/
def Machine.openLog (m : Machine) : OutputLog × Machine :=
  if m.keepsLog then
    match m.append? m.logPath [] with
    | some m' => (.file m.logPath, m')
    | none => (.off, m)
  else (.off, m)

namespace OutputLog

/-- The file that the log is kept in. -/
def path? : OutputLog → Option String
  | .file path => some path
  | _ => none

/-- The lines of a log in memory. -/
def lines : OutputLog → List String
  | .memory lines => lines
  | _ => []

/-- A line appended to the log. -/
def append (log : OutputLog) (m : Machine) (line : String) : OutputLog × Machine :=
  match log with
  | .memory lines => (.memory (lines ++ [line]), m)
  | .file path =>
    let text := "[" ++ stamp m.clock ++ "] " ++ line ++ "\n"
    (log, (m.append? path (Text.Utf8.encode text)).getD m)
  | .off => (.off, m)

end OutputLog

end SqlLint
