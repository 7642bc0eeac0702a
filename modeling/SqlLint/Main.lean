import SqlLint.CommandLine.Program

/-!
# The executable

`main` hands the command line, the environment and the files it names to `Program.run`, and the
messages on the standard input, one by one, to `Service.receive`.
-/

namespace SqlLint.Main

/-- The variables of the environment that the program looks at. -/
def knownVariables : List String :=
  ["HOME", "PATH", "TMPDIR", "SQLFLUFF_LS_TMP_DIR", "SQLFLUFF_LS_OUTPUT_LOG"]

/-- The place that a path names, seen from a directory. -/
def placeOf (dir : Place) (path : String) : Place :=
  (Path.components path).foldl Files.next (if Path.isAbsolute path then [] else dir)

/-- The tree with a file of the system, if it can be read. -/
def withFile (dir : Place) (fs : Files) (path : String) : IO Files := do
  try
    let bytes ← IO.FS.readBinFile path
    let place := placeOf dir path
    return (fs.makeDirectories place.dropLast).put place (.file bytes.toList false)
  catch _ => return fs

/-- The machine as it stands, with the files that the words name. -/
def machine (words : List String) : IO Machine := do
  let environment ← knownVariables.filterMapM fun name => return (← IO.getEnv name).map (name, ·)
  let directory := placeOf [] (toString (← IO.currentDir))
  let files ← words.foldlM (withFile directory) (Files.makeDirectories [] directory)
  return { files, directory, environment, clock := ← IO.monoMsNow }

/-- The messages on the standard input are received; what was told before is not told again. -/
partial def serve (input output : IO.FS.Stream) (s : Service) (pending : List UInt8) (told : Nat) :
    IO Outcome := do
  match Frame.read pending s.workspace.machine.memory with
  | .body body rest =>
    let (flow, s) := match Json.parseBytes? body with
      | some j => s.receive (.ofJson j)
      | none => (.goOn, s)
    let s := s.modifyLinter Linter.settle
    let events := s.workspace.events
    output.write ⟨((events.drop told).flatMap Event.bytes).toArray⟩
    output.flush
    if flow = .leave then return {} else serve input output s rest events.length
  | .fault .endInHeaders _ | .fault .endInBody _ | .over =>
    let more ← input.read 65536
    if more.isEmpty then
      let (fault, _) := s.serve pending
      return Program.served fault []
    else serve input output s (pending ++ more.toList) told
  | .fault fault _ => return Program.served (some fault) []

end SqlLint.Main

open SqlLint in
/-- The command line is carried out. -/
def main (words : List String) : IO UInt32 := do
  let machine ← Main.machine words
  let input ← IO.getStdin
  let output ← IO.getStdout
  let outcome ← match Arguments.read words with
    | .ok a =>
      if a.mode = .serve then
        let (log, machine) := machine.openLog
        Main.serve input output (.launch machine log (Program.overrides a)) [] 0
      else pure (Program.run machine words []).1
    | .error _ => pure (Program.run machine words []).1
  output.write ⟨outcome.output.toArray⟩
  if let some failure := outcome.failure then
    (← IO.getStderr).putStrLn ("Error: " ++ failure)
  return outcome.exit.toUInt32
