import Nameplate.CommandLine.Run

/-!
The program: reads the files that its words name, runs, writes what the run
leaves behind and exits with its status.
-/

namespace Nameplate.Main

def readEntry (path : String) : IO (Option FileEntry) := do
  try
    return some (.text (← IO.FS.readFile path))
  catch error =>
    match error with
    | .noFileOrDirectory .. => return none
    | _ => return some .directory

/-- What stands under some paths and on the way to them. -/
def readFiles (paths : List String) : IO Files := do
  let mut files : Files := []
  for path in paths do
    for stage in Path.beginnings [] path.toList ++ [path] do
      match ← readEntry stage with
      | some entry => files := (stage, entry) :: files
      | none => pure ()
  return files

def namedPaths (host : CommandLine.Host) (words : List String) : List String :=
  match CommandLine.Arguments.ofWords host.strikes words with
  | .ok arguments => arguments.paths
  | .error _ => []

def runProgram (words : List String) : IO UInt32 := do
  let host := CommandLine.Host.usual (← (← IO.getStdout).isTty)
  let files ← readFiles (namedPaths host words)
  match CommandLine.run host words files with
  | .usage status =>
      if status = 0 then IO.print CommandLine.helpText else IO.eprint CommandLine.helpText
      return UInt32.ofNat status
  | .finished status stdout stderr =>
      IO.eprint (spellHalves stderr)
      IO.print stdout
      return UInt32.ofNat status
  | .escaped failure stdout stderr =>
      IO.eprint (spellHalves stderr)
      IO.print stdout
      IO.eprintln (spellHalves failure.message)
      return 1

end Nameplate.Main

def main (words : List String) : IO UInt32 :=
  Nameplate.Main.runProgram words
