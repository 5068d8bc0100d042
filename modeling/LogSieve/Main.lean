import LogSieve.CommandLine.Run

/-!
# The program

Looks up what a run can depend on, the variables that may be meant, the place where the program runs
and the project files that may be in force, and leaves the run itself to `CommandLine.run`.
-/

namespace LogSieve

/-- The file at a place, when there is one that can be read. -/
def fileAt (p : Path) : IO (Option FileNode) := do
  try
    let bytes ← IO.FS.readBinFile (String.ofList p.text)
    return some (.file bytes.toList)
  catch _ => return none

/-- Every text of a command line that may name a variable. -/
def possibleNames (args : List Text) : List Text :=
  World.specVariable :: World.strategyVariable :: args ++
    args.filterMap fun t => (Text.cutAt '=' t).2

/-- The part of the world that the run of a command line can depend on. -/
def worldFor (args : List Text) : IO World := do
  let here ← IO.currentDir
  let mut environment : List (Text × Text) := []
  for name in possibleNames args do
    match ← IO.getEnv (String.ofList name) with
    | some v => environment := (name, v.toList) :: environment
    | none => pure ()
  let w : World := { environment, place := Path.ofText [] here.toString.toList }
  let mut files : FileTree := {}
  for p in w.projectPlaces none do
    match ← fileAt p with
    | some node => files := files.put p node
    | none => pure ()
  return { w with files }

end LogSieve

attribute [local instance] LogSieve.CharacterNames.common

def main (args : List String) : IO UInt32 := do
  let args := args.map String.toList
  let w ← LogSieve.worldFor args
  let run := LogSieve.CommandLine.run w {} false args
  (← IO.getStdout).putStr (String.ofList run.out)
  (← IO.getStderr).putStr (String.ofList run.err)
  match run.outcome with
  | .ok status => return status.toUInt32
  | .error fault => do
    (← IO.getStderr).putStr (String.ofList (fault.message ++ ['\n']))
    return 1
