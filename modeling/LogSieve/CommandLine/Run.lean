import LogSieve.CommandLine.Command
import LogSieve.Diagnostics
import LogSieve.Release

/-!
# Running the program

A run reads its command line in two steps: the flags for the diagnostics are taken first and set up
the diagnostics, then the rest is read and obeyed. What a run leaves is an exit status, or a fault
that is nobody's to handle, and the texts it has written to its two outputs; the diagnostics it has
set up stay in force.
-/

namespace LogSieve.CommandLine

variable [CharacterNames]

/-- What a run leaves. -/
structure Run where
  outcome : Except CommandFault Nat
  diagnostics : Diagnostics
  out : Text := []
  err : Text := []
  /-- Why a notice that is shown cannot be written. -/
  unwritten : Option Format.TemplateFault := none

/-- The text printed by a request for the version. -/
def versionText : Text :=
  programName ++ " " ++ Release.currentBase.val ++ " (" ++ Release.current.stamp ++ ")\n"

/-- The run of a command: notices and results are shown as the diagnostics say. -/
def runCommand (d : Diagnostics) (work : Working Verdict) : Run :=
  let reported := work.run
  let (lines, unwritten) := d.written reported.notices
  let err := linesText lines
  match reported.value with
  | .ok v =>
    { outcome := .ok v.status, diagnostics := d, err, unwritten
      out := if d.showsResults then linesText v.lines else [] }
  | .error .interrupted =>
    { outcome := .ok 130, diagnostics := d, err, unwritten, out := "\nInterrupted.\n" }
  | .error fault => { outcome := .error fault, diagnostics := d, err, unwritten }

/-- The run of a request. -/
def runRequest (w : World) (d : Diagnostics) (interrupted : Bool) : Request → Run
  | .help text => { outcome := .ok 0, diagnostics := d, out := text }
  | .version => { outcome := .ok 0, diagnostics := d, out := versionText }
  | .check source => runCommand d (check w interrupted source)
  | .judge source level module message =>
    runCommand d (judge w interrupted source level module message)

/-- The run of the arguments that are left once the diagnostics are set up. -/
def runRest (w : World) (d : Diagnostics) (interrupted : Bool) (args : List Text) : Run :=
  if args.isEmpty then runRequest w d interrupted (.help mainGrammar.help)
  else match Request.read args with
    | .ok request => runRequest w d interrupted request
    | .error complaint => { outcome := .ok 2, diagnostics := d, err := complaint }

/-- The run of a stop in the flags for the diagnostics. -/
def runStop (d : Diagnostics) : Stop → Run
  | .misuse m => { outcome := .ok 2, diagnostics := d, err := globals.complaint m }
  | .help => { outcome := .ok 0, diagnostics := d, out := globals.help }
  | .version => { outcome := .ok 0, diagnostics := d, out := versionText }

/-- A run of the program. -/
def run (w : World) (d : Diagnostics) (interrupted : Bool) (args : List Text) : Run :=
  match Globals.read args with
  | .error stop => runStop d stop
  | .ok (flags, rest) =>
    if flags.asksForListing then
      { outcome := .ok 0, diagnostics := d, out := Diagnostics.channelListing ++ ['\n'] }
    else match Diagnostics.ofChannels flags.verbosity flags.named with
      | .error fault =>
        { outcome := .ok 2, diagnostics := d
          err := programName ++ ": invalid --show value: " ++ fault.message ++ "\n" }
      | .ok d => runRest w d interrupted rest

end LogSieve.CommandLine
