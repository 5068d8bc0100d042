import LogSieve.CommandLine.Manual
import LogSieve.CommandLine.Reader
import LogSieve.Value

/-!
# Invocations

What a command line asks for. `Globals.read` takes the flags for the diagnostics from wherever they
stand and returns the other arguments in their order; `Request.read` reads those: a command with its
arguments, or help, or the version.
-/

namespace LogSieve.CommandLine

/-! ## 1. Flags for the diagnostics -/

/-- The flags for the diagnostics. -/
structure Globals where
  /-- How often more is asked for, and how often less. -/
  verbose : Nat := 0
  quiet : Nat := 0
  /-- The channels to be shown; a bare flag asks for the listing of channels. -/
  channels : Option (List (Option Text)) := none
  deriving DecidableEq, Repr

namespace Globals

def verbosity (f : Globals) : Int := (f.verbose : Int) - f.quiet

/-- The channels that have been named. -/
def named (f : Globals) : List Text := (f.channels.getD []).filterMap id

/-- The listing of channels is asked for. -/
def asksForListing (f : Globals) : Bool := (f.channels.getD []).contains none

/-- The flags for the diagnostics, and the other arguments. -/
def read (args : List Text) : Except Stop (Globals × List Text) := do
  let r ← CommandLine.read globals args
  let channels := match r.all showFlag.key with
    | [] => none
    | shown => some (shown.map List.head?)
  let flags : Globals :=
    { verbose := r.count verboseFlag.key, quiet := r.count quietFlag.key, channels }
  return (flags, r.extras)

end Globals

/-! ## 2. Commands -/

/-- The argument of a flag or an operand. Where the separator has taken its place, an empty list
stands for it. -/
def argumentOf (arguments : List Text) : Value :=
  match arguments with
  | [t] => .text t
  | _ => .list []

/-- Where a command takes its specification from. -/
structure Source where
  spec : Option Value := none
  variableName : Option Text := none
  strategy : Option Text := none
  deriving Repr

/-- What is asked of the program. -/
inductive Request where
  /-- Help on the program or on a command. -/
  | help (text : Text)
  | version
  | check (source : Source)
  | judge (source : Source) (level module : Value) (message : Text)
  deriving Repr

/-- The text of a flag's argument. -/
def textOf? (arguments : Option (List Text)) : Option Text := arguments.bind List.head?

def sourceOf (r : Reading) (spec : Option (List Text)) : Source :=
  { spec := spec.map argumentOf
    variableName := textOf? (r.last? variableFlag.key)
    strategy := textOf? (r.last? strategyFlag.key) }

/-- The request that a stop amounts to, or the complaint. -/
def requestOfStop (g : Grammar) : Stop → Except Text Request
  | .help => .ok (.help g.help)
  | .version => .ok .version
  | .misuse m => .error (g.complaint m)

/-- The grammar of a command. -/
def commandGrammar (name : Text) : Grammar := if name = "check" then checkGrammar else matchGrammar

/-- The request of a command with what has been read for it. -/
def requestOf (name : Text) (r : Reading) : Request :=
  if name = "check" then .check (sourceOf r (r.last? specPlace.title))
  else
    .judge (sourceOf r (r.last? specFlag.key))
      (argumentOf ((r.last? levelPlace.title).getD []))
      (argumentOf ((r.last? modulePlace.title).getD []))
      ((textOf? (r.last? messagePlace.title)).getD [])

/-- The request, unless arguments are left over. -/
def unlessExtra (extras : List Text) (request : Request) : Except Text Request :=
  match extras with
  | [] => .ok request
  | extras => .error (mainGrammar.complaint (.unrecognized extras))

/-- The request of a command line, or a complaint about it. -/
def Request.read (args : List Text) : Except Text Request :=
  match CommandLine.read mainGrammar args with
  | .error stop => requestOfStop mainGrammar stop
  | .ok r =>
    match r.last? commandPlace.title with
    | some (name :: args) =>
      let g := commandGrammar name
      match CommandLine.read g args with
      | .error stop => requestOfStop g stop
      | .ok c => unlessExtra (r.extras ++ c.extras) (requestOf name c)
    | _ => unlessExtra r.extras (.help mainGrammar.help)

end LogSieve.CommandLine
