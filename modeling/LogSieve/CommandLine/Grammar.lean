import LogSieve.Text.Quoted

/-!
# Grammars of command lines

A command line is made of flags, which start with a hyphen, and of operands, which stand in places.
A grammar says which flags there are, under which names and with how many arguments, and which
places follow one another. `Stop` is why a command line is not read to its end: it asks for help or
for the version, or it is malformed.
-/

namespace LogSieve.CommandLine

/-! ## 1. Flags -/

/-- How many arguments a flag takes. -/
inductive Arity where
  | none
  | one
  | atMostOne
  deriving DecidableEq, Repr

/-- What a flag does besides being noted. -/
inductive Effect where
  | noted
  | showsHelp
  | showsVersion
  deriving DecidableEq, Repr

structure Flag where
  /-- The names of the flag; it is noted under the first one. -/
  names : List Text
  arity : Arity := .none
  effect : Effect := .noted
  /-- The arguments that are allowed; none stands for all. -/
  choices : Option (List Text) := Option.none
  deriving DecidableEq, Repr

/-- The name the flag is noted under. -/
def Flag.key (f : Flag) : Text := f.names.headD []

/-- The flag as messages name it. -/
def Flag.title (f : Flag) : Text := Text.joinWith ['/'] f.names

/-! ## 2. Places -/

/-- How much a place takes. -/
inductive Extent where
  | one
  | atMostOne
  /-- A command with everything after it. -/
  | command
  deriving DecidableEq, Repr

/-- A place for operands, in the order of the grammar. -/
structure Place where
  title : Text
  extent : Extent
  choices : Option (List Text) := Option.none
  deriving DecidableEq, Repr

/-- The place cannot stay empty. -/
def Place.isRequired (p : Place) : Bool := p.extent = .one

structure Grammar where
  /-- The name of the program in messages. -/
  program : Text
  /-- The summary in front of messages about malformed command lines. -/
  usage : Text
  /-- What is shown when help is asked for. -/
  help : Text := []
  flags : List Flag
  places : List Place := []

namespace Grammar

/-- All names of flags, with their flags, in the order of the grammar. -/
def names (g : Grammar) : List (Text × Flag) :=
  g.flags.flatMap fun f => f.names.map fun name => (name, f)

def flag? (g : Grammar) (name : Text) : Option Flag := g.names.lookup name

end Grammar

/-! ## 3. Why reading stops -/

/-- What is wrong with a command line. -/
inductive Misuse where
  | ambiguous (given : Text) (candidates : List Text)
  /-- The flag takes no argument. -/
  | ignoredArgument (title argument : Text)
  | missingArgument (title : Text)
  | invalidChoice (title given : Text) (choices : List Text)
  | missingOperands (titles : List Text)
  | unrecognized (arguments : List Text)
  deriving DecidableEq, Repr

def Misuse.message : Misuse → Text
  | .ambiguous given candidates =>
    "ambiguous option: " ++ given ++ " could match " ++ Text.joinWith ", " candidates
  | .ignoredArgument title argument =>
    "argument " ++ title ++ ": ignored explicit argument " ++ Text.quoted argument
  | .missingArgument title => "argument " ++ title ++ ": expected one argument"
  | .invalidChoice title given choices =>
    "argument " ++ title ++ ": invalid choice: " ++ Text.quoted given ++ " (choose from " ++
      Text.joinWith ", " (choices.map Text.quoted) ++ ")"
  | .missingOperands titles =>
    "the following arguments are required: " ++ Text.joinWith ", " titles
  | .unrecognized arguments => "unrecognized arguments: " ++ Text.joinWith " " arguments

/-- Why a command line is not read to its end. -/
inductive Stop where
  | help
  | version
  | misuse (m : Misuse)
  deriving DecidableEq, Repr

/-- What is said about a misuse: the summary, and what is wrong. -/
def Grammar.complaint (g : Grammar) (m : Misuse) : Text :=
  g.usage ++ g.program ++ ": error: " ++ m.message ++ "\n"

end LogSieve.CommandLine
