import LogSieve.CommandLine.Grammar

/-!
# The program's manual

The grammars of the program's command lines, with their summaries and help texts. Flags for the
diagnostics may stand anywhere: they are read first, by a grammar of their own (`globals`); the main
grammar has them only so that its help shows them. A help text starts with the summary.
-/

namespace LogSieve.CommandLine

/-- Lines of text, each with its end. -/
def linesText (lines : List Text) : Text := lines.flatMap fun line => line ++ ['\n']

/-- The name of the program. -/
def programName : Text := "envlogger"

/-! ## 1. Flags and places -/

def verboseFlag : Flag := { names := ["--verbose", "-v"] }

def quietFlag : Flag := { names := ["--quiet", "-Q"] }

def showFlag : Flag := { names := ["--show"], arity := .atMostOne }

def helpFlag : Flag := { names := ["-h", "--help"], effect := .showsHelp }

def versionFlag : Flag := { names := ["--version", "-V"], effect := .showsVersion }

def variableFlag : Flag := { names := ["--env-var"], arity := .one }

def strategyFlag : Flag :=
  { names := ["--strategy"], arity := .one, choices := some ["regex", "substring"] }

def specFlag : Flag := { names := ["--spec"], arity := .one }

def commandPlace : Place :=
  { title := "<command>", extent := .command, choices := some ["check", "match"] }

def specPlace : Place := { title := "SPEC", extent := .atMostOne }

def levelPlace : Place := { title := "LEVEL", extent := .one }

def modulePlace : Place := { title := "MODULE", extent := .one }

def messagePlace : Place := { title := "MESSAGE", extent := .atMostOne }

/-! ## 2. Texts -/

def globalsUsage : Text := linesText
  ["usage: envlogger [--verbose] [--quiet] [--show [CHANNEL[:LEVEL]]]"]

def mainUsage : Text := linesText
  ["usage: envlogger [-h] [--version] [--verbose] [--quiet]",
   "                 [--show [CHANNEL[:LEVEL]]]",
   "                 <command> ..."]

def mainHelp : Text := mainUsage ++ linesText
  ["",
   "envlogger — check and try out logging filter specs",
   "",
   "options:",
   "  -h, --help            show this help message and exit",
   "  --version, -V         show program's version number and exit",
   "  --verbose, -v         Increase verbosity (-v, -vv, -vvv)",
   "  --quiet, -Q           Decrease verbosity (-Q, -QQ, -QQQ, -QQQQ=silent)",
   "  --show [CHANNEL[:LEVEL]]",
   "                        Show diagnostics channel (bare --show lists channels)",
   "",
   "commands:",
   "  <command>",
   "    check               Parse a spec and list its directives",
   "    match               Check whether a record would pass a spec",
   "",
   "Run 'envlogger <command> --help' for details on a specific command.",
   "",
   "Global flags (--verbose, --quiet, --show) can appear",
   "before or after the subcommand."]

def checkUsage : Text := linesText
  ["usage: envlogger check [-h] [--env-var NAME] [--strategy \x7bregex,substring\x7d]",
   "                       [SPEC]"]

def checkHelp : Text := checkUsage ++ linesText
  ["",
   "Parse a logging spec and show the resulting directives.",
   "Without SPEC the spec is read from $ENVLOG (or --env-var),",
   "then from the nearest .envlog.json.",
   "",
   "positional arguments:",
   "  SPEC                  Logging spec, e.g. 'warn,app.db=debug/slow'",
   "",
   "options:",
   "  -h, --help            show this help message and exit",
   "  --env-var NAME        Environment variable to read the spec from (default:",
   "                        ENVLOG)",
   "  --strategy \x7bregex,substring\x7d",
   "                        Content filter strategy (default: regex)"]

def matchUsage : Text := linesText
  ["usage: envlogger match [-h] [--env-var NAME] [--strategy \x7bregex,substring\x7d]",
   "                       [--spec SPEC]",
   "                       LEVEL MODULE [MESSAGE]"]

def matchHelp : Text := matchUsage ++ linesText
  ["",
   "Evaluate a record (LEVEL, MODULE, MESSAGE) against a spec.",
   "Exit status 0 means forwarded, 1 means dropped.",
   "",
   "positional arguments:",
   "  LEVEL                 Record level (error, warn, info, debug, trace or 1-5)",
   "  MODULE                Module path of the record, e.g. app.db.pool",
   "  MESSAGE               Rendered message text",
   "",
   "options:",
   "  -h, --help            show this help message and exit",
   "  --env-var NAME        Environment variable to read the spec from (default:",
   "                        ENVLOG)",
   "  --strategy \x7bregex,substring\x7d",
   "                        Content filter strategy (default: regex)",
   "  --spec SPEC           Logging spec (default: $ENVLOG, then .envlog.json)"]

/-! ## 3. Grammars -/

/-- The flags that may stand anywhere. -/
def globals : Grammar :=
  { program := programName, usage := globalsUsage, flags := [verboseFlag, quietFlag, showFlag] }

/-- The whole program: a command and what belongs to it. -/
def mainGrammar : Grammar :=
  { program := programName, usage := mainUsage, help := mainHelp
    flags := [helpFlag, versionFlag, verboseFlag, quietFlag, showFlag], places := [commandPlace] }

/-- The command that lists the directives of a specification. -/
def checkGrammar : Grammar :=
  { program := programName ++ " check", usage := checkUsage, help := checkHelp
    flags := [helpFlag, variableFlag, strategyFlag], places := [specPlace] }

/-- The command that judges one record. -/
def matchGrammar : Grammar :=
  { program := programName ++ " match", usage := matchUsage, help := matchHelp
    flags := [helpFlag, variableFlag, strategyFlag, specFlag]
    places := [levelPlace, modulePlace, messagePlace] }

end LogSieve.CommandLine
