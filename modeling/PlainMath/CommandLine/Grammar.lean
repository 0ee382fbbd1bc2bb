/-
# `CommandLine.Grammar` — what may stand on a command line

A command line is read against a grammar: the flags that are known and the slots that the
other arguments fill.  There is one grammar for the program and one for each of its commands.
-/
import PlainMath.Mode
import PlainMath.Text.Quoted

namespace PlainMath.CommandLine

/-- Arguments that begin with a dash. -/
inductive Flag where
  | help
  | version
  | inline
  | display
  | mixed
  | verbose
  | watch
  | interval
  deriving DecidableEq

namespace Flag

/-- The spellings of a flag. -/
def names : Flag → List String
  | .help => ["-h", "--help"]
  | .version => ["--version"]
  | .inline => ["-i", "--inline"]
  | .display => ["-D", "--display"]
  | .mixed => ["-m", "--mixed"]
  | .verbose => ["-v", "--verbose", "-d", "--debug"]
  | .watch => ["-w", "--watch"]
  | .interval => ["--interval"]

/-- Whether a flag needs a value. -/
def takesValue : Flag → Bool
  | .interval => true
  | _ => false

/-- The flag that one excludes, if any. -/
def rival? : Flag → Option Flag
  | .inline => some .display
  | .display => some .inline
  | _ => none

/-- How messages call a flag. -/
def label (f : Flag) : String := "/".intercalate f.names

end Flag

/-- Places for other arguments. -/
inductive Slot where
  | command
  | input
  | output
  deriving DecidableEq

namespace Slot

/-- How messages call a slot. -/
def name : Slot → String
  | .command => "command"
  | .input => "input"
  | .output => "output"

/-- Whether a slot has to be filled. -/
def isRequired : Slot → Bool
  | .output => false
  | _ => true

/-- Whether a slot takes everything up to the end. -/
def takesRest : Slot → Bool
  | .command => true
  | _ => false

end Slot

/-- The flags and slots that are known, and how the program is called and explained. -/
structure Grammar where
  program : String
  flags : List Flag
  slots : List Slot
  help : String

namespace Grammar

/-- The spellings of all flags, with the flags they stand for. -/
def spellings (g : Grammar) : List (String × Flag) :=
  g.flags.flatMap fun f => f.names.map fun n => (n, f)

/-- The flag of this spelling. -/
def flag? (g : Grammar) (name : String) : Option Flag := g.spellings.lookup name

/-- The grammar of the program. -/
def top : Grammar where
  program := "euclid"
  flags := [.help, .version]
  slots := [.command]
  help :=
    "usage: euclid [-h] [--version] \x7btranslate,repl\x7d ...\n" ++
    "\n" ++
    "euclid: Math notation to LaTeX translator\n" ++
    "\n" ++
    "positional arguments:\n" ++
    "  \x7btranslate,repl\x7d\n" ++
    "    translate       Translate a Euclid file to LaTeX/markdown\n" ++
    "    repl            Start the interactive REPL\n" ++
    "\n" ++
    "options:\n" ++
    "  -h, --help        show this help message and exit\n" ++
    "  --version         show program's version number and exit\n"

/-- The grammar of the command that converts a file. -/
def conversion : Grammar where
  program := "euclid translate"
  flags := [.help, .inline, .display, .mixed, .verbose, .watch, .interval]
  slots := [.input, .output]
  help :=
    "usage: euclid translate [-h] [-i | -D] [-m] [-v] [-w] [--interval INTERVAL]\n" ++
    "                        input [output]\n" ++
    "\n" ++
    "positional arguments:\n" ++
    "  input                 Input .ed file\n" ++
    "  output                Output file (default: input with .md)\n" ++
    "\n" ++
    "options:\n" ++
    "  -h, --help            show this help message and exit\n" ++
    "  -i, --inline          Wrap each expression in $...$\n" ++
    "  -D, --display         Wrap each expression in $$...$$\n" ++
    "  -m, --mixed           Treat input as markdown with embedded Euclid\n" ++
    "                        expressions\n" ++
    "  -v, --verbose, -d, --debug\n" ++
    "                        Print the token stream and the AST\n" ++
    "  -w, --watch           Re-translate whenever the input changes\n" ++
    "  --interval INTERVAL   Polling interval in seconds for --watch (default: from\n" ++
    "                        toml, else 1.0)\n"

/-- The grammar of the command that starts a dialogue. -/
def dialogue : Grammar where
  program := "euclid repl"
  flags := [.help, .inline, .display]
  slots := []
  help :=
    "usage: euclid repl [-h] [-i | -D]\n" ++
    "\n" ++
    "options:\n" ++
    "  -h, --help     show this help message and exit\n" ++
    "  -i, --inline   Wrap each expression in $...$\n" ++
    "  -D, --display  Wrap each expression in $$...$$\n"

/-- The commands by name. -/
def commands : List (String × Grammar) := [("translate", conversion), ("repl", dialogue)]

end Grammar

/-- Why a command line is refused. -/
inductive Refusal where
  | ambiguous (argument : String) (candidates : List String)
  | ignoredValue (f : Flag) (value : String)
  | missingValue (f : Flag)
  | noNumber (f : Flag) (value : String)
  | conflict (f other : Flag)
  | missing (slots : List Slot)
  | unknownCommand (name : String)
  | unrecognized (arguments : List String)
  deriving DecidableEq

/-- The message of a refusal. -/
def Refusal.message : Refusal → String
  | .ambiguous argument candidates =>
    "ambiguous option: " ++ argument ++ " could match " ++ ", ".intercalate candidates
  | .ignoredValue f value =>
    "argument " ++ f.label ++ ": ignored explicit argument " ++ Text.quoted value
  | .missingValue f => "argument " ++ f.label ++ ": expected one argument"
  | .noNumber f value => "argument " ++ f.label ++ ": invalid float value: " ++ Text.quoted value
  | .conflict f other => "argument " ++ f.label ++ ": not allowed with argument " ++ other.label
  | .missing slots =>
    "the following arguments are required: " ++ ", ".intercalate (slots.map Slot.name)
  | .unknownCommand name =>
    "argument command: invalid choice: " ++ Text.quoted name ++ " (choose from " ++
      ", ".intercalate (Grammar.commands.map fun c => Text.quoted c.1) ++ ")"
  | .unrecognized arguments => "unrecognized arguments: " ++ " ".intercalate arguments

/-- What ends the reading of a command line early. -/
inductive Halt where
  /-- Some text was asked for. -/
  | shown (text : String)
  /-- The named program refuses its arguments. -/
  | refused (program : String) (reason : Refusal)
  deriving DecidableEq

namespace Halt

/-- The exit code. -/
def code : Halt → Nat
  | .shown _ => 0
  | .refused _ _ => 2

/-- What is written to standard output. -/
def output : Halt → String
  | .shown text => text
  | .refused _ _ => ""

/-- What is written to standard error, after the usage. -/
def complaint : Halt → String
  | .shown _ => ""
  | .refused program reason => program ++ ": error: " ++ reason.message ++ "\n"

end Halt

end PlainMath.CommandLine
