/-
# `Event` — what the program shows

Everything that reaches the console, in order: messages, printed lines, panels, pauses and
prompts.  Which messages are shown depends on a threshold.  A message is read as markup when it
is shown, also if it quotes some input, so it can happen that it cannot be read.
-/
import PlainMath.Log
import PlainMath.Number.Shortest
import PlainMath.Report
import PlainMath.Text.Markup.Tag

namespace PlainMath

/-- What comes back from a prompt. -/
inductive Answer where
  | line (text : String)
  | interrupt
  | endOfInput
  deriving DecidableEq

/-- Something that the program shows or does at the console. -/
inductive Event where
  | message (entry : LogEntry)
  /-- A line of markup. -/
  | print (markup : String)
  /-- A line that is shown as it is. -/
  | printPlain (line : String)
  /-- A result, behind its label. -/
  | latex (text : String)
  | rule (title : String)
  | report (r : Report)
  | welcome
  | clear
  | pause (seconds : Binary64)
  /-- A prompt, and what came back from it. -/
  | prompted (answer : Answer)
  deriving DecidableEq

namespace Event

/-- The prompt. -/
def prompt : String := "[bold cyan]>>>[/bold cyan] "

/-- The label of a result. -/
def latexLabel : String := "LaTeX: "

/-- The line that shows a result. -/
def latexLine (text : String) : String := Text.printable (latexLabel ++ text)

/-- The version of the program. -/
def version : String := "1.0.0"

/-- The title of the welcome. -/
def welcomeTitle : String := "Euclid Interactive REPL v" ++ version

/-- The markup of the welcome. -/
def welcomeText : String :=
  "Intuitive syntax for beautiful LaTeX mathematical expressions.\n" ++
    "Type [bold]:help[/bold] for available commands, or [bold]:quit[/bold] to exit."

/-- The sign in front of a message of this severity. -/
def sign : Severity → String
  | .debug => ""
  | .info => "ℹ️  "
  | .success => "✅ "
  | .warning => "⚠️  "
  | .error => "❌ "

/-- A message of the program itself. -/
def said (severity : Severity) (text : String) : Event :=
  .message ⟨severity, .program, sign severity ++ text⟩

/-- Whether an event is shown at this threshold: messages only if they are weighty enough. -/
def isShown (threshold : Int) : Event → Bool
  | .message e => threshold ≤ e.severity.rank
  | _ => true

/-- The events that are shown at this threshold. -/
def shown (threshold : Int) (events : List Event) : List Event := events.filter (isShown threshold)

/-- What is wrong with the markup of a message, if anything is. -/
def fault? : Event → Option Text.Markup.Fault
  | .message e => Text.Markup.fault? e.message
  | _ => none

/-- The events up to the first one that is to be shown at this threshold and cannot be read, that
one included, and what is wrong with it. -/
def delivered (threshold : Int) : List Event → List Event × Option Text.Markup.Fault
  | [] => ([], none)
  | e :: rest =>
    match if isShown threshold e then e.fault? else none with
    | some f => ([e], some f)
    | none =>
      let (events, fault) := delivered threshold rest
      (e :: events, fault)

/-- The usual threshold, or the one that lets everything through. -/
def threshold (verbose : Bool) : Int := if verbose then Severity.debug.rank else Severity.info.rank

end Event

end PlainMath
