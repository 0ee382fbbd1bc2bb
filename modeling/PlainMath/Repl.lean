/-
# `Repl` — a dialogue, line by line

Each line is an expression, which is typeset, or a command, which begins with a colon.  The
dialogue goes on until it is told to quit, the input ends, or it is interrupted.
-/
import PlainMath.Event
import PlainMath.Typesetting

namespace PlainMath.Repl

/-- What is shown in answer to an input, and whether the dialogue goes on. -/
structure Reply where
  events : List Event
  goesOn : Bool
  deriving DecidableEq

/-- The help. -/
def helpText : String :=
  "[bold]Available Commands:[/bold]\n" ++
  "  :help, :h          Show this help message\n" ++
  "  :quit, :q, :exit   Exit the REPL\n" ++
  "  :version, :v       Show version information\n" ++
  "  :clear, :c         Clear the screen\n" ++
  "\n" ++
  "[bold]Examples:[/bold]\n" ++
  "  >>> PI                           LaTeX: \\pi\n" ++
  "  >>> pow(x, 2) + 3                LaTeX: x^\x7b2.0\x7d + 3.0\n" ++
  "  >>> sqrt(2, 16)                  LaTeX: \\sqrt[2.0]\x7b16.0\x7d\n" ++
  "  >>> integral(sin(x), x, 0, PI)   LaTeX: \\int_\x7b0.0\x7d^\x7b\\pi\x7d \\sin(x) \\, dx"

/-- The last line of a dialogue. -/
def farewell : Event := .print "Goodbye!"

/-- Commands. -/
inductive Command where
  | quit
  | help
  | version
  | clear
  | unknown (text : String)
  deriving DecidableEq

/-- Reads a command. -/
def Command.ofText (text : String) : Command :=
  if [":quit", ":q", ":exit"].contains text then .quit
  else if [":help", ":h"].contains text then .help
  else if [":version", ":v"].contains text then .version
  else if [":clear", ":c"].contains text then .clear
  else .unknown text

/-- The answer to a command. -/
def Command.reply : Command → Reply
  | .quit => ⟨[farewell], false⟩
  | .help => ⟨[.print helpText], true⟩
  | .version => ⟨[.print ("Euclid version " ++ Event.version)], true⟩
  | .clear => ⟨[.clear, .welcome], true⟩
  | .unknown text =>
    ⟨[.print ("[yellow]Unknown command: " ++ Text.escape text ++ "[/yellow] (type :help)")], true⟩

/-- The answer to an expression. -/
def expression (mode : Mode) (text : String) : Except Defect Reply := do
  let outcome ← Typesetting.run ⟨mode, false⟩ text
  let answer : Event :=
    match outcome.value.result with
    | .ok latex => .latex latex
    | .error report => .report report
  return ⟨outcome.log.map .message ++ [answer, .print ""], true⟩

/-- The answer to a line. -/
def respond (mode : Mode) (line : String) : Except Defect Reply :=
  match Text.strip line.toList with
  | [] => .ok ⟨[], true⟩
  | c :: cs =>
    let text := String.ofList (c :: cs)
    if c == ':' then .ok (Command.ofText text).reply else expression mode text

/-- The answer to an input. -/
def reply (mode : Mode) : Answer → Except Defect Reply
  | .line text => respond mode text
  | .interrupt => .ok ⟨[.print "", farewell], false⟩
  | .endOfInput => .ok ⟨[farewell], false⟩

/-- The inputs of a dialogue up to its end, with the answers. -/
def session (mode : Mode) : List Answer → Except Defect (List (Answer × List Event))
  | [] => do
    let r ← reply mode .endOfInput
    return [(.endOfInput, r.events)]
  | input :: rest => do
    let r ← reply mode input
    if r.goesOn then
      let more ← session mode rest
      return (input, r.events) :: more
    else return [(input, r.events)]

/-- Whether a dialogue ended without being told to quit. -/
def leftRunning (steps : List (Answer × List Event)) : Bool :=
  match steps.getLast? with
  | some (.line _, _) => false
  | _ => true

end PlainMath.Repl
