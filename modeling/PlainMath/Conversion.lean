/-
# `Conversion` — from one file to another

A conversion reads a file, typesets its text, and writes the result.  It writes only when
there is a result and all messages on the way to it could be shown, so that a failure leaves
every file as it was.
-/
import PlainMath.Disk
import PlainMath.Event
import PlainMath.Prose
import PlainMath.Settings
import PlainMath.Text.Decoding

namespace PlainMath

/-- What is converted, where to, and how. -/
structure Conversion where
  input : Path
  output : Path
  settings : Settings
  deriving DecidableEq

namespace Conversion

/-- What ends a conversion without a message of its own. -/
inductive Abort where
  /-- The input is not UTF-8. -/
  | undecodable
  /-- The name of the input or of the output is none. -/
  | nullInName
  | defect (d : Defect)
  deriving DecidableEq

/-- A result of typesetting, if there is one, and what is shown on the way. -/
structure Typeset where
  result : Option String
  events : List Event

/-- How a conversion ended: whether it wrote its output, the disk, and what was shown. -/
structure Outcome where
  written : Except Abort Bool
  disk : Disk
  events : List Event

/-- A path as it is shown. -/
def shownPath (p : Path) : String := "[path]" ++ Text.escape p.text ++ "[/path]"

/-- The delimiters in prose; fragments always have some. -/
def proseMode : Mode → Mode
  | .plain => .inline
  | mode => mode

/-- The tokens and the tree, as they are shown. -/
def dumps (o : Typesetting.Outcome) : List Event :=
  [.rule "Tokens"] ++ o.tokens.map .printPlain ++
    [.print ("[dim]Total tokens: " ++ toString o.tokens.length ++ "[/dim]")] ++
    (if o.tree.isEmpty then [] else .rule "Abstract Syntax Tree" :: o.tree.map .printPlain)

/-- The message about an input that cannot be read. -/
def unreadable (c : Conversion) (f : DiskFailure) : Event :=
  .said .error ("Cannot read " ++ Text.escape c.input.text ++ ": " ++ Text.escape f.message)

/-- The message about an output that cannot be written. -/
def unwritable (c : Conversion) (f : DiskFailure) : Event :=
  .said .error ("Cannot write " ++ Text.escape c.output.text ++ ": " ++ Text.escape f.message)

/-- The message about an input that has no LaTeX. -/
def failed (c : Conversion) : Event :=
  .said .error ("Translation of " ++ shownPath c.input ++ " failed")

/-- The message about an output that was written. -/
def succeeded (c : Conversion) : Event :=
  .said .success ("Translated " ++ shownPath c.input ++ " -> " ++ shownPath c.output)

/-- Typesets the text of the input. -/
def typeset (c : Conversion) (source : String) : Except Defect Typeset := do
  let s := c.settings
  if s.mixed then
    let latex ← Prose.document (proseMode s.mode) source
    return ⟨some latex.value, latex.log.map .message⟩
  else
    let outcome ← Typesetting.run ⟨s.mode, s.verbose⟩ source
    let before := outcome.log.map Event.message ++ if s.verbose then dumps outcome.value else []
    match outcome.value.result with
    | .ok latex => return ⟨some latex, before⟩
    | .error report => return ⟨none, before ++ [.report report, c.failed]⟩

/-- How a conversion ends when the disk refuses a request: with a message, if there is one for
the reader. -/
def refused (d : Disk) (f : DiskFailure) (e : Event) : Outcome :=
  if f.error = .nullInName then ⟨.error .nullInName, d, []⟩ else ⟨.ok false, d, [e]⟩

/-- Writes the result. -/
def write (c : Conversion) (d : Disk) (latex : String) : Outcome :=
  match d.publish c.output latex.toUTF8 with
  | (d, none) => ⟨.ok true, d, [c.succeeded]⟩
  | (d, some f) => refused d f (c.unwritable f)

/-- What becomes of the content of the input, when messages are shown from a threshold on. -/
def convert (threshold : Int) (c : Conversion) (d : Disk) (content : ByteArray) : Outcome :=
  match Text.ofBytes? content with
  | none => ⟨.error .undecodable, d, []⟩
  | some source =>
    match c.typeset source with
    | .error e => ⟨.error (.defect e), d, []⟩
    | .ok ⟨result, events⟩ =>
      match Event.delivered threshold events, result with
      | (events, some f), _ => ⟨.error (.defect (.markup f)), d, events⟩
      | (events, none), none => ⟨.ok false, d, events⟩
      | (events, none), some latex =>
        let o := c.write d latex
        { o with events := events ++ o.events }

/-- Converts the input, when messages are shown from a threshold on. -/
def run (threshold : Int) (c : Conversion) (d : Disk) : Outcome :=
  match d.read c.input with
  | .error f => refused d f (c.unreadable f)
  | .ok content => c.convert threshold d content

end Conversion

end PlainMath
