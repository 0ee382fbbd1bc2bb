/-
# `Program` — carrying out a command line

A request is first turned into a plan: this is where settings are loaded and destinations are
chosen.  A plan is then carried out on a disk, with what happens to the disk during pauses and
what is typed at prompts given as lists.
-/
import PlainMath.CommandLine
import PlainMath.Repl
import PlainMath.Settings.Load
import PlainMath.Watch

namespace PlainMath.Program

open CommandLine (Request Halt)

/-- What ends the program without a message of its own. -/
inductive Failure where
  /-- The input cannot be looked for. -/
  | unreachable (e : DiskError)
  | settings (e : Settings.LoadError)
  | destination (e : Path.RenameError)
  | abort (e : Conversion.Abort)
  deriving DecidableEq

/-- The message of a failure, for those who have to mend it. -/
def Failure.message : Failure → String
  | .unreachable e => e.reason
  | .settings (.unreachable e) => e.reason
  | .settings (.longInteger digits) =>
    "An integer in the project file has " ++ toString digits ++ " digits."
  | .settings .undecodable => "The project file is not UTF-8."
  | .settings .toolsNoTable => "The table of tools in the project file is no table."
  | .settings .sectionNoTable => "The section of this tool in the project file is no table."
  | .settings (.refused issues) =>
    "\n".intercalate (issues.map fun i => i.field ++ ": " ++ i.message)
  | .destination e => e.message
  | .abort .nullInName => DiskError.nullInName.reason
  | .abort .undecodable => "The input is not UTF-8."
  | .abort (.defect (.render e)) => e.message?.getD "Part of the input has no LaTeX."
  | .abort (.defect (.report issues)) =>
    "\n".intercalate (issues.map fun i => i.field ++ ": " ++ i.message)
  | .abort (.defect (.markup f)) => f.message

/-- What is going to be done. -/
inductive Plan where
  /-- Nothing, since the input is no file. -/
  | refuse (input : Path)
  | convert (c : Conversion)
  | watch (c : Conversion)
  | dialogue (mode : Mode)
  deriving DecidableEq

/-- A setting that only a given flag sets. -/
def onlyIf (given : Bool) : Option Value := if given then some (.boolean true) else none

/-- A mode as a setting. -/
def modeSetting (mode : Option Mode) : Option Value := mode.map fun m => .string m.name

/-- An interval as a setting; without a number it is an empty list, which is then refused. -/
def intervalSetting (interval : Option Binary64) : Value := interval.elim (.list []) .number

/-- The plan for a request. -/
def plan (d : Disk) : Request → Except Failure Plan
  | .convert input output mode mixed verbose watch interval =>
    match d.fileAt input with
    | .error e => .error (.unreachable e)
    | .ok false => .ok (.refuse input)
    | .ok true => do
      let given : Settings.Draft :=
        { mode := modeSetting mode, mixed := onlyIf mixed, verbose := onlyIf verbose,
          interval := interval.map intervalSetting }
      let settings ← (Settings.load given d input.parent).mapError Failure.settings
      let output ←
        match output with
        | some p => .ok p
        | none => (input.destination settings.suffix).mapError Failure.destination
      let c : Conversion := ⟨input, output, settings⟩
      return if watch then .watch c else .convert c
  | .dialogue mode => do
    let settings ←
      (Settings.load { mode := modeSetting mode } d (.ofString "")).mapError Failure.settings
    return .dialogue settings.mode

/-- The message about an input that is no file. -/
def notFound (input : Path) : Event :=
  .said .error ("Input not found: " ++ Text.escape input.text)

/-- How the program ended: its exit code or a failure, the disk, and what was shown. -/
structure Outcome where
  code : Except Failure Nat
  disk : Disk
  events : List Event

/-- What a program meets: the disk, what happens to it during each pause, what is typed at
each prompt, and the time of day. -/
structure Surroundings where
  disk : Disk
  changes : List (Disk → Disk) := []
  answers : List Answer := []
  time : String := "HH:MM:SS"

/-- The exit code of a conversion. -/
def exitCode : Except Conversion.Abort Bool → Except Failure Nat
  | .ok written => .ok (if written then 0 else 1)
  | .error e => .error (.abort e)

/-- The events of a dialogue. -/
def dialogueEvents (steps : List (Answer × List Event)) : List Event :=
  .welcome :: steps.flatMap fun (answer, events) => .prompted answer :: events

/-- Carries out a plan. -/
def Plan.run (s : Surroundings) : Plan → Outcome
  | .refuse input => ⟨.ok 1, s.disk, [notFound input]⟩
  | .convert c =>
    let threshold := Event.threshold c.settings.verbose
    let o := c.run threshold s.disk
    ⟨exitCode o.written, o.disk, Event.shown threshold o.events⟩
  | .watch c =>
    let threshold := Event.threshold c.settings.verbose
    let o := Watch.run threshold s.time c s.changes none s.disk
    ⟨match o.failure with
      | none => .ok 0
      | some e => .error (.abort e),
      o.disk, Event.shown threshold o.events⟩
  | .dialogue mode =>
    match Repl.session mode s.answers with
    | .ok steps => ⟨.ok 0, s.disk, Event.shown (Event.threshold false) (dialogueEvents steps)⟩
    | .error e => ⟨.error (.abort (.defect e)), s.disk, [.welcome]⟩

/-- Carries out a command line. -/
def run (s : Surroundings) (args : List String) : Except Halt Outcome := do
  let request ← CommandLine.request args
  match plan s.disk request with
  | .ok p => return p.run s
  | .error e => return ⟨.error e, s.disk, []⟩

end PlainMath.Program
