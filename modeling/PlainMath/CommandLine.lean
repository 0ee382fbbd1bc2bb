/-
# `CommandLine` — from arguments to a request

Arguments are taken from left to right.  Flags act where they stand; other arguments fill the
slots of the grammar, as many as possible at a time.  What fits nowhere is collected and
refused in the end, when nothing else is wrong.
-/
import PlainMath.CommandLine.Argument
import PlainMath.Event
import PlainMath.Number.Numeral
import PlainMath.Path

namespace PlainMath.CommandLine

/-- What was taken so far. -/
structure Taken where
  flags : List Flag := []
  /-- The interval if it was given, and its number unless two dashes stand in its place. -/
  interval : Option (Option Binary64) := none
  /-- The arguments of the slots that were filled. -/
  filled : List (Slot × List String) := []
  /-- The slots that are left. -/
  slots : List Slot
  /-- The arguments that fit nowhere. -/
  extras : List String := []

namespace Taken

/-! ## Slots -/

/-- How many separators stand at the beginning. -/
def separators (args : List Argument) : Nat := (args.takeWhile Argument.isSeparator).length

/-- How many arguments a slot takes, if it can be filled from here. -/
def width? (s : Slot) (args : List Argument) : Option Nat :=
  let lead := separators args
  match args.drop lead with
  | a :: rest =>
    if a.isPlain then
      some (if s.takesRest then args.length else lead + 1 + separators rest)
    else if s.isRequired then none
    else some lead
  | [] => if s.isRequired then none else some lead

/-- The values of a slot; of two dashes the first ones are none of them. -/
def values (s : Slot) (args : List Argument) : List String :=
  let texts := args.map Argument.text
  if s.takesRest then texts else texts.erase "--"

/-- Fills slots, one after the other, until one cannot be filled. -/
def fillFrom (t : Taken) : List Slot → List Argument → Taken × List Argument
  | [], args => ({ t with slots := [] }, args)
  | s :: slots, args =>
    match width? s args with
    | some n =>
      fillFrom { t with filled := t.filled ++ [(s, values s (args.take n))] } slots (args.drop n)
    | none => ({ t with slots := s :: slots }, args)

/-- Fills as many of the slots that are left as possible. -/
def fill (t : Taken) (args : List Argument) : Taken × List Argument := t.fillFrom t.slots args

/-! ## Flags -/

/-- The line that tells the version. -/
def versionLine (program : String) : String := program ++ " " ++ Event.version ++ "\n"

/-- Lets a flag act.  As in a slot, two dashes are no value. -/
def flag (g : Grammar) (t : Taken) (f : Flag) (value : String) : Except Halt Taken :=
  let refuse (r : Refusal) : Except Halt Taken := .error (.refused g.program r)
  match f with
  | .help => .error (.shown g.help)
  | .version => .error (.shown (versionLine g.program))
  | .interval =>
    if value = "--" then .ok { t with flags := t.flags ++ [f], interval := some none }
    else
      match Numeral.read? value with
      | some x => .ok { t with flags := t.flags ++ [f], interval := some (some x) }
      | none => refuse (.noNumber f value)
  | _ =>
    match f.rival? with
    | some other =>
      if t.flags.contains other then refuse (.conflict f other)
      else .ok { t with flags := t.flags ++ [f] }
    | none => .ok { t with flags := t.flags ++ [f] }

/-- Flags to act in order, and the last one if it still needs a value. -/
structure Cluster where
  actions : List (Flag × String) := []
  pending : Option Flag := none

namespace Cluster

/-- A flag with nothing joined to it. -/
def alone (f : Flag) : Cluster :=
  if f.takesValue then { pending := some f } else { actions := [(f, "")] }

/-- The cluster with one more flag in front. -/
def after (f : Flag) (c : Cluster) : Cluster := { c with actions := (f, "") :: c.actions }

end Cluster

/-- Whether a spelling has one dash only. -/
def isShort (name : String) : Bool := name.toList[1]? != some '-'

/-- Takes a flag apart from the text that is joined to it: its value, or more short flags.  The
flag in front of a character that is no short flag is given a value that it does not take. -/
def cluster (g : Grammar) (f : Flag) (name : String) (joined : List Char) :
    Except Refusal Cluster :=
  if f.takesValue then .ok { actions := [(f, String.ofList joined)] }
  else
    let refusal : Refusal := .ignoredValue f (String.ofList joined)
    if !isShort name then .error refusal
    else
      match joined with
      | [] => .error refusal
      | c :: rest =>
        let next := String.ofList ['-', c]
        match g.flag? next with
        | none => .error refusal
        | some f' =>
          if rest.isEmpty then .ok (Cluster.after f (Cluster.alone f'))
          else (cluster g f' next rest).map (Cluster.after f)

/-- What a flag with or without some text joined to it asks for. -/
def clusterOf (g : Grammar) (f : Flag) (name : String) :
    Option (List Char) → Except Refusal Cluster
  | none => .ok (Cluster.alone f)
  | some joined => cluster g f name joined

/-- Lets flags act in order. -/
def act (g : Grammar) (t : Taken) : List (Flag × String) → Except Halt Taken
  | [] => .ok t
  | (f, value) :: rest => do
    let t ← t.flag g f value
    act g t rest

/-- Takes a flag, and its value from the arguments behind it if it needs one. -/
def takeFlag (g : Grammar) (t : Taken) (a : Argument) (rest : List Argument) :
    Except Halt (Taken × List Argument) :=
  match a.reading with
  | .flag f name joined =>
    match clusterOf g f name joined with
    | .error r => .error (.refused g.program r)
    | .ok c => do
      let (actions, rest) ←
        match c.pending with
        | none => pure (c.actions, rest)
        | some p =>
          match rest with
          | v :: rest =>
            if v.isPlain then pure (c.actions ++ [(p, v.text)], rest)
            else throw (.refused g.program (.missingValue p))
          | [] => throw (.refused g.program (.missingValue p))
      let t ← act g t actions
      return (t, rest)
  | _ => .ok ({ t with extras := t.extras ++ [a.text] }, rest)

/-! ## All arguments -/

/-- Fills slots with the last arguments; the rest fits nowhere. -/
def finish (t : Taken) (args : List Argument) : Taken :=
  let (t, rest) := t.fill args
  { t with extras := t.extras ++ rest.map Argument.text }

/-- Takes arguments in at most so many steps, each of which takes at least one. -/
def run (g : Grammar) : Nat → Taken → List Argument → Except Halt Taken
  | 0, t, args => .ok (t.finish args)
  | n + 1, t, args =>
    match args with
    | [] => .ok (t.finish [])
    | a :: rest =>
      if !args.any Argument.isFlag then .ok (t.finish args)
      else if a.isFlag then do
        let (t, rest) ← t.takeFlag g a rest
        run g n t rest
      else
        let (t', rest') := t.fill args
        if rest'.length < args.length then run g n t' rest'
        else
          let strays := (args.takeWhile fun x => !x.isFlag).map Argument.text
          run g n { t' with extras := t'.extras ++ strays } (args.dropWhile fun x => !x.isFlag)

end Taken

/-- Reads arguments against a grammar. -/
def read (g : Grammar) (args : List String) : Except Halt Taken :=
  match arguments g args with
  | .error r => .error (.refused g.program r)
  | .ok args => do
    let t ← Taken.run g args.length { slots := g.slots } args
    match t.slots.filter Slot.isRequired with
    | [] => return t
    | missing => throw (.refused g.program (.missing missing))

/-! ## Requests -/

/-- What the program is asked to do. -/
inductive Request where
  /-- To convert a file, once or whenever it changes. -/
  | convert (input : Path) (output : Option Path) (mode : Option Mode) (mixed verbose watch : Bool)
      (interval : Option (Option Binary64))
  /-- To start a dialogue. -/
  | dialogue (mode : Option Mode)
  deriving DecidableEq

namespace Taken

/-- The mode that was asked for. -/
def mode? (t : Taken) : Option Mode :=
  if t.flags.contains .inline then some .inline
  else if t.flags.contains .display then some .display
  else none

/-- The path in a slot. -/
def path? (t : Taken) (s : Slot) : Option Path :=
  ((t.filled.lookup s).bind List.head?).map Path.ofString

/-- The request to convert a file. -/
def conversion (t : Taken) : Request :=
  .convert ((t.path? .input).getD (.ofString "")) (t.path? .output) t.mode?
    (t.flags.contains .mixed) (t.flags.contains .verbose) (t.flags.contains .watch) t.interval

/-- The request to a command. -/
def request (t : Taken) (command : String) : Request :=
  if command = "translate" then t.conversion else .dialogue t.mode?

end Taken

/-- Reads a command line. -/
def request (args : List String) : Except Halt Request := do
  let g := Grammar.top
  let outer ← read g args
  match outer.filled.lookup .command with
  | some (command :: rest) =>
    match Grammar.commands.lookup command with
    | none => throw (.refused g.program (.unknownCommand command))
    | some inner =>
      let t ← read inner rest
      match outer.extras ++ t.extras with
      | [] => return t.request command
      | extras => throw (.refused g.program (.unrecognized extras))
  | _ => throw (.refused g.program (.missing [.command]))

end PlainMath.CommandLine
