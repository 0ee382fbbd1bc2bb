/-
# `Main` — the command line program

The part of the real disk that a request is about is copied into a `Disk`, the request is
carried out there, and what it made or changed is copied back.
-/
import PlainMath.Event.Display
import PlainMath.Program

namespace PlainMath.Terminal

/-! ## The real disk -/

/-- The text of a location. -/
def locationText (l : Location) : String := "/" ++ "/".intercalate l.names

/-- The working directory. -/
def working : IO Location := do
  return ⟨(Path.ofString (← IO.currentDir).toString).parts⟩

/-- What stands at a location of the real disk. -/
def entry? (l : Location) : IO (Option Entry) := do
  let p := (← IO.currentDir) / locationText l
  if ← p.isDir then return some .directory
  else if ← p.pathExists then
    let time := (← p.metadata).modified
    let content ← IO.FS.readBinFile p
    return some (.file content (time.sec.toNat * 1000000000 + time.nsec.toNat))
  else return none

/-- The places on the way to a path. -/
def places (d : Disk) (p : Path) : List Location :=
  let names := Disk.steps p
  (List.range (names.length + 1)).map fun n => (names.take n).foldl Location.step (d.start p)

/-- The project files that may hold for a directory. -/
def projectFiles (d : Disk) (directory : Path) : List Location :=
  (d.place directory).upward.map fun l => l.child Settings.projectFile

/-- Copies what stands at these locations. -/
def load (d : Disk) : List Location → IO Disk
  | [] => return d
  | l :: rest => do
    match ← entry? l with
    | some e => load (d.put l e) rest
    | none => load (d.erase l) rest

/-- Copies back what differs between two disks. -/
def save (before after : Disk) : IO Unit := do
  for (l, e) in after.entries.reverse do
    if before.find? l ≠ some e then
      match e with
      | .directory => IO.FS.createDirAll (locationText l)
      | .file content _ => IO.FS.writeBinFile (locationText l) content

/-! ## The console -/

/-- Shows events from a threshold on. -/
def showAll (verbose : Bool) (events : List Event) : IO Unit := do
  for e in Event.shown (Event.threshold verbose) events do
    for line in e.display do
      IO.println line
  (← IO.getStdout).flush

/-- Asks for a line. -/
def ask : IO Answer := do
  IO.print (Text.unmark Event.prompt)
  (← IO.getStdout).flush
  let line ← (← IO.getStdin).getLine
  return if line.isEmpty then .endOfInput else .line (line.dropEndWhile (· == '\n')).toString

/-- Carries on a dialogue. -/
partial def converse (mode : Mode) : IO UInt32 := do
  match Repl.reply mode (← ask) with
  | .error _ => return 1
  | .ok r =>
    showAll false r.events
    if r.goesOn then converse mode else return 0

/-- How many milliseconds a pause takes. -/
def milliseconds (seconds : Binary64) : UInt32 :=
  match seconds with
  | .finite _ rank =>
    (1000 * Binary64.numerator rank.val / Binary64.denominator rank.val).toUInt32
  | _ => 0

/-- Ends a watch that cannot go on. -/
def giveUp (c : Conversion) (o : Watch.Outcome) : IO UInt32 := do
  showAll c.settings.verbose o.events
  for e in o.failure do
    IO.eprintln (Program.Failure.abort e).message
  return 1

/-- Looks at a file again and again. -/
partial def attend (c : Conversion) (s : Watch.State) : IO UInt32 := do
  showAll c.settings.verbose s.events
  IO.sleep (milliseconds c.settings.interval)
  let d ← load s.disk (places s.disk c.input ++ places s.disk c.output)
  let threshold := Event.threshold c.settings.verbose
  match Watch.look threshold "now" c { s with disk := d, events := [] } with
  | .ok next =>
    save d next.disk
    attend c next
  | .error o => giveUp c o

/-- Carries out a plan. -/
def carryOut (d : Disk) : Program.Plan → IO UInt32
  | .dialogue mode => do
    showAll false [.welcome]
    converse mode
  | .watch c => do
    let d ← load d (places d c.output)
    match Watch.start (Event.threshold c.settings.verbose) c d with
    | .ok s =>
      save d s.disk
      attend c s
    | .error o => giveUp c o
  | .convert c => do
    let d ← load d (places d c.output)
    let o := (Program.Plan.convert c).run { disk := d }
    showAll true o.events
    save d o.disk
    match o.code with
    | .ok n => return n.toUInt32
    | .error e =>
      IO.eprintln e.message
      return 1
  | .refuse input => do
    showAll false [Program.notFound input]
    return 1

/-- The paths that a request names first. -/
def sources (d : Disk) : CommandLine.Request → List Location
  | .convert input _ _ _ _ _ _ => places d input ++ projectFiles d input.parent
  | .dialogue _ => projectFiles d (.ofString "")

/-- Carries out a command line. -/
def run (args : List String) : IO UInt32 := do
  match CommandLine.request args with
  | .error h =>
    IO.print h.output
    IO.eprint h.complaint
    return h.code.toUInt32
  | .ok request =>
    let empty : Disk := { working := ← working }
    let d ← load empty (sources empty request)
    match Program.plan d request with
    | .ok p => carryOut d p
    | .error e =>
      IO.eprintln e.message
      return 1

end PlainMath.Terminal

/-- The command line program. -/
def main (args : List String) : IO UInt32 := PlainMath.Terminal.run args
