/-
# `Watch` — converting a file whenever it changes

The input is converted at once.  From then on the watcher sleeps, looks at the stamp of the
input, and converts again when there is a stamp that differs from the one it saw last.  A
missing input is nothing to convert, and a conversion that fails does not end the watch, unless
it is aborted.
-/
import PlainMath.Conversion

namespace PlainMath.Watch

/-- The stamp that was seen last, the disk, and what was shown so far. -/
structure State where
  seen : Option Nat
  disk : Disk
  events : List Event

/-- How a watch ended: by an abort of a conversion, or in peace. -/
structure Outcome where
  failure : Option Conversion.Abort
  disk : Disk
  events : List Event

/-- The message about the first conversion. -/
def beginning (c : Conversion) : Event :=
  .said .info ("Initial translation of " ++ Conversion.shownPath c.input)

/-- The message about the watch. -/
def watching (c : Conversion) : Event :=
  .said .info
    ("Watching " ++ Conversion.shownPath c.input ++ " for changes... (Press Ctrl+C to stop)")

/-- The message about a change; the time of day is given. -/
def changed (time : String) : Event :=
  .said .info ("Change detected at " ++ time ++ ", re-translating")

/-- The line about a watch that was interrupted. -/
def stopped : Event := .print "\n[yellow]Watch stopped by user.[/yellow]"

/-- Converts the input once more. -/
def State.convert (threshold : Int) (s : State) (c : Conversion) : Except Outcome State :=
  let o := c.run threshold s.disk
  match o.written with
  | .ok _ => .ok ⟨s.seen, o.disk, s.events ++ o.events⟩
  | .error e => .error ⟨some e, o.disk, s.events ++ o.events⟩

/-- Shows something. -/
def State.show (s : State) (e : Event) : State := { s with events := s.events ++ [e] }

/-- The first conversion, and the stamp of the input after it. -/
def start (threshold : Int) (c : Conversion) (d : Disk) : Except Outcome State := do
  let s ← State.convert threshold ⟨none, d, [beginning c]⟩ c
  return ({ s with seen := s.disk.stamp? c.input } : State).show (watching c)

/-- A look at the input. -/
def look (threshold : Int) (time : String) (c : Conversion) (s : State) : Except Outcome State :=
  match s.disk.stamp? c.input with
  | none => .ok s
  | some stamp =>
    if s.seen = some stamp then .ok s
    else State.convert threshold (({ s with seen := some stamp } : State).show (changed time)) c

/-- The end of a watch. -/
def State.finish (s : State) : Outcome := ⟨none, s.disk, s.events⟩

/-- Looks again and again, at most so many times if there is a limit.  The list says what
happens to the disk during each pause; the pause after the last one is interrupted. -/
def loop (threshold : Int) (time : String) (c : Conversion) :
    List (Disk → Disk) → Option Nat → State → Except Outcome State
  | _, some 0, s => .ok s
  | [], _, s => .ok ((s.show (.pause c.settings.interval)).show stopped)
  | change :: changes, limit, s => do
    let asleep := s.show (.pause c.settings.interval)
    let s ← look threshold time c { asleep with disk := change asleep.disk }
    loop threshold time c changes (limit.map (· - 1)) s

/-- Watches the input, when messages are shown from a threshold on. -/
def run (threshold : Int) (time : String) (c : Conversion) (changes : List (Disk → Disk))
    (limit : Option Nat) (d : Disk) : Outcome :=
  match start threshold c d >>= loop threshold time c changes limit with
  | .ok s => s.finish
  | .error o => o

section Run
variable {threshold : Int} {time : String} {c : Conversion} {changes : List (Disk → Disk)}
  {limit : Option Nat} {d : Disk} {s s' : State} {o : Outcome}

theorem run_of_start (hstart : start threshold c d = .error o) :
    run threshold time c changes limit d = o := by
  rw [run, hstart]
  rfl

theorem run_of_loop (hstart : start threshold c d = .ok s)
    (hloop : loop threshold time c changes limit s = .ok s') :
    run threshold time c changes limit d = s'.finish := by
  simp only [run, hstart, bind, Except.bind, hloop]

theorem run_of_loop_error (hstart : start threshold c d = .ok s)
    (hloop : loop threshold time c changes limit s = .error o) :
    run threshold time c changes limit d = o := by
  simp only [run, hstart, bind, Except.bind, hloop]

end Run

end PlainMath.Watch
