/-
# `Console` — where events go

There is one active console: the standard one, or one that was put in its place by name.
Messages are shown from a threshold on, which survives a change of the console.  A message that
cannot be read is an error.
-/
import PlainMath.Event
import PlainMath.Typesetting

namespace PlainMath

/-- The active console, by name unless it is the standard one, and the threshold. -/
structure Console where
  device : Option String := none
  threshold : Int := Severity.info.rank
  deriving DecidableEq

namespace Console

/-- The name of a threshold. -/
def thresholdName (n : Int) : String :=
  if n = 0 then "NOTSET"
  else if n = 10 then "DEBUG"
  else if n = 20 then "INFO"
  else if n = 25 then "SUCCESS"
  else if n = 30 then "WARNING"
  else if n = 40 then "ERROR"
  else if n = 50 then "CRITICAL"
  else "Level " ++ toString n

/-- What can be asked of the console. -/
inductive Request where
  /-- Puts another console in place. -/
  | use (name : String)
  /-- Puts the standard console in place, with the usual threshold. -/
  | reset
  | verbose (on : Bool)
  | setThreshold (n : Int)
  | print (markup : String)
  | say (severity : Severity) (text : String)
  /-- A message for the curious, from some part of the program. -/
  | trace (origin : Origin) (text : String)
  | typeset (source : String)

/-- The console after a request. -/
def after (c : Console) : Request → Console
  | .use name => { c with device := some name }
  | .reset => {}
  | .verbose on => { c with threshold := Event.threshold on }
  | .setThreshold n => { c with threshold := n }
  | _ => c

/-- The events of a request, whether or not they are shown. -/
def events : Request → Except Defect (List Event)
  | .print markup => .ok [.print markup]
  | .say severity text => .ok [.said severity text]
  | .trace origin text => .ok [.message ⟨.debug, origin, text⟩]
  | .typeset source => do
    let outcome ← Typesetting.run {} source
    return outcome.log.map .message
  | _ => .ok []

/-- The events that can be observed: messages from the threshold on, and what is printed to a
console that was put in place. -/
def observed (c : Console) (events : List Event) : List Event :=
  (Event.shown c.threshold events).filter fun
    | .message _ => true
    | _ => c.device.isSome

/-- What is wrong with the markup of an event.  Only the standard console reads what is printed
to it. -/
def fault? (c : Console) : Event → Option Text.Markup.Fault
  | .print markup => if c.device.isNone then Text.Markup.fault? markup else none
  | e => e.fault?

/-- The console after a request, and what can be observed of it. -/
def handle (c : Console) (r : Request) : Except Defect (Console × List Event) := do
  let c := c.after r
  let shown := Event.shown c.threshold (← events r)
  match shown.findSome? c.fault? with
  | some f => throw (.markup f)
  | none => return (c, c.observed shown)

end Console

end PlainMath
