/-
# `Event.Display` — events on a plain terminal
-/
import PlainMath.Event

namespace PlainMath.Event

/-- A title between two rules. -/
def ruled (title : String) : String := "──── " ++ title ++ " ────"

/-- The lines that show an event without any styles; pauses and prompts show none. -/
def display : Event → List String
  | .message e => [e.severity.name ++ " " ++ Text.unmark e.message]
  | .print markup => [Text.unmark markup]
  | .printPlain line => [line]
  | .latex text => [latexLine text]
  | .rule title => [ruled title]
  | .report r => ruled r.kind :: r.panelLines.map Report.StyledLine.text
  | .welcome => [ruled welcomeTitle, Text.unmark welcomeText]
  | .clear => ["\x1b[H\x1b[2J"]
  | .pause _ => []
  | .prompted _ => []

end PlainMath.Event
