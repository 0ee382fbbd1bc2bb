/-
# `Log` — messages on the way
-/
namespace PlainMath

/-- How weighty a message is. -/
inductive Severity where
  | debug
  | info
  | success
  | warning
  | error
  deriving DecidableEq

namespace Severity

/-- The number that thresholds are compared with. -/
def rank : Severity → Int
  | .debug => 10
  | .info => 20
  | .success => 25
  | .warning => 30
  | .error => 40

/-- The name of a severity. -/
def name : Severity → String
  | .debug => "DEBUG"
  | .info => "INFO"
  | .success => "SUCCESS"
  | .warning => "WARNING"
  | .error => "ERROR"

end Severity

/-- Which part of the program a message comes from. -/
inductive Origin where
  | program
  | parser
  | typesetter
  | prose
  | other (name : String)
  deriving DecidableEq

/-- A message. -/
structure LogEntry where
  severity : Severity
  origin : Origin
  message : String
  deriving DecidableEq

/-- A value and the messages on the way to it, the first one first. -/
structure Logged (α : Type) where
  value : α
  log : List LogEntry

end PlainMath
