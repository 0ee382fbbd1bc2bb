/-
# `Prose` — mathematics embedded in text

Every fragment of a line is typeset by itself and put between delimiters; a fragment that
cannot be typeset stays as it was written.  Headings, which begin with a number sign, and
blank lines are left alone.
-/
import PlainMath.Prose.Fragment
import PlainMath.Text.Quoted
import PlainMath.Typesetting

namespace PlainMath.Prose

/-- The message about a fragment that stays as it is. -/
def keptEntry (fragment : String) (report : Report) : LogEntry :=
  ⟨.debug, .prose, "Keeping " ++ Text.quoted fragment ++ " as text: " ++ report.text⟩

/-- What stands in place of a fragment. -/
def replace (mode : Mode) (fragment : String) : Except Defect (Logged String) := do
  let outcome ← Typesetting.run {} fragment
  match outcome.value.result with
  | .ok latex => return ⟨mode.wrap latex, outcome.log⟩
  | .error report => return ⟨fragment, outcome.log ++ [keptEntry fragment report]⟩

/-- The text of segments with their fragments replaced. -/
def replaceAll (mode : Mode) : List Segment → Except Defect (Logged String)
  | [] => .ok ⟨"", []⟩
  | .prose c :: rest => do
    let after ← replaceAll mode rest
    return ⟨String.singleton c ++ after.value, after.log⟩
  | .fragment cs :: rest => do
    let here ← replace mode (String.ofList cs)
    let after ← replaceAll mode rest
    return ⟨here.value ++ after.value, here.log ++ after.log⟩

/-- Whether a line is blank or a heading. -/
def isUntouched (line : String) : Bool :=
  match Text.strip line.toList with
  | [] => true
  | c :: _ => c == '#'

/-- A line with its fragments replaced. -/
def line (mode : Mode) (line : String) : Except Defect (Logged String) :=
  if isUntouched line then .ok ⟨line, []⟩ else replaceAll mode (segments line.toList)

/-- Lines with their fragments replaced. -/
def lines (mode : Mode) : List String → Except Defect (Logged (List String))
  | [] => .ok ⟨[], []⟩
  | l :: rest => do
    let here ← line mode l
    let after ← lines mode rest
    return ⟨here.value :: after.value, here.log ++ after.log⟩

/-- A document with the fragments of its lines replaced. -/
def document (mode : Mode) (content : String) : Except Defect (Logged String) := do
  let ls ← lines mode (Text.lines content)
  return ⟨Text.unlines ls.value, ls.log⟩

end PlainMath.Prose
