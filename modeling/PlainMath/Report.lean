/-
# `Report` — a diagnostic made ready for the reader

A report holds the same facts as a diagnostic, with the category by name and a position that
is known to lie in a text.  It is shown as plain lines, with a caret under the column, or as
the styled lines of a panel.
-/
import PlainMath.Diagnostic
import PlainMath.Text.Markup

namespace PlainMath

/-- What a report is made of, before it is checked. -/
structure Report.Draft where
  kind : Option String := none
  message : Option String := none
  line : Option Int := none
  column : Option Int := none
  sourceLine : Option String := none
  suggestion : Option String := none
  deriving DecidableEq

/-- A checked description of an error. -/
structure Report where
  kind : String
  message : String
  position : Position
  sourceLine : Option String
  suggestion : Option String
  deriving DecidableEq

namespace Report

/-- What is wrong with a required number that has to be at least one. -/
def countIssues (field : String) : Option Int → List Issue
  | none => [.missing field]
  | some n => if n < 1 then [.belowOne field] else []

/-- What is wrong with a required text. -/
def textIssues (field : String) : Option String → List Issue
  | none => [.missing field]
  | some _ => []

/-- What is wrong with a draft, in the order of its fields. -/
def Draft.issues (d : Draft) : List Issue :=
  textIssues "kind" d.kind ++ textIssues "message" d.message ++ countIssues "line" d.line ++
    countIssues "column" d.column

/-- Checks a draft. -/
def ofDraft (d : Draft) : Except (List Issue) Report :=
  match d.kind, d.message, d.line, d.column with
  | some kind, some message, some line, some column =>
    if d.issues.isEmpty then .ok ⟨kind, message, ⟨line, column⟩, d.sourceLine, d.suggestion⟩
    else .error d.issues
  | _, _, _, _ => .error d.issues

/-- The report of a diagnostic. -/
def ofDiagnostic (d : Diagnostic) : Except (List Issue) Report :=
  ofDraft
    ⟨some d.category.name, some d.message, some d.position.line, some d.position.column,
      d.sourceLine, d.suggestion⟩

/-- The report in one line. -/
def text (r : Report) : String :=
  r.kind ++ " at line " ++ toString r.position.line ++ ", column " ++
    toString r.position.column ++ ": " ++ r.message

/-- A caret under this column. -/
def caretLine (column : Int) : String :=
  String.ofList (List.replicate (column - 1).toNat ' ' ++ ['^'])

/-- Whether there is a suggestion with some text. -/
def suggestion? (r : Report) : Option String := r.suggestion.filter (· != "")

/-- The report in plain lines: what and where, the source line with a caret, the suggestion. -/
def lines (r : Report) : List String :=
  [r.text] ++
    (match r.sourceLine with
      | some s => ["  " ++ s, "  " ++ caretLine r.position.column]
      | none => []) ++
    (match r.suggestion? with
      | some s => ["Suggestion: " ++ s]
      | none => [])

/-- The plain lines as one text. -/
def format (r : Report) : String := "\n".intercalate r.lines

/-- A line with the style that it is shown in. -/
structure StyledLine where
  text : String
  style : String
  deriving DecidableEq

/-- A line with its style, as a console shows it. -/
def styled (style text : String) : StyledLine := ⟨Text.printable text, style⟩

/-- The lines of the panel that shows a report. -/
def panelLines (r : Report) : List StyledLine :=
  [styled "bold" r.message,
    styled "dim"
      ("at line " ++ toString r.position.line ++ ", column " ++ toString r.position.column)] ++
    (match r.sourceLine with
      | some s =>
        [styled "" "", styled "" ("  " ++ s),
          styled "bold red" ("  " ++ caretLine r.position.column)]
      | none => []) ++
    (match r.suggestion? with
      | some s => [styled "" "", styled "green" ("Suggestion: " ++ s)]
      | none => [])

end Report

end PlainMath
