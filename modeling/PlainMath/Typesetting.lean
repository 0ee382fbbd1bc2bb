/-
# `Typesetting` — from a source to its LaTeX

A source is cut into tokens, the tokens are read as a document, and the document is rendered.
A fault ends the work with a report that holds the offending line of the source.  Words
that look like misspelt functions are mentioned in the log and change nothing else.
-/
import PlainMath.Log
import PlainMath.Node.Latex
import PlainMath.Parser.Cursor
import PlainMath.Report
import PlainMath.Suggestion
import PlainMath.Text.Lines
import PlainMath.Text.Markup.Tag

namespace PlainMath

/-- A failure inside the program itself. -/
inductive Defect where
  | render (e : RenderError)
  | report (issues : List Issue)
  /-- A message cannot be shown. -/
  | markup (f : Text.Markup.Fault)
  deriving DecidableEq

namespace Typesetting

/-- What is asked for. -/
structure Options where
  mode : Mode := .plain
  /-- Whether the tokens and the tree are wanted too. -/
  verbose : Bool := false
  deriving DecidableEq

/-- What comes out: the LaTeX or a report, and the dumps that were asked for. -/
structure Outcome where
  result : Except Report String
  tokens : List String := []
  tree : List String := []

/-- Whether there is LaTeX. -/
def Outcome.succeeded (o : Outcome) : Bool := o.result.isOk

/-- The LaTeX, or the message of the failure. -/
def Outcome.unwrap (o : Outcome) : Except String String :=
  match o.result with
  | .ok latex => .ok latex
  | .error report => .error ("Translation failed: " ++ report.text)

/-- The warning about a word that is used like a function. -/
def misspelling? (word next : Token) : Option LogEntry :=
  if word.kind = .identifier && next.kind = .opener .paren then
    (Suggestion.hint? word.text).map fun hint =>
      ⟨.warning, .typesetter,
        "'" ++ word.text ++ "' at line " ++ toString word.position.line ++ ", column " ++
          toString word.position.column ++ " is not a known function. " ++ hint⟩
  else none

/-- The warnings about words that are used like functions. -/
def misspellings : List Token → List LogEntry
  | t :: u :: rest => (misspelling? t u).toList ++ misspellings (u :: rest)
  | _ => []

/-- The diagnostic of a fault, with the offending line of the source. -/
def located (source : String) (fault : Fault) : Diagnostic :=
  let d := fault.diagnostic
  { d with sourceLine := Text.line? source d.position.line }

/-- The number of top-level expressions of a document. -/
def expressionCount : Node → Nat
  | .document nodes => nodes.length
  | _ => 0

/-- The message about a document that was read. -/
def parsedEntry (document : Node) : LogEntry :=
  ⟨.debug, .parser, "Parsed " ++ toString (expressionCount document) ++ " top-level expressions"⟩

/-- The message about a source that has no LaTeX. -/
def failedEntry (d : Diagnostic) : LogEntry :=
  ⟨.debug, .typesetter, "Translation failed: " ++ d.text⟩

/-- Typesets a source. -/
def run (options : Options) (source : String) : Except Defect (Logged Outcome) :=
  let stream := Stream.ofSource source
  let tokens := if options.verbose then stream.tokens.map Token.dumpLine else []
  let warnings := misspellings stream.tokens
  match Parser.parse stream with
  | .ok document =>
    match document.latex options.mode with
    | .ok latex =>
      let tree := if options.verbose then document.dump 0 else []
      .ok ⟨⟨.ok latex, tokens, tree⟩, warnings ++ [parsedEntry document]⟩
    | .error e => .error (.render e)
  | .error fault =>
    let d := located source fault
    match Report.ofDiagnostic d with
    | .ok report => .ok ⟨⟨.error report, tokens, []⟩, warnings ++ [failedEntry d]⟩
    | .error issues => .error (.report issues)

/-- Why there is no LaTeX for a source. -/
inductive Failure where
  | diagnostic (d : Diagnostic)
  | render (e : RenderError)
  deriving DecidableEq

/-- The LaTeX of a source. -/
def latex (mode : Mode) (source : String) : Except Failure String :=
  match Parser.parse (.ofSource source) with
  | .ok document =>
    match document.latex mode with
    | .ok s => .ok s
    | .error e => .error (.render e)
  | .error fault => .error (.diagnostic (located source fault))

end Typesetting

end PlainMath
