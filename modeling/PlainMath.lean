import PlainMath.CommandLine
import PlainMath.CommandLine.Argument
import PlainMath.CommandLine.Grammar
import PlainMath.Console
import PlainMath.Conversion
import PlainMath.Diagnostic
import PlainMath.Disk
import PlainMath.Event
import PlainMath.Event.Display
import PlainMath.Fault
import PlainMath.Func.Arity
import PlainMath.Func.Form
import PlainMath.Func.Template
import PlainMath.Issue
import PlainMath.Keyword
import PlainMath.Kind
import PlainMath.Lexeme
import PlainMath.Log
import PlainMath.Main
import PlainMath.Mode
import PlainMath.Node
import PlainMath.Node.Latex
import PlainMath.Number.Binary64
import PlainMath.Number.Decimal
import PlainMath.Number.Numeral
import PlainMath.Number.Shortest
import PlainMath.Parser.Cursor
import PlainMath.Parser.State
import PlainMath.Path
import PlainMath.Program
import PlainMath.Proofs.Grammar
import PlainMath.Proofs.Parser.Sound
import PlainMath.Prose
import PlainMath.Prose.Fragment
import PlainMath.Repl
import PlainMath.Report
import PlainMath.Report.Fields
import PlainMath.Settings
import PlainMath.Settings.Load
import PlainMath.Similarity
import PlainMath.Suggestion
import PlainMath.Text.Blank
import PlainMath.Text.CharName
import PlainMath.Text.CharName.FromAToC
import PlainMath.Text.CharName.FromDToG
import PlainMath.Text.CharName.FromHToL
import PlainMath.Text.CharName.FromMToR
import PlainMath.Text.CharName.FromSToZ
import PlainMath.Text.CharSet
import PlainMath.Text.Decoding
import PlainMath.Text.Digit
import PlainMath.Text.Lines
import PlainMath.Text.LowerCase
import PlainMath.Text.Markup
import PlainMath.Text.Markup.Color
import PlainMath.Text.Markup.Literal
import PlainMath.Text.Markup.Style
import PlainMath.Text.Markup.Tag
import PlainMath.Text.Quoted
import PlainMath.Text.Run
import PlainMath.Text.Word
import PlainMath.Token
import PlainMath.Token.Balance
import PlainMath.Token.Stream
import PlainMath.Toml
import PlainMath.Toml.Document
import PlainMath.Toml.Scalar
import PlainMath.Typesetting
import PlainMath.Value
import PlainMath.Watch
import PlainMath.Proofs.Parser.Complete
import PlainMath.Proofs.Lexeme
import PlainMath.Proofs.Tokens
import PlainMath.Proofs.Parser.Move
import PlainMath.Proofs.Lines
import PlainMath.Proofs.Typesetting
import PlainMath.Proofs.Number.ReadBack
import PlainMath.Proofs.Spelling
import PlainMath.Proofs.Brackets
import PlainMath.Proofs.Regions
import PlainMath.Proofs.Unambiguous
import PlainMath.Proofs.Parser.Blame
import PlainMath.Proofs.Reports
import PlainMath.Proofs.Token.Balance
import PlainMath.Proofs.Locality
import PlainMath.Proofs.Disk
import PlainMath.Proofs.Text.Markup
import PlainMath.Proofs.Messages
import PlainMath.Proofs.Conversion
import PlainMath.Proofs.Watch.Tracking
import PlainMath.Proofs.Watch.Interleaving
import PlainMath.Proofs.Parser.Lookahead
import PlainMath.Proofs.Parser.Earliest
import PlainMath.Proofs.Respacing
import PlainMath.Proofs.SpiltSums
import PlainMath.Proofs.Composition
import PlainMath.Proofs.Prose
import PlainMath.Proofs.Superscripts
import PlainMath.Proofs.ControlWords
import PlainMath.Proofs.Rereading
import PlainMath.Proofs.Prose.Leftmost
import PlainMath.Proofs.Conversion.AllOrNothing
import PlainMath.Proofs.Delivery
import PlainMath.Proofs.Settings
import PlainMath.Proofs.Settings.Load
import PlainMath.Proofs.Destination
import PlainMath.Proofs.Number.Order
import PlainMath.Proofs.Similarity
import PlainMath.Proofs.Suggestion
import PlainMath.Proofs.Dump
import PlainMath.Proofs.Parser.Agreement
import PlainMath.Proofs.Parser.Steps
import PlainMath.Proofs.Parser.Enclosure
import PlainMath.Proofs.Lexeme.Munch
