/-
# `Parser.Cursor` — a place in a stream of tokens

A cursor stands before a token of a stream.  It only moves forward and never over the end of
the input.  Every rule of the grammar can be asked for at the cursor, and so can a whole
document; the cursor stays where the reading ended, also when it failed.
-/
import PlainMath.Parser.State
import PlainMath.Token.Balance
import PlainMath.Token.Stream

namespace PlainMath.Parser

/-- A place in a stream of tokens. -/
structure Cursor where
  /-- The tokens before the cursor, the nearest first. -/
  passed : List Token
  /-- The tokens after the cursor, up to the end of the input. -/
  rest : List Token
  last : Token
  last_kind : last.kind = .eof

namespace Cursor

/-- The cursor before the first token. -/
def ofStream (s : Stream) : Cursor := ⟨[], s.body, s.last, s.last_kind⟩

/-- How many tokens are before the cursor. -/
def index (c : Cursor) : Nat := c.passed.length

/-- All tokens of the stream. -/
def tokens (c : Cursor) : List Token := c.passed.reverse ++ c.rest ++ [c.last]

/-- The token after the cursor. -/
def peek (c : Cursor) : Token := c.rest.headD c.last

/-- The token before the cursor; at the very front, the last one of the stream. -/
def previous (c : Cursor) : Token := c.passed.headD c.last

/-- Whether the cursor stands before an end of the input. -/
def isAtEnd (c : Cursor) : Bool := c.peek.kind == .eof

/-- Whether the token after the cursor is of this kind. -/
def check (c : Cursor) (kind : Kind) : Bool := c.peek.kind == kind

/-- Moves over so many tokens. -/
def skip (c : Cursor) (n : Nat) : Cursor :=
  { c with passed := (c.rest.take n).reverse ++ c.passed, rest := c.rest.drop n }

/-- Moves over the token after the cursor, unless it is the end of the input. -/
def advance (c : Cursor) : Token × Cursor :=
  (c.peek, if c.isAtEnd then c else c.skip 1)

/-- Moves over the token after the cursor if it is of one of these kinds. -/
def accept (c : Cursor) (kinds : List Kind) : Bool × Cursor :=
  if kinds.contains c.peek.kind then (true, c.advance.2) else (false, c)

/-- Moves over a token of this kind, or says what was expected. -/
def expect (c : Cursor) (kind : Kind) (message : String) : Except Fault Token × Cursor :=
  if c.check kind then (.ok c.advance.1, c.advance.2)
  else (.error (.missing (.stated message) c.peek), c)

/-- Reads towards a goal. -/
def read (c : Cursor) (goal : Goal) : Except Fault Node × Cursor :=
  let (verdict, rest) := (State.start goal).run c.last c.rest
  (verdict, c.skip (c.rest.length - rest.length))

/-- Reads one construction of the grammar. -/
def rule (c : Cursor) (level : Level) : Except Fault Node × Cursor := c.read (.rule level)

/-- Reads a document up to the end of the input, once the brackets of the whole stream are
found to be balanced. -/
def document (c : Cursor) : Except Fault Node × Cursor :=
  match Token.imbalance? c.tokens with
  | some fault => (.error fault, c)
  | none => c.read (.document [])

end Cursor

/-- The document of a stream. -/
def parse (s : Stream) : Except Fault Node := (Cursor.ofStream s).document.1

end PlainMath.Parser
