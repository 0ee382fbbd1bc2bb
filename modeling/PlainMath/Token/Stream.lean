/-
# `Token.Stream` — tokens up to the end of the input

Every lexeme but comments and blanks gives one token, at the position where it starts.  The
end of the input is a token too, the last one of every stream.
-/
import PlainMath.Lexeme

namespace PlainMath

namespace Token

/-- The tokens of lexemes of which the first starts at `p`. -/
def place (p : Position) : List Lexeme → List Token
  | [] => []
  | l :: rest =>
    match l.kind? with
    | some kind => ⟨kind, String.ofList l.chars, p, l.literal?⟩ :: place (l.positionAfter p) rest
    | none => place (l.positionAfter p) rest

/-- The position behind lexemes of which the first starts at `p`. -/
def placeEnd (p : Position) (ls : List Lexeme) : Position :=
  ls.foldl (fun p l => l.positionAfter p) p

end Token

/-- Tokens and, behind them, the end of the input. -/
structure Stream where
  body : List Token
  last : Token
  last_kind : last.kind = .eof

namespace Stream

/-- All tokens of a stream. -/
def tokens (s : Stream) : List Token := s.body ++ [s.last]

/-- The stream of a source. -/
def ofSource (source : String) : Stream :=
  let ls := Lexeme.ofSource source.toList
  ⟨Token.place .start ls, ⟨.eof, "", Token.placeEnd .start ls, none⟩, rfl⟩

/-- The stream of these tokens, if the last of them is the end of the input. -/
def ofTokens? (ts : List Token) : Option Stream :=
  match ts.getLast? with
  | some t => if h : t.kind = .eof then some ⟨ts.dropLast, t, h⟩ else none
  | none => none

/-- The message when tokens are no stream. -/
def noEndMessage : String := "Token stream must end with an EOF token"

end Stream

/-- The tokens of a source, the last of which is the end of the input. -/
def Token.ofSource (source : String) : List Token := (Stream.ofSource source).tokens

end PlainMath
