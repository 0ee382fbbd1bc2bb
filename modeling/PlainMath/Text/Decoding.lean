/-
# `Text.Decoding` — the text of a file

Files hold UTF-8.  However its lines end, a text that was read has line feeds only.
-/
namespace PlainMath.Text

/-- The text with a line feed for each carriage return, and for each pair of the two. -/
def unifyLineEnds : List Char → List Char
  | [] => []
  | '\r' :: '\n' :: cs => '\n' :: unifyLineEnds cs
  | c :: cs => (if c = '\r' then '\n' else c) :: unifyLineEnds cs

/-- The text of a file. -/
def ofBytes? (content : ByteArray) : Option String :=
  (String.fromUTF8? content).map fun s => String.ofList (unifyLineEnds s.toList)

end PlainMath.Text
