/-
# `Toml` — reading a document

A document is a list of statements, one to a line, with comments between and behind them.
Values may nest: lists run over lines, tables in braces stay on one.  Nesting and the number
of statements are bounded by the number of characters that are left.
-/
import PlainMath.Toml.Document
import PlainMath.Toml.Scalar

namespace PlainMath.Toml

/-! ## Space -/

/-- The characters after a comment, if one begins here. -/
def skipComment? (cs : List Char) : Option (List Char) :=
  match cs with
  | '#' :: rest =>
    if (rest.takeWhile (· != '\n')).any isControl then none
    else some (rest.dropWhile (· != '\n'))
  | _ => some cs

/-- The characters after spaces, line ends and comments. -/
def skipFiller? (comment : Bool) : List Char → Option (List Char)
  | [] => some []
  | c :: cs =>
    if comment then
      if c == '\n' then skipFiller? false cs
      else if isControl c then none
      else skipFiller? true cs
    else if isSpace c then skipFiller? false cs
    else if c == '#' then skipFiller? true cs
    else some (c :: cs)

/-! ## Keys -/

/-- Whether a character may stand in a key without quotes. -/
def isKeyChar (c : Char) : Bool := c.isAlphanum || c == '-' || c == '_'

/-- Reads one part of a key. -/
def keyPart? (cs : List Char) : Option (String × List Char) :=
  let bare := cs.takeWhile isKeyChar
  if bare.isEmpty then (line? cs).map fun (s, rest) => (String.ofList s, rest)
  else some (String.ofList bare, cs.dropWhile isKeyChar)

/-- Reads a key of at most so many parts, with dots between them, and the blanks behind. -/
def keyParts? : Nat → List Char → Option (List String × List Char)
  | 0, _ => none
  | n + 1, cs => do
    let (part, rest) ← keyPart? cs
    match skipBlanks rest with
    | '.' :: more =>
      let (parts, after) ← keyParts? n (skipBlanks more)
      return (part :: parts, after)
    | after => return ([part], after)

/-- Reads a key. -/
def key? (cs : List Char) : Option (List String × List Char) := keyParts? cs.length cs

/-! ## Values -/

mutual

/-- Reads a value. -/
def value : Nat → List Char → Except Flaw (Value × List Char)
  | 0, _ => .error .malformed
  | n + 1, '[' :: cs => do
    let (vs, rest) ← items n (← orMalformed (skipFiller? false cs))
    return (.list vs, rest)
  | n + 1, '\x7b' :: cs =>
    match skipBlanks cs with
    | '\x7d' :: rest => .ok (.table [], rest)
    | cs => do
      let (entries, rest) ← members n [] cs
      return (.table (entriesValue entries), rest)
  | _ + 1, cs => scalar cs

/-- Reads the items of a list up to its end, with commas between them and behind the last
one if it pleases. -/
def items : Nat → List Char → Except Flaw (List Value × List Char)
  | 0, _ => .error .malformed
  | _ + 1, ']' :: rest => .ok ([], rest)
  | n + 1, cs => do
    let (v, rest) ← value n cs
    match ← orMalformed (skipFiller? false rest) with
    | ']' :: rest => return ([v], rest)
    | ',' :: rest =>
      let (vs, rest) ← items n (← orMalformed (skipFiller? false rest))
      return (v :: vs, rest)
    | _ => throw .malformed

/-- Reads the members of a table in braces up to its end, with commas between them. -/
def members : Nat → Entries → List Char → Except Flaw (Entries × List Char)
  | 0, _, _ => .error .malformed
  | n + 1, entries, cs => do
    let (key, rest) ← orMalformed (key? cs)
    let (v, rest) ← value n (skipBlanks (← orMalformed (mark? '=' rest)))
    let entries ← orMalformed (entries.add? 0 v key)
    match skipBlanks rest with
    | '\x7d' :: rest => return (entries, rest)
    | ',' :: rest => members n entries (skipBlanks rest)
    | _ => throw .malformed

end

/-! ## Statements -/

/-- Reads a statement. -/
def statement (cs : List Char) : Except Flaw (Statement × List Char) :=
  match cs with
  | '[' :: '[' :: rest => orMalformed do
    let (key, rest) ← key? (skipBlanks rest)
    return (.tableInList key, ← mark? ']' (← mark? ']' rest))
  | '[' :: rest => orMalformed do
    let (key, rest) ← key? (skipBlanks rest)
    return (.table key, ← mark? ']' rest)
  | _ => do
    let (key, rest) ← orMalformed (key? cs)
    let body := skipBlanks (← orMalformed (mark? '=' rest))
    let (v, rest) ← value (2 * body.length + 1) body
    return (.pair key v, rest)

/-- The characters after blanks, a comment and the end of the line, all of which may be
missing at the end of the document. -/
def endOfLine? (cs : List Char) : Option (List Char) := do
  match ← skipComment? (skipBlanks cs) with
  | [] => some []
  | '\n' :: rest => some rest
  | _ => none

/-- The draft after at most so many lines more. -/
def extend (d : Draft) : Nat → List Char → Except Flaw Draft
  | 0, cs => if cs.isEmpty then .ok d else .error .malformed
  | n + 1, cs =>
    match skipBlanks cs with
    | [] => .ok d
    | c :: rest =>
      if c == '\n' || c == '#' then do extend d n (← orMalformed (endOfLine? (c :: rest)))
      else do
        let (s, after) ← statement (c :: rest)
        let d ← orMalformed (d.take? s)
        extend d n (← orMalformed (endOfLine? after))

/-- The text with a line feed for each pair of a carriage return and one. -/
def unifyPairs : List Char → List Char
  | [] => []
  | '\r' :: '\n' :: cs => '\n' :: unifyPairs cs
  | c :: cs => c :: unifyPairs cs

/-- The fields of a document. -/
def parse (s : String) : Except Flaw (List (String × Value)) := do
  let cs := unifyPairs s.toList
  return (← extend {} cs.length cs).fields

end PlainMath.Toml
