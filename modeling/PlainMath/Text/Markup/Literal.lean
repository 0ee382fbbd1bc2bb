/-
# `Text.Markup.Literal` — values written out in a tag

A tag for an action carries values: numbers, texts, bytes, the words `True`, `False` and
`None`, three dots, tuples, sets and dictionaries.  A sum is a value only if it adds an
imaginary number to a real one.  Members of sets and keys of dictionaries are no sets or
dictionaries themselves.  Here it is only decided whether some text is such a value.
-/
import PlainMath.Text.CharName
import PlainMath.Text.Decoding
import PlainMath.Text.Digit
import PlainMath.Text.Word

namespace PlainMath.Text.Markup.Literal

/-- What the rules have to know of a value. -/
inductive Form where
  /-- A real number without a sign. -/
  | real
  /-- An imaginary number without a sign. -/
  | imaginary
  /-- A real number with a sign. -/
  | signed
  /-- Anything else that can be a key. -/
  | fixed
  /-- Something that can be no key. -/
  | mutable
  /-- The word for sets, which is no value until it is called. -/
  | setWord
  deriving DecidableEq

/-- The marks that values are made of. -/
inductive Mark where
  /-- A number, a word or three dots. -/
  | value (f : Form)
  | text (bytes : Bool)
  | openParen
  | closeParen
  | openBrace
  | closeBrace
  | comma
  | colon
  | sign
  | lineEnd
  deriving DecidableEq

/-! ## Numbers -/

/-- Whether a character can be part of a word. -/
def isNameChar (c : Char) : Bool := c.isAlphanum || c == '_' || 128 ≤ c.toNat

/-- Whether a character is a digit to the base sixteen. -/
def isHexDigit (c : Char) : Bool :=
  c.isDigit || ('a' ≤ c && c ≤ 'f') || ('A' ≤ c && c ≤ 'F')

/-- Whether digits are well grouped: single underscores stand between two of them. -/
def isGrouped (isDigit : Char → Bool) : List Char → Bool
  | [] => false
  | [c] => isDigit c
  | c :: '_' :: cs => isDigit c && isGrouped isDigit cs
  | c :: cs => isDigit c && isGrouped isDigit cs

/-- The digits and underscores at the front, and the characters after them. -/
def digitRun (cs : List Char) : List Char × List Char :=
  cs.span fun c => c.isDigit || c == '_'

/-- Whether these are the digits of an integer: zeros only, or no zero in front. -/
def isInteger (digits : List Char) : Bool :=
  let bare := digits.filter (· != '_')
  bare.all (· == '0') || (bare.head? != some '0' && bare.length ≤ digitLimit)

/-- The characters after an exponent; there may be none. -/
def afterExponent? (cs : List Char) : Option (List Char) :=
  match cs with
  | c :: rest =>
    if c == 'e' || c == 'E' then
      let rest :=
        match rest with
        | '+' :: r | '-' :: r => r
        | r => r
      let (digits, after) := digitRun rest
      if isGrouped Char.isDigit digits then some after else none
    else some cs
  | [] => some cs

/-- Reads the digits of an integer to another base, after the letter of the base. -/
def based? (isDigit : Char → Bool) (cs : List Char) : Option (Form × List Char) :=
  let (digits, after) := cs.span isNameChar
  let digits := if digits.head? == some '_' then digits.tail else digits
  if isGrouped isDigit digits then some (.real, after) else none

/-- Reads what follows the whole part of a decimal number. -/
def decimal? (whole after : List Char) : Option (Form × List Char) := do
  let (fraction, rest) : Option (List Char) × List Char :=
    match after with
    | '.' :: r => (some (digitRun r).1, (digitRun r).2)
    | r => (none, r)
  let wholeIsGrouped := isGrouped Char.isDigit whole
  let fractionIsGrouped := (fraction.map (isGrouped Char.isDigit)).getD false
  let isWellFormed :=
    (wholeIsGrouped || (whole.isEmpty && fractionIsGrouped)) &&
      (fraction.all fun f => f.isEmpty || isGrouped Char.isDigit f)
  if !isWellFormed then none
  else
    let tail ← afterExponent? rest
    match tail with
    | 'j' :: r | 'J' :: r => some (.imaginary, r)
    | r =>
      if fraction.isSome || tail.length < rest.length || isInteger whole then some (.real, r)
      else none

/-- Reads a number; no word may touch its end. -/
def number? (cs : List Char) : Option (Form × List Char) := do
  let (f, rest) ←
    match cs with
    | '0' :: c :: r =>
      if c == 'x' || c == 'X' then based? isHexDigit r
      else if c == 'o' || c == 'O' then based? (fun d => d.isDigit && d ≤ '7') r
      else if c == 'b' || c == 'B' then based? (fun d => d == '0' || d == '1') r
      else decimal? (digitRun cs).1 (digitRun cs).2
    | _ => decimal? (digitRun cs).1 (digitRun cs).2
  if rest.head?.any isNameChar then none else some (f, rest)

/-! ## Texts -/

/-- How texts can be written. -/
structure Quoting where
  /-- Whether a backslash stands for itself. -/
  raw : Bool
  bytes : Bool
  /-- Whether there are three quotes at both ends. -/
  long : Bool
  quote : Char

/-- The quoting that a word in front of a quote stands for. -/
def rawAndBytes? (word : List Char) : Option (Bool × Bool) :=
  match word.map Char.toLower with
  | [] | ['u'] => some (false, false)
  | ['r'] => some (true, false)
  | ['b'] => some (false, true)
  | ['b', 'r'] | ['r', 'b'] => some (true, true)
  | _ => none

/-- Whether so many digits to the base sixteen come first. -/
def hasHexDigits (width : Nat) (cs : List Char) : Bool :=
  (cs.take width).length == width && (cs.take width).all isHexDigit

/-- The number of characters of a name of a character in braces. -/
def namedWidth? (cs : List Char) : Option Nat :=
  match cs with
  | c :: rest =>
    let name := rest.takeWhile (·.toNat != 0x7d)
    if c.toNat == 0x7b && name.length < rest.length && CharName.isName name then
      some (name.length + 2)
    else none
  | [] => none

/-- The number of characters that belong to a backslash before them. -/
def escapeWidth? (q : Quoting) (cs : List Char) : Option Nat :=
  match cs with
  | [] => none
  | c :: rest =>
    if q.bytes && 128 ≤ c.toNat then none
    else if q.raw then some 1
    else if c == 'x' then if hasHexDigits 2 rest then some 3 else none
    else if q.bytes then some 1
    else if c == 'u' then if hasHexDigits 4 rest then some 5 else none
    else if c == 'U' then
      let beyond := ((rest.take 8).dropWhile (· == '0')).length
      if hasHexDigits 8 rest && (beyond ≤ 5 || (rest.take 4) == ['0', '0', '1', '0']) then some 9
      else none
    else if c == 'N' then (namedWidth? rest).map (· + 1)
    else some 1

/-- The characters after a text, from those after its opening quotes; the first `skipped` ones
belong to a backslash. -/
def afterText? (q : Quoting) (skipped : Nat) : List Char → Option (List Char)
  | [] => none
  | c :: cs =>
    match skipped with
    | n + 1 => afterText? q n cs
    | 0 =>
      if c == '\\' then
        match escapeWidth? q cs with
        | some width => afterText? q width cs
        | none => none
      else if c == q.quote && !q.long then some cs
      else if c == q.quote && cs.take 2 == [q.quote, q.quote] then some (cs.drop 2)
      else if (c == '\n' && !q.long) || (q.bytes && 128 ≤ c.toNat) then none
      else afterText? q 0 cs

/-- Whether a character is a quote. -/
def isQuote (c : Char) : Bool := c == '"' || c == '\''

/-- Reads a text, from the word in front of its quotes on. -/
def text? (word : List Char) (cs : List Char) : Option (Mark × List Char) := do
  let (raw, bytes) ← rawAndBytes? word
  match cs with
  | q :: rest =>
    let long := rest.take 2 == [q, q]
    let after ← afterText? ⟨raw, bytes, long, q⟩ 0 (if long then rest.drop 2 else rest)
    return (.text bytes, after)
  | [] => none

/-! ## Marks -/

/-- The characters that are forms of the letters of the word for sets. -/
def setLetters : List (List Nat) :=
  [[0x73, 0x17F, 0x2E2, 0x209B, 0xFF53, 0x1D42C, 0x1D460, 0x1D494, 0x1D4C8, 0x1D4FC, 0x1D530,
      0x1D564, 0x1D598, 0x1D5CC, 0x1D600, 0x1D634, 0x1D668, 0x1D69C],
    [0x65, 0x1D49, 0x2091, 0x212F, 0x2147, 0xFF45, 0x1D41E, 0x1D452, 0x1D486, 0x1D4EE, 0x1D522,
      0x1D556, 0x1D58A, 0x1D5BE, 0x1D5F2, 0x1D626, 0x1D65A, 0x1D68E],
    [0x74, 0x1D57, 0x209C, 0xFF54, 0x1D42D, 0x1D461, 0x1D495, 0x1D4C9, 0x1D4FD, 0x1D531, 0x1D565,
      0x1D599, 0x1D5CD, 0x1D601, 0x1D635, 0x1D669, 0x1D69D]]

/-- Whether this is the word for sets, in whatever form of its letters. -/
def isSetWord (word : List Char) : Bool :=
  word.length == setLetters.length &&
    (word.zip setLetters).all fun (c, forms) => forms.contains c.toNat

/-- Reads a word, or a text with a word in front of it. -/
def word? (cs : List Char) : Option (Mark × List Char) :=
  let (word, rest) := cs.span isNameChar
  if rest.head?.any isQuote then text? word rest
  else
    let name := String.ofList word
    if name == "True" || name == "False" || name == "None" then some (.value .fixed, rest)
    else if isSetWord word then some (.value .setWord, rest)
    else none

/-- Reads a mark that is one character. -/
def punctuation? (c : Char) : Option Mark :=
  if c == '(' then some .openParen
  else if c == ')' then some .closeParen
  else if c.toNat == 0x7b then some .openBrace
  else if c.toNat == 0x7d then some .closeBrace
  else if c == ',' then some .comma
  else if c == ':' then some .colon
  else if c == '+' || c == '-' then some .sign
  else none

/-- Reads a mark. -/
def mark? (cs : List Char) : Option (Mark × List Char) :=
  match cs with
  | [] => none
  | c :: rest =>
    if c.isDigit || (c == '.' && rest.head?.any Char.isDigit) then
      (number? cs).map fun (f, after) => (.value f, after)
    else if cs.take 3 == ['.', '.', '.'] then some (.value .fixed, cs.drop 3)
    else if isQuote c || isNameChar c then word? cs
    else (punctuation? c).map fun m => (m, rest)

/-- Whether a character is a blank between marks. -/
def isGap (c : Char) : Bool := c == ' ' || c == '\t' || c == '\x0c'

/-- The depth of brackets after a mark, which is limited. -/
def depthAfter? (depth : Nat) : Mark → Option Nat
  | .openParen | .openBrace => if depth < 200 then some (depth + 1) else none
  | .closeParen | .closeBrace => some (depth - 1)
  | _ => some depth

/-- The marks of a text, in at most so many steps.  Outside brackets a line end counts once its
line has `begun`, and a line that is not blank begins without a blank or after a form feed. -/
def marks : Nat → Nat → Bool → List Char → Option (List Mark)
  | _, _, _, [] => some []
  | 0, _, _, _ :: _ => none
  | n + 1, depth, begun, c :: cs =>
    if c == '\n' then
      if depth == 0 && begun then (marks n 0 false cs).map (.lineEnd :: ·)
      else marks n depth begun cs
    else if isGap c then
      let (gap, rest) := (c :: cs).span isGap
      if begun || depth != 0 || gap.getLast? == some '\x0c' ||
          rest.head?.all (fun x => x == '\n' || x == '#') then
        marks n depth begun rest
      else none
    else if c == '#' then marks n depth begun (cs.dropWhile (· != '\n'))
    else if c == '\\' then
      match cs with
      | '\n' :: rest => marks n depth begun rest
      | _ => none
    else do
      let (m, rest) ← mark? (c :: cs)
      let depth ← depthAfter? depth m
      (marks n depth true rest).map (m :: ·)

/-! ## Values -/

/-- Whether something of this form can be a key. -/
def Form.isKey (f : Form) : Bool := f != .mutable && f != .setWord

/-- The form of what stands in parentheses; with a comma it is a tuple. -/
def grouped? (forms : List Form) (comma : Bool) : Option Form :=
  match forms, comma with
  | [f], false => some f
  | _, _ =>
    if forms.contains .setWord then none
    else some (if forms.contains .mutable then .mutable else .fixed)

/-- The marks after texts of one sort. -/
def afterTexts? (bytes : Bool) : List Mark → Option (List Mark)
  | .text b :: rest => if b = bytes then afterTexts? bytes rest else none
  | rest => some rest

/-- The form of a number with a sign. -/
def withSign? : Form → Option Form
  | .real => some .signed
  | .imaginary => some .fixed
  | _ => none

mutual

/-- Reads a value that is no sum, no call and has no sign. -/
def primary : Nat → List Mark → Option (Form × List Mark)
  | 0, _ => none
  | n + 1, ms =>
    match ms with
    | .value f :: rest => some (f, rest)
    | .text bytes :: rest => (afterTexts? bytes rest).map fun r => (.fixed, r)
    | .openParen :: rest =>
      match items n rest with
      | some (forms, comma, .closeParen :: rest) => (grouped? forms comma).map fun f => (f, rest)
      | _ => none
    | .openBrace :: .closeBrace :: rest => some (.mutable, rest)
    | .openBrace :: rest =>
      match value n rest with
      | some (f, .colon :: rest) => if f.isKey then pairs n rest else none
      | some (f, .comma :: rest) => if f.isKey then members n rest else none
      | some (f, .closeBrace :: rest) => if f.isKey then some (.mutable, rest) else none
      | _ => none
    | _ => none

/-- Reads a value that is no sum and has no sign; the word for sets may be called. -/
def atom : Nat → List Mark → Option (Form × List Mark)
  | 0, _ => none
  | n + 1, ms =>
    match primary n ms with
    | some (.setWord, .openParen :: .closeParen :: rest) => some (.mutable, rest)
    | read => read

/-- Reads a value. -/
def value : Nat → List Mark → Option (Form × List Mark)
  | 0, _ => none
  | n + 1, ms => do
    let (left, rest) ←
      match ms with
      | .sign :: rest =>
        (atom n rest).bind fun (f, rest) => (withSign? f).map fun f => (f, rest)
      | _ => atom n ms
    match rest with
    | .sign :: rest =>
      let (right, rest) ← atom n rest
      if (left = .real || left = .signed) && right = .imaginary then some (.fixed, rest) else none
    | _ => some (left, rest)

/-- Reads values with commas between them, and tells whether there is a comma. -/
def items : Nat → List Mark → Option (List Form × Bool × List Mark)
  | 0, _ => none
  | n + 1, ms =>
    match value n ms with
    | none => some ([], false, ms)
    | some (f, .comma :: rest) =>
      (items n rest).map fun (forms, _, rest) => (f :: forms, true, rest)
    | some (f, rest) => some ([f], false, rest)

/-- Reads the members of a set after the first one, and the brace after them. -/
def members : Nat → List Mark → Option (Form × List Mark)
  | 0, _ => none
  | n + 1, ms =>
    match items n ms with
    | some (forms, _, .closeBrace :: rest) =>
      if forms.all Form.isKey then some (.mutable, rest) else none
    | _ => none

/-- Reads the pairs of a dictionary after the first key, and the brace after them. -/
def pairs : Nat → List Mark → Option (Form × List Mark)
  | 0, _ => none
  | n + 1, ms => do
    let (f, rest) ← value n ms
    if f = .setWord then none
    else
      match rest with
      | .closeBrace :: rest => some (.mutable, rest)
      | .comma :: .closeBrace :: rest => some (.mutable, rest)
      | .comma :: rest =>
        match value n rest with
        | some (key, .colon :: rest) => if key.isKey then pairs n rest else none
        | _ => none
      | _ => none

end

/-- Whether marks are a value, or several with commas between them, and then line ends only. -/
def isValue (ms : List Mark) : Bool :=
  match items (5 * ms.length + 5) ms with
  | some (f :: forms, _, rest) => !(f :: forms).contains .setWord && rest.all (· == .lineEnd)
  | _ => false

/-- Whether a text is a value that is written out. -/
def isLiteral (cs : List Char) : Bool :=
  let cs := unifyLineEnds cs
  !cs.contains '\x00' && (marks (cs.length + 1) 0 false cs).any isValue

end PlainMath.Text.Markup.Literal
