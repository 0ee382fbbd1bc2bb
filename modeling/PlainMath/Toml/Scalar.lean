/-
# `Toml.Scalar` — strings, numbers and dates

Every reader takes the characters from where it stands and gives what it read together with
the characters after it.
-/
import PlainMath.Number.Decimal
import PlainMath.Text.Digit
import PlainMath.Value

namespace PlainMath.Toml

/-- Why a text cannot be read. -/
inductive Flaw where
  /-- It is no document. -/
  | malformed
  /-- An integer has too many digits. -/
  | longInteger (digits : Nat)
  deriving DecidableEq

/-- What was read, or the complaint that nothing could be. -/
def orMalformed {α : Type} : Option α → Except Flaw α
  | some a => .ok a
  | none => .error .malformed

/-! ## Characters -/

/-- Blanks within a line. -/
def isBlank (c : Char) : Bool := c == ' ' || c == '\t'

/-- Blanks and line ends. -/
def isSpace (c : Char) : Bool := isBlank c || c == '\n'

/-- Control characters, which have to be escaped, but for the tab. -/
def isControl (c : Char) : Bool := (c.toNat < 32 && c != '\t') || c.toNat == 127

/-- Control characters in a text of several lines. -/
def isControlInLines (c : Char) : Bool := isControl c && c != '\n'

/-- Without the blanks at the beginning. -/
def skipBlanks (cs : List Char) : List Char := cs.dropWhile isBlank

/-- The value of a digit in bases up to sixteen. -/
def hexValue? (c : Char) : Option Nat :=
  let n := c.toNat
  if '0'.toNat ≤ n && n ≤ '9'.toNat then some (n - '0'.toNat)
  else if 'a'.toNat ≤ n && n ≤ 'f'.toNat then some (n - 'a'.toNat + 10)
  else if 'A'.toNat ≤ n && n ≤ 'F'.toNat then some (n - 'A'.toNat + 10)
  else none

/-- Whether a character is a digit in this base. -/
def isDigitIn (base : Nat) (c : Char) : Bool :=
  match hexValue? c with
  | some v => v < base
  | none => false

/-- The number that digits stand for in this base. -/
def valueIn (base : Nat) (cs : List Char) : Nat :=
  cs.foldl (fun n c => base * n + (hexValue? c).getD 0) 0

/-! ## Strings -/

/-- The character with a code of so many hexadecimal digits, if there is one. -/
def escapedChar? (width : Nat) (cs : List Char) : Option Char :=
  let digits := cs.take width
  if digits.length == width && digits.all (isDigitIn 16) then
    let n := valueIn 16 digits
    if n.isValidChar then some (Char.ofNat n) else none
  else none

/-- The number of characters that a backslash at the end of a line takes with it: the rest of
the line, which has to be blank, and all spaces after it. -/
def foldWidth? (cs : List Char) : Option Nat :=
  let blanks := (cs.takeWhile isBlank).length
  match cs.drop blanks with
  | [] => some blanks
  | c :: rest => if c == '\n' then some (blanks + 1 + (rest.takeWhile isSpace).length) else none

/-- What an escape stands for, and how many characters it has after the backslash. -/
def escape? (multiline : Bool) (cs : List Char) : Option (List Char × Nat) :=
  match cs with
  | [] => none
  | c :: rest =>
    if multiline && isSpace c then (foldWidth? cs).map fun n => ([], n)
    else if c == 'u' then (escapedChar? 4 rest).map fun x => ([x], 5)
    else if c == 'U' then (escapedChar? 8 rest).map fun x => ([x], 9)
    else if c == 'b' then some (['\x08'], 1)
    else if c == 't' then some (['\t'], 1)
    else if c == 'n' then some (['\n'], 1)
    else if c == 'f' then some (['\x0c'], 1)
    else if c == 'r' then some (['\r'], 1)
    else if c == '"' || c == '\\' then some ([c], 1)
    else none

/-- Puts characters in front of a text that was read. -/
def prepend (cs : List Char) (r : Option (List Char × List Char)) :
    Option (List Char × List Char) :=
  r.map fun (text, rest) => (cs ++ text, rest)

/-- Reads up to the closing double quotes, after the opening ones; the first characters, which
belong to an escape, are skipped. -/
def basicBody (multiline : Bool) : Nat → List Char → Option (List Char × List Char)
  | _, [] => none
  | k + 1, _ :: cs => basicBody multiline k cs
  | 0, c :: cs =>
    if c == '"' then
      if !multiline then some ([], cs)
      else if cs.take 2 == ['"', '"'] then some ([], cs.drop 2)
      else prepend ['"'] (basicBody multiline 0 cs)
    else if c == '\\' then
      match escape? multiline cs with
      | some (text, width) => prepend text (basicBody multiline width cs)
      | none => none
    else if (if multiline then isControlInLines c else isControl c) then none
    else prepend [c] (basicBody multiline 0 cs)

/-- Reads up to the closing single quote, after the opening one. -/
def literalBody : List Char → Option (List Char × List Char)
  | [] => none
  | c :: cs =>
    if c == '\'' then some ([], cs)
    else if isControl c then none
    else prepend [c] (literalBody cs)

/-- Reads up to three closing single quotes, after the opening ones. -/
def literalLines : List Char → Option (List Char × List Char)
  | [] => none
  | c :: cs =>
    if c == '\'' && cs.take 2 == ['\'', '\''] then some ([], cs.drop 2)
    else if isControlInLines c then none
    else prepend [c] (literalLines cs)

/-- The characters after a line end that directly follows opening quotes. -/
def afterFirstLineEnd : List Char → List Char
  | '\n' :: cs => cs
  | cs => cs

/-- Gives a text up to two quotes more that directly follow its closing ones. -/
def withExtraQuotes (quote : Char) (text : List Char) (rest : List Char) : List Char × List Char :=
  let extra := ((rest.take 2).takeWhile (· == quote)).length
  (text ++ List.replicate extra quote, rest.drop extra)

/-- Reads a string on one line. -/
def line? : List Char → Option (List Char × List Char)
  | '"' :: cs => basicBody false 0 cs
  | '\'' :: cs => literalBody cs
  | _ => none

/-- Reads a string. -/
def text? : List Char → Option (List Char × List Char)
  | '"' :: '"' :: '"' :: cs => do
    let (text, rest) ← basicBody true 0 (afterFirstLineEnd cs)
    return withExtraQuotes '"' text rest
  | '\'' :: '\'' :: '\'' :: cs => do
    let (text, rest) ← literalLines (afterFirstLineEnd cs)
    return withExtraQuotes '\'' text rest
  | cs => line? cs

/-! ## Numbers -/

/-- The digits at the beginning, without the underscores between two of them. -/
def digitRun (base : Nat) : List Char → List Char × List Char
  | [] => ([], [])
  | c :: cs =>
    if isDigitIn base c then
      let (ds, rest) := digitRun base cs
      (c :: ds, rest)
    else if c == '_' && (cs.head?.map (isDigitIn base)).getD false then digitRun base cs
    else ([], c :: cs)

/-- Reads at least one digit. -/
def digits? (base : Nat) (cs : List Char) : Option (List Char × List Char) :=
  if (cs.head?.map (isDigitIn base)).getD false then some (digitRun base cs) else none

/-- Reads an integer in another base. -/
def based? : List Char → Option (Value × List Char)
  | '0' :: mark :: cs => do
    let base ← if mark == 'x' then some 16 else if mark == 'b' then some 2
      else if mark == 'o' then some 8 else none
    let (ds, rest) ← digits? base cs
    return (.integer (valueIn base ds), rest)
  | _ => none

/-- Reads the digits before the point: a zero, or digits that do not begin with one. -/
def whole? : List Char → Option (List Char × List Char)
  | '0' :: cs => some (['0'], cs)
  | cs => digits? 10 cs

/-- The digits after the point, if any. -/
def fraction (cs : List Char) : List Char × List Char :=
  match cs with
  | '.' :: r => (digits? 10 r).getD ([], cs)
  | _ => ([], cs)

/-- The exponent, if any. -/
def exponent? (cs : List Char) : Option (Int × List Char) :=
  match cs with
  | mark :: r =>
    if mark == 'e' || mark == 'E' then do
      let (negative, ds) := Decimal.splitSign r
      let (ds, rest) ← digits? 10 ds
      return (if negative then -(valueIn 10 ds : Int) else valueIn 10 ds, rest)
    else none
  | [] => none

/-- Reads a decimal number; with a point or an exponent it is no integer. -/
def decimal? (cs : List Char) : Option (Value × List Char) := do
  let (negative, body) := Decimal.splitSign cs
  let (w, afterWhole) ← whole? body
  let (f, afterFraction) := fraction afterWhole
  match exponent? afterFraction with
  | some (e, rest) => return (.number ((Decimal.ofParts w f e).toBinary64 negative), rest)
  | none =>
    if f.isEmpty then
      let n : Int := valueIn 10 w
      return (.integer (if negative then -n else n), afterWhole)
    else return (.number ((Decimal.ofParts w f 0).toBinary64 negative), afterFraction)

/-- Reads the words for infinity and for no number. -/
def special? (cs : List Char) : Option (Value × List Char) :=
  let (negative, body) := Decimal.splitSign cs
  match body with
  | 'i' :: 'n' :: 'f' :: rest => some (.number (.infinite negative), rest)
  | 'n' :: 'a' :: 'n' :: rest => some (.number .nan, rest)
  | _ => none

/-! ## Dates and times -/

/-- Reads so many digits as a number in a range. -/
def fixed? (width least most : Nat) (cs : List Char) : Option (Nat × List Char) :=
  let ds := cs.take width
  let n := valueIn 10 ds
  if ds.length == width && ds.all Char.isDigit && least ≤ n && n ≤ most then
    some (n, cs.drop width)
  else none

/-- Reads one character. -/
def mark? (c : Char) : List Char → Option (List Char)
  | x :: cs => if x == c then some cs else none
  | [] => none

/-- How many days a month has. -/
def daysIn (year month : Nat) : Nat :=
  if month == 2 then
    if year % 4 == 0 && (year % 100 != 0 || year % 400 == 0) then 29 else 28
  else if month == 4 || month == 6 || month == 9 || month == 11 then 30
  else 31

/-- Reads a day of the calendar. -/
def date? (cs : List Char) : Option (List Char) := do
  let (year, cs) ← fixed? 4 1 9999 cs
  let (month, cs) ← fixed? 2 1 12 (← mark? '-' cs)
  let (_, cs) ← fixed? 2 1 (daysIn year month) (← mark? '-' cs)
  return cs

/-- The rest after a fraction of a second, if any. -/
def afterSecondFraction (cs : List Char) : List Char :=
  match cs with
  | '.' :: d :: r => if d.isDigit then r.dropWhile Char.isDigit else cs
  | _ => cs

/-- Reads a time of the day. -/
def time? (cs : List Char) : Option (List Char) := do
  let (_, cs) ← fixed? 2 0 23 cs
  let (_, cs) ← fixed? 2 0 59 (← mark? ':' cs)
  let (_, cs) ← fixed? 2 0 59 (← mark? ':' cs)
  return afterSecondFraction cs

/-- Reads a distance from universal time. -/
def offset? (cs : List Char) : Option (List Char) :=
  match cs with
  | c :: rest =>
    if c == 'Z' || c == 'z' then some rest
    else if c == '+' || c == '-' then do
      let (_, cs) ← fixed? 2 0 23 rest
      let (_, cs) ← fixed? 2 0 59 (← mark? ':' cs)
      return cs
    else none
  | [] => none

/-- The rest after the time that belongs to a date, if any. -/
def afterDayTime (cs : List Char) : List Char :=
  match cs with
  | c :: rest =>
    if c == 'T' || c == 't' || c == ' ' then
      match time? rest with
      | some after => (offset? after).getD after
      | none => cs
    else cs
  | [] => cs

/-- Reads a date, a time, or both. -/
def moment? (cs : List Char) : Option (Value × List Char) :=
  match date? cs with
  | some rest => some (.moment, afterDayTime rest)
  | none => (time? cs).map fun rest => (.moment, rest)

/-- Reads a boolean. -/
def boolean? : List Char → Option (Value × List Char)
  | 't' :: 'r' :: 'u' :: 'e' :: rest => some (.boolean true, rest)
  | 'f' :: 'a' :: 'l' :: 's' :: 'e' :: rest => some (.boolean false, rest)
  | _ => none

/-- The number of digits of a value that is an integer and stands at the beginning. -/
def integerLength? (cs : List Char) : Value → Option Nat
  | .integer _ => (whole? (Decimal.splitSign cs).2).map fun (ds, _) => ds.length
  | _ => none

/-- Reads a decimal number, unless it is an integer with too many digits. -/
def limitedDecimal (cs : List Char) (v : Value × List Char) : Except Flaw (Value × List Char) :=
  match integerLength? cs v.1 with
  | some n => if Text.digitLimit < n then .error (.longInteger n) else .ok v
  | none => .ok v

/-- Reads a value that holds no other values. -/
def scalar (cs : List Char) : Except Flaw (Value × List Char) :=
  match cs with
  | c :: _ =>
    if c == '"' || c == '\'' then
      orMalformed ((text? cs).map fun (s, rest) => (.string (String.ofList s), rest))
    else
      match ((boolean? cs).or (moment? cs)).or (based? cs), decimal? cs with
      | some read, _ => .ok read
      | none, some read => limitedDecimal cs read
      | none, none => orMalformed (special? cs)
  | [] => .error .malformed

end PlainMath.Toml
