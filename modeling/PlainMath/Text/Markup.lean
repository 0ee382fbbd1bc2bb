/-
# `Text.Markup` — plain text among styled text

A console reads tags such as `[bold]` as styles.  Escaping puts a backslash in front of
everything that looks like a tag, so that it is shown and not read.  A backslash in front of any
other bracket is not shown either.
-/
namespace PlainMath.Text

/-- Whether a character can begin the name of a tag. -/
def isTagStart (c : Char) : Bool :=
  ('a'.toNat ≤ c.toNat && c.toNat ≤ 'z'.toNat) || c == '#' || c == '/' || c == '@'

/-- How many characters a tag has after its opening bracket. -/
def tagWidth? (cs : List Char) : Option Nat :=
  match cs with
  | c :: rest =>
    let name := rest.takeWhile fun x => x != '[' && x != ']'
    if isTagStart c && (rest.drop name.length).head? == some ']' then some (name.length + 2)
    else none
  | [] => none

/-- Escapes the tags of a text.  The first `copied` characters belong to a tag that was
escaped already, and `pending` backslashes stand right before the text. -/
def escapeTags (copied pending : Nat) : List Char → List Char
  | [] => List.replicate pending '\\'
  | c :: cs =>
    match copied with
    | n + 1 => c :: escapeTags n 0 cs
    | 0 =>
      if c == '\\' then escapeTags 0 (pending + 1) cs
      else if c == '[' then
        match tagWidth? cs with
        | some width => List.replicate (2 * pending + 1) '\\' ++ c :: escapeTags width 0 cs
        | none => List.replicate pending '\\' ++ c :: escapeTags 0 0 cs
      else List.replicate pending '\\' ++ c :: escapeTags 0 0 cs

/-- Doubles a single backslash at the end. -/
def closeBackslash (cs : List Char) : List Char :=
  if cs.getLast? == some '\\' && cs.dropLast.getLast? != some '\\' then cs ++ ['\\'] else cs

/-- The text as markup, with its tags escaped. -/
def escape (s : String) : String :=
  String.ofList (closeBackslash (escapeTags 0 0 s.toList))

/-- Takes tags off, and the backslashes off escaped ones, and one backslash off every other
opening bracket.  The first `dropped` characters belong to a tag, and `pending` backslashes stand
right before the text. -/
def unmarkFrom (dropped pending : Nat) : List Char → List Char
  | [] => List.replicate pending '\\'
  | c :: cs =>
    match dropped with
    | n + 1 => unmarkFrom n 0 cs
    | 0 =>
      if c == '\\' then unmarkFrom 0 (pending + 1) cs
      else if c == '[' then
        match tagWidth? cs with
        | some width =>
          List.replicate (pending / 2) '\\' ++
            if pending % 2 == 1 then c :: unmarkFrom 0 0 cs else unmarkFrom width 0 cs
        | none => List.replicate (pending - 1) '\\' ++ c :: unmarkFrom 0 0 cs
      else List.replicate pending '\\' ++ c :: unmarkFrom 0 0 cs

/-- The text that markup shows, without its styles; names of pictures between colons stay as
they are. -/
def unmark (markup : String) : String := String.ofList (unmarkFrom 0 0 markup.toList)

/-- Whether a character moves the cursor of a console; consoles are not given such. -/
def isCursorControl (c : Char) : Bool :=
  c.toNat == 7 || c.toNat == 8 || c.toNat == 11 || c.toNat == 12 || c.toNat == 13

/-- The text without characters that move the cursor. -/
def printable (s : String) : String :=
  String.ofList (s.toList.filter fun c => !isCursorControl c)

end PlainMath.Text
