/-
# `Text.Markup.Style` — what a tag says about its text

A style is written as words: attributes, each of which may be negated, a colour, a colour
behind `on` for the background, and a target behind `link`.  Styles with the same effect have
one name, so that a closing tag may spell its style differently from the opening one.
-/
import PlainMath.Text.Blank
import PlainMath.Text.LowerCase
import PlainMath.Text.Markup.Color

namespace PlainMath.Text.Markup

/-- The attributes of a text. -/
inductive Attribute where
  | bold
  | dim
  | italic
  | underline
  | blink
  | fastBlink
  | reverse
  | conceal
  | strike
  | doubleUnderline
  | frame
  | encircle
  | overline
  deriving DecidableEq

namespace Attribute

/-- All attributes, in the order in which a style names them. -/
def all : List Attribute :=
  [.bold, .dim, .italic, .underline, .blink, .fastBlink, .reverse, .conceal, .strike,
    .doubleUnderline, .frame, .encircle, .overline]

/-- The name of an attribute. -/
def name : Attribute → String
  | .bold => "bold"
  | .dim => "dim"
  | .italic => "italic"
  | .underline => "underline"
  | .blink => "blink"
  | .fastBlink => "blink2"
  | .reverse => "reverse"
  | .conceal => "conceal"
  | .strike => "strike"
  | .doubleUnderline => "underline2"
  | .frame => "frame"
  | .encircle => "encircle"
  | .overline => "overline"

/-- The short name of an attribute that has one. -/
def shortName? : Attribute → Option String
  | .bold => some "b"
  | .dim => some "d"
  | .italic => some "i"
  | .underline => some "u"
  | .reverse => some "r"
  | .conceal => some "c"
  | .strike => some "s"
  | .doubleUnderline => some "uu"
  | .overline => some "o"
  | .blink | .fastBlink | .frame | .encircle => none

/-- The attribute of this name, short or not. -/
def ofName? (word : String) : Option Attribute :=
  all.find? fun a => a.name == word || a.shortName? == some word

end Attribute

/-- A style. -/
structure Style where
  /-- Attributes that are on or off, the latest first. -/
  attributes : List (Attribute × Bool) := []
  color : Option String := none
  background : Option String := none
  link : Option String := none

namespace Style

/-- The words of a style, in a fixed order. -/
def words (s : Style) : List String :=
  (Attribute.all.flatMap fun a =>
      match s.attributes.lookup a with
      | some true => [a.name]
      | some false => ["not", a.name]
      | none => []) ++
    s.color.toList ++
    (match s.background with
      | some color => ["on", color]
      | none => []) ++
    (match s.link with
      | some target => ["link", target]
      | none => [])

/-- The name of a style. -/
def name (s : Style) : String :=
  if s.words.isEmpty then "none" else " ".intercalate s.words

/-- The style with more words read. -/
def read (s : Style) : List String → Except ColorFlaw Style
  | [] => .ok s
  | word :: rest =>
    let small := lower word
    if small == "on" then
      match rest with
      | color :: rest => do
        readColor (lower color)
        read { s with background := some (lower color) } rest
      | [] => .error .unknown
    else if small == "not" then
      match rest with
      | word :: rest =>
        match Attribute.ofName? word with
        | some a => read { s with attributes := (a, false) :: s.attributes } rest
        | none => .error .unknown
      | [] => .error .unknown
    else if small == "link" then
      match rest with
      | target :: rest => read { s with link := some target } rest
      | [] => .error .unknown
    else
      match Attribute.ofName? small with
      | some a => read { s with attributes := (a, true) :: s.attributes } rest
      | none => do
        readColor small
        read { s with color := some small } rest

end Style

/-- The words of a text. -/
def wordsOf (cs : List Char) : List String :=
  ((splitAt ' ' (cs.map fun c => if isBlank c then ' ' else c)).filter (!·.isEmpty)).map
    String.ofList

/-- The name of the style that is written so, or what is written itself, in small letters, if it
is no style. -/
def styleName (cs : List Char) : Except ColorFlaw String :=
  match Style.read {} (wordsOf cs) with
  | .ok s => .ok s.name
  | .error .unknown => .ok (lower (String.ofList (strip cs)))
  | .error flaw => .error flaw

end PlainMath.Text.Markup
