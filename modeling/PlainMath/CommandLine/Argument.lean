/-
# `CommandLine.Argument` — telling flags from other arguments

An argument that begins with a dash is a flag, unless it looks like a negative number or has
a space in it.  A flag is known by one of its spellings or by an unambiguous beginning of a
long one, and some text may be joined to it: its value, or more short flags.  After two dashes
alone everything is plain.
-/
import PlainMath.CommandLine.Grammar
import PlainMath.Text.Digit

namespace PlainMath.CommandLine

/-- What an argument is. -/
inductive Reading where
  | plain
  /-- Two dashes alone. -/
  | separator
  | unknownFlag
  /-- A flag, its spelling, and the text that is joined to it, with an equals sign or without. -/
  | flag (f : Flag) (name : String) (joined : Option (List Char))
  deriving DecidableEq

/-- An argument and what it is. -/
structure Argument where
  text : String
  reading : Reading
  deriving DecidableEq

namespace Argument

/-- Whether an argument is a flag. -/
def isFlag (a : Argument) : Bool :=
  match a.reading with
  | .unknownFlag | .flag _ _ _ => true
  | _ => false

/-- Whether an argument is neither a flag nor two dashes alone. -/
def isPlain (a : Argument) : Bool := a.reading = .plain

/-- Whether an argument is two dashes alone. -/
def isSeparator (a : Argument) : Bool := a.reading = .separator

end Argument

/-- The parts before and after the first equals sign, if there is one. -/
def splitEquals? (cs : List Char) : Option (List Char × List Char) :=
  match cs.dropWhile (· != '=') with
  | [] => none
  | _ :: value => some (cs.takeWhile (· != '='), value)

/-- Whether characters are digits with at most one point, and a digit after it. -/
def isNumber (cs : List Char) : Bool :=
  match cs.dropWhile Text.isDecimalDigit with
  | [] => !cs.isEmpty
  | '.' :: fraction => !fraction.isEmpty && fraction.all Text.isDecimalDigit
  | _ => false

/-- Whether an argument looks like a negative number; a line end may follow. -/
def isNegative (cs : List Char) : Bool :=
  match cs with
  | '-' :: rest => isNumber (if rest.getLast? == some '\n' then rest.dropLast else rest)
  | _ => false

/-- The flags that an argument without an exact spelling can mean. -/
def candidates (g : Grammar) (cs : List Char) : List (Flag × String × Option (List Char)) :=
  if cs.take 2 == ['-', '-'] then
    let (start, joined) : List Char × Option (List Char) :=
      match splitEquals? cs with
      | some (start, value) => (start, some value)
      | none => (cs, none)
    g.spellings.filterMap fun (name, f) =>
      if start.isPrefixOf name.toList then some (f, name, joined) else none
  else
    g.spellings.filterMap fun (name, f) =>
      if name.toList == cs.take 2 then some (f, name, some (cs.drop 2)) else none

/-- The flag that an argument spells exactly, with a value joined by an equals sign or not. -/
def spelled? (g : Grammar) (cs : List Char) : Option Reading :=
  match g.flag? (String.ofList cs) with
  | some f => some (.flag f (String.ofList cs) none)
  | none => do
    let (start, value) ← splitEquals? cs
    let f ← g.flag? (String.ofList start)
    return .flag f (String.ofList start) (some value)

/-- What a dashed argument without an exact spelling is. -/
def unspelled (g : Grammar) (cs : List Char) : Except Refusal Reading :=
  match candidates g cs with
  | [] => .ok (if isNegative cs || cs.contains ' ' then .plain else .unknownFlag)
  | [(f, name, joined)] => .ok (.flag f name joined)
  | many => .error (.ambiguous (String.ofList cs) (many.map fun c => c.2.1))

/-- What an argument before any separator is. -/
def reading (g : Grammar) (text : String) : Except Refusal Reading :=
  match text.toList with
  | '-' :: c :: rest =>
    match spelled? g ('-' :: c :: rest) with
    | some r => .ok r
    | none => unspelled g ('-' :: c :: rest)
  | _ => .ok .plain

/-- Tells what each argument is. -/
def arguments (g : Grammar) : List String → Except Refusal (List Argument)
  | [] => .ok []
  | text :: rest =>
    if text = "--" then .ok (⟨text, .separator⟩ :: rest.map fun t => ⟨t, .plain⟩)
    else do
      let r ← reading g text
      let more ← arguments g rest
      return ⟨text, r⟩ :: more

end PlainMath.CommandLine
