/-
# `Settings` — what can be configured

Settings are drafted as values and then checked field by field.  Every field is read on its
own; a draft is accepted when each of its fields is, and otherwise all the issues are
reported, in the order of the fields.
-/
import PlainMath.Issue
import PlainMath.Mode
import PlainMath.Number.Numeral
import PlainMath.Text.LowerCase
import PlainMath.Value

namespace PlainMath

/-- The settings of a run. -/
structure Settings where
  /-- How top-level expressions are delimited. -/
  mode : Mode := .plain
  /-- Whether the input is prose with embedded fragments. -/
  mixed : Bool := false
  /-- Whether tokens and trees are shown. -/
  verbose : Bool := false
  /-- The seconds between two looks at a watched file. -/
  interval : Binary64 := .one
  /-- The ending of the default output file. -/
  suffix : String := ".md"
  deriving DecidableEq

namespace Settings

/-! ## Reading one field -/

/-- Reads a mode: its name in any case, with blanks around it. -/
def readMode (field : String) : Value → Except Issue Mode
  | .string s =>
    let clean := String.ofList (Text.strip (Text.lower s).toList)
    match Mode.ofName? clean with
    | some mode => .ok mode
    | none =>
      .error
        ⟨field, "value_error",
          "Value error, Unknown math mode: '" ++ clean ++
            "'. Supported modes: ['none', 'inline', 'display']"⟩
  | _ => .error ⟨field, "enum", "Input should be 'none', 'inline' or 'display'"⟩

/-- The words for yes. -/
def yesWords : List String := ["1", "on", "t", "true", "y", "yes"]

/-- The words for no. -/
def noWords : List String := ["0", "off", "f", "false", "n", "no"]

/-- What is wrong with a value that could be a yes or a no but is neither. -/
def unclearFlag (field : String) : Issue :=
  ⟨field, "bool_parsing", "Input should be a valid boolean, unable to interpret input"⟩

/-- What is wrong with a value that cannot be a yes or a no. -/
def wrongFlag (field : String) : Issue := ⟨field, "bool_type", "Input should be a valid boolean"⟩

/-- Reads an integer as a yes or a no; one of more than 64 bits cannot be either. -/
def flagOfInt (field : String) (i : Int) : Except Issue Bool :=
  if i = 0 then .ok false
  else if i = 1 then .ok true
  else if -Int.pow 2 63 ≤ i && i < Int.pow 2 63 then .error (unclearFlag field)
  else .error (wrongFlag field)

/-- Reads a yes or a no: as such, as one or zero, or as one of a few words in any case. -/
def readFlag (field : String) : Value → Except Issue Bool
  | .boolean b => .ok b
  | .integer i => flagOfInt field i
  | .number x =>
    match x.toInt? with
    | some i => if -Int.pow 2 63 < i then flagOfInt field i else .error (wrongFlag field)
    | none => .error (wrongFlag field)
  | .string s =>
    let word := s.map Char.toLower
    if yesWords.contains word then .ok true
    else if noWords.contains word then .ok false
    else .error (unclearFlag field)
  | _ => .error (wrongFlag field)

/-- Reads a numeral with blanks around it or separators in it, but not with both. -/
def numeral? (s : String) : Option Binary64 :=
  (Binary64.read? (Numeral.trim s.toList)).or
    ((Numeral.withoutSeparators? s.toList).bind Binary64.read?)

/-- The message code of a value that is no number. -/
def wrongNumber (field : String) : Issue := ⟨field, "float_type", "Input should be a valid number"⟩

/-- Reads a number: as such, as a yes or no standing for one or zero, or as a numeral. -/
def readNumber (field : String) : Value → Except Issue Binary64
  | .boolean b => .ok (if b then .one else .zero)
  | .integer i =>
    match Binary64.ofInt i with
    | .infinite _ => .error (wrongNumber field)
    | x => .ok x
  | .number x => .ok x
  | .string s =>
    match numeral? s with
    | some x => .ok x
    | none =>
      .error
        ⟨field, "float_parsing",
          "Input should be a valid number, unable to parse string as a number"⟩
  | _ => .error (wrongNumber field)

/-- Reads a number above zero. -/
def readInterval (field : String) (v : Value) : Except Issue Binary64 := do
  let x ← readNumber field v
  if Binary64.zero.below x then return x
  else throw ⟨field, "greater_than", "Input should be greater than 0"⟩

/-- Reads the ending of a file; a missing dot is put in front. -/
def readSuffix (field : String) : Value → Except Issue String
  | .string s => .ok (if s.toList.head? = some '.' then s else "." ++ s)
  | _ => .error (.noText field)

/-! ## Drafts -/

/-- Settings before they are checked; a field that is not given is absent. -/
structure Draft where
  mode : Option Value := none
  mixed : Option Value := none
  verbose : Option Value := none
  interval : Option Value := none
  suffix : Option Value := none

namespace Draft

/-- The settings in a table; other fields do not matter. -/
def ofFields (fields : List (String × Value)) : Draft where
  mode := Value.field? "math_mode" fields
  mixed := Value.field? "mixed" fields
  verbose := Value.field? "verbose" fields
  interval := Value.field? "watch_interval" fields
  suffix := Value.field? "output_suffix" fields

/-- The first draft, completed by the second field by field. -/
def completedBy (upper lower : Draft) : Draft where
  mode := upper.mode.or lower.mode
  mixed := upper.mixed.or lower.mixed
  verbose := upper.verbose.or lower.verbose
  interval := upper.interval.or lower.interval
  suffix := upper.suffix.or lower.suffix

end Draft

/-- Reads a field that may be absent. -/
def readField {α : Type} (read : Value → Except Issue α) (default : α) :
    Option Value → Except Issue α
  | none => .ok default
  | some v => read v

/-- Checks a draft; absent fields have their defaults. -/
def ofDraft (d : Draft) : Except (List Issue) Settings :=
  let usual : Settings := {}
  let mode := readField (readMode "math_mode") usual.mode d.mode
  let mixed := readField (readFlag "mixed") usual.mixed d.mixed
  let verbose := readField (readFlag "verbose") usual.verbose d.verbose
  let interval := readField (readInterval "watch_interval") usual.interval d.interval
  let suffix := readField (readSuffix "output_suffix") usual.suffix d.suffix
  match mode, mixed, verbose, interval, suffix with
  | .ok mode, .ok mixed, .ok verbose, .ok interval, .ok suffix =>
    .ok ⟨mode, mixed, verbose, interval, suffix⟩
  | _, _, _, _, _ =>
    .error
      (Issue.ofResult mode ++ Issue.ofResult mixed ++ Issue.ofResult verbose ++
        Issue.ofResult interval ++ Issue.ofResult suffix)

end Settings

end PlainMath
