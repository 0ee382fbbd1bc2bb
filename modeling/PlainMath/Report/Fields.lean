/-
# `Report.Fields` — a report from a record

The fields of a record may hold anything.  A number may be given as such, as a yes or no
standing for one or zero, or as a numeral; a text only as such.  All issues are told at once,
in the order of the fields.
-/
import PlainMath.Number.Numeral
import PlainMath.Report
import PlainMath.Value

namespace PlainMath.Report

/-- A value that is no integer. -/
def noInteger (field : String) : Issue := ⟨field, "int_type", "Input should be a valid integer"⟩

/-- A text that is no integer. -/
def unclearInteger (field : String) : Issue :=
  ⟨field, "int_parsing", "Input should be a valid integer, unable to parse string as an integer"⟩

/-- A text with too many digits, or a number beyond 64 bits. -/
def longInteger (field : String) : Issue :=
  ⟨field, "int_parsing_size", "Unable to parse input string as an integer, exceeded maximum size"⟩

/-- A number between two integers. -/
def fractionalInteger (field : String) : Issue :=
  ⟨field, "int_from_float",
    "Input should be a valid integer, got a number with a fractional part"⟩

/-- A number that is infinite or none. -/
def unboundedInteger (field : String) : Issue :=
  ⟨field, "finite_number", "Input should be a finite number"⟩

/-- The characters without a point and zeros at the end. -/
def withoutZeroFraction (cs : List Char) : List Char :=
  match cs.dropWhile (· != '.') with
  | _ :: zeros => if zeros.all (· == '0') then cs.takeWhile (· != '.') else cs
  | [] => cs

/-- Reads an integer as people type it. -/
def integer? (s : String) : Option Int := do
  let cs ← Numeral.withoutSeparators? (withoutZeroFraction (Numeral.trim s.toList))
  let (negative, digits) := Decimal.splitSign cs
  if digits.isEmpty || !digits.all Char.isDigit then none
  else
    let n : Int := Decimal.digitsValue digits
    return if negative then -n else n

/-- Reads an integer. -/
def readInteger (field : String) : Value → Except Issue Int
  | .integer i => .ok i
  | .boolean b => .ok (if b then 1 else 0)
  | .number (.finite negative rank) =>
    match (Binary64.finite negative rank).toInt? with
    | some i => if -Int.pow 2 63 < i && i < Int.pow 2 63 then .ok i else .error (longInteger field)
    | none => .error (fractionalInteger field)
  | .number _ => .error (unboundedInteger field)
  | .string s =>
    if Text.digitLimit < s.utf8ByteSize then .error (longInteger field)
    else
      match integer? s with
      | some i => .ok i
      | none => .error (unclearInteger field)
  | _ => .error (noInteger field)

/-- Reads a number that has to be at least one. -/
def readCount (field : String) : Option Value → Except Issue Int
  | none => .error (.missing field)
  | some v => do
    let i ← readInteger field v
    if i < 1 then throw (.belowOne field) else return i

/-- Reads a text. -/
def readText (field : String) : Option Value → Except Issue String
  | none => .error (.missing field)
  | some (.string s) => .ok s
  | some _ => .error (.noText field)

/-- Reads a text that may be absent. -/
def readOptionalText (field : String) : Option Value → Except Issue (Option String)
  | none | some .null => .ok none
  | some (.string s) => .ok (some s)
  | some _ => .error (.noText field)

/-- The report with these fields; other fields do not matter. -/
def ofFields (fields : List (String × Value)) : Except (List Issue) Report :=
  let kind := readText "kind" (Value.field? "kind" fields)
  let message := readText "message" (Value.field? "message" fields)
  let line := readCount "line" (Value.field? "line" fields)
  let column := readCount "column" (Value.field? "column" fields)
  let sourceLine := readOptionalText "source_line" (Value.field? "source_line" fields)
  let suggestion := readOptionalText "suggestion" (Value.field? "suggestion" fields)
  match kind, message, line, column, sourceLine, suggestion with
  | .ok kind, .ok message, .ok line, .ok column, .ok sourceLine, .ok suggestion =>
    .ok ⟨kind, message, ⟨line, column⟩, sourceLine, suggestion⟩
  | _, _, _, _, _, _ =>
    .error
      (Issue.ofResult kind ++ Issue.ofResult message ++ Issue.ofResult line ++
        Issue.ofResult column ++ Issue.ofResult sourceLine ++ Issue.ofResult suggestion)

end PlainMath.Report
