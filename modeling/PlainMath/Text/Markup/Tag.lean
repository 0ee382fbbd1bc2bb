/-
# `Text.Markup.Tag` — tags and what can be wrong with them

A tag opens a style, and a tag with a slash in front closes it: the innermost one of that
name, or simply the innermost one if no name is given.  Styles may stay open.  A tag whose
name begins with an at sign is an action, and its parameters have to be values when it is
closed.
-/
import PlainMath.Text.Markup
import PlainMath.Text.Markup.Literal
import PlainMath.Text.Markup.Style

namespace PlainMath.Text.Markup

/-- A tag: its name, and its parameters behind an equals sign. -/
structure Tag where
  name : String
  parameters : Option (List Char) := none
  deriving DecidableEq

/-- The tag between these brackets. -/
def Tag.ofChars (cs : List Char) : Tag :=
  match cs.span (· != '=') with
  | (name, _ :: parameters) => ⟨String.ofList name, some parameters⟩
  | (name, []) => ⟨String.ofList name, none⟩

/-- The tags of a text that are not escaped.  The first `skipped` characters belong to a tag, and
`pending` backslashes stand right before the text. -/
def tagsFrom (skipped pending : Nat) : List Char → List Tag
  | [] => []
  | c :: cs =>
    match skipped with
    | n + 1 => tagsFrom n 0 cs
    | 0 =>
      if c == '\\' then tagsFrom 0 (pending + 1) cs
      else if c == '[' then
        match tagWidth? cs with
        | some width =>
          if pending % 2 == 1 then tagsFrom width 0 cs
          else Tag.ofChars (cs.take (width - 1)) :: tagsFrom width 0 cs
        | none => tagsFrom 0 0 cs
      else tagsFrom 0 0 cs

/-- The tags of a text. -/
def tags (markup : String) : List Tag := tagsFrom 0 0 markup.toList

/-- A text without brackets has no tags. -/
theorem tagsFrom_eq_nil {cs : List Char} (h : '[' ∉ cs) (skipped pending : Nat) :
    tagsFrom skipped pending cs = [] := by
  induction cs generalizing skipped pending with
  | nil => rfl
  | cons c cs ih =>
    have hc : c ≠ '[' := fun e => h (by simp [e])
    have hcs : '[' ∉ cs := fun m => h (List.mem_cons_of_mem c m)
    cases skipped with
    | succ n => exact ih hcs n 0
    | zero =>
      rw [tagsFrom]
      simp [hc, ih hcs]

/-- Why markup cannot be read. -/
inductive Fault where
  /-- A tag closes a style that is not open. -/
  | notOpen (name : String)
  /-- A tag without a name closes something, and nothing is open. -/
  | nothingOpen
  /-- The parameters of an action are no values. -/
  | parameters (text : String)
  /-- A colour has three parts, one of which has no digits or too many. -/
  | color (flaw : ColorFlaw)
  deriving DecidableEq

/-- The message of a fault. -/
def Fault.message : Fault → String
  | .notOpen name => "A tag closes " ++ name ++ ", which is not open."
  | .nothingOpen => "A tag closes a style, and none is open."
  | .parameters text => "The parameters " ++ text ++ " are no values."
  | .color (.longPart digits) => "A part of a colour has " ++ toString digits ++ " digits."
  | .color _ => "A part of a colour has no digits."

/-- The name of the style of a tag. -/
def nameOf (cs : List Char) : Except Fault String := (styleName cs).mapError Fault.color

/-- The values among the parameters of an action: what stands in parentheses behind the name of
a handler, nothing if there is the name only, and everything if there is none. -/
def values (parameters : List Char) : List Char :=
  let ps := strip parameters
  match ps.dropWhile fun c => isWordChar c || c == '.' with
  | [] => []
  | c :: rest =>
    if c == '(' && rest.getLast? == some ')' && !rest.contains '\n' then c :: rest else ps

/-- Checks a tag that is closed. -/
def checkClosed (t : Tag) : Except Fault Unit :=
  if t.name.toList.head? == some '@' then
    let vs := values (t.parameters.getD [])
    if vs.isEmpty || Literal.isLiteral vs then .ok ()
    else .error (.parameters (String.ofList (t.parameters.getD [])))
  else .ok ()

/-- Closes the innermost tag of this name, or simply the innermost one. -/
def close (opened : List Tag) (name : List Char) : Except Fault (List Tag) :=
  match strip name with
  | [] =>
    match opened with
    | t :: rest => do
      checkClosed t
      return rest
    | [] => .error .nothingOpen
  | cs => do
    let name ← nameOf cs
    match opened.find? (·.name == name) with
    | some t => do
      checkClosed t
      return opened.eraseP (·.name == name)
    | none => throw (.notOpen name)

/-- The tags that are open after one more tag, the innermost first. -/
def step (opened : List Tag) (t : Tag) : Except Fault (List Tag) :=
  match t.name.toList with
  | '/' :: name => close opened name
  | cs => do
    let name ← nameOf cs
    return ⟨name, t.parameters⟩ :: opened

/-- What is wrong with markup, if anything is. -/
def fault? (markup : String) : Option Fault :=
  match (tags markup).foldlM step [] with
  | .ok _ => none
  | .error f => some f

end PlainMath.Text.Markup
