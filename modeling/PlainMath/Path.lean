/-
# `Path` — names of files

A path is a root, if any, and the names below it.  Empty names and single dots between
slashes say nothing and vanish; double dots stay.  Main operation: the default destination of
an input, which replaces the ending of a source file and is appended to any other name.
-/
import PlainMath.Text.Lines
import PlainMath.Text.Quoted

namespace PlainMath

/-- Where a path starts. -/
inductive Path.Root where
  /-- In the working directory. -/
  | none
  /-- At one slash, or at three and more. -/
  | slash
  /-- At exactly two slashes. -/
  | doubleSlash
  deriving DecidableEq

/-- The name of a file or directory. -/
structure Path where
  root : Path.Root
  parts : List String
  deriving DecidableEq

namespace Path

/-- The slashes of a root. -/
def Root.text : Root → String
  | .none => ""
  | .slash => "/"
  | .doubleSlash => "//"

/-- The root that a text starts with. -/
def Root.ofChars : List Char → Root
  | '/' :: '/' :: '/' :: _ => .slash
  | '/' :: '/' :: _ => .doubleSlash
  | '/' :: _ => .slash
  | _ => .none

/-- Whether a name between slashes says something. -/
def isPart (name : List Char) : Bool := name != [] && name != ['.']

/-- Reads a path. -/
def ofString (s : String) : Path :=
  ⟨.ofChars s.toList, ((Text.splitAt '/' s.toList).filter isPart).map String.ofList⟩

/-- The text of a path; a single dot stands for the working directory. -/
def text (p : Path) : String :=
  if p.root = .none && p.parts.isEmpty then "."
  else p.root.text ++ "/".intercalate p.parts

/-- The last name, empty if there is none. -/
def name (p : Path) : String := p.parts.getLast?.getD ""

/-- The path without its last name. -/
def parent (p : Path) : Path := ⟨p.root, p.parts.dropLast⟩

/-- The path with its last name replaced, whatever the new one is. -/
def rename (p : Path) (name : String) : Path := ⟨p.root, p.parts.dropLast ++ [name]⟩

/-- The stem and the ending of a name.  The ending begins at the last dot, unless that is the
first or the last character. -/
def splitName (name : String) : List Char × List Char :=
  let back := name.toList.reverse
  let ending := (back.takeWhile (· != '.')).reverse
  match (back.dropWhile (· != '.')).reverse.dropLast with
  | [] => (name.toList, [])
  | stem => if ending.isEmpty then (name.toList, []) else (stem, '.' :: ending)

/-- The ending of the last name, with its dot. -/
def suffix (p : Path) : String := String.ofList (splitName p.name).2

/-- Why a path has no variant with another name or ending. -/
inductive RenameError where
  | emptyName (p : Path)
  | invalidSuffix (suffix : String)
  | invalidName (name : String)
  deriving DecidableEq

/-- The message of an error. -/
def RenameError.message : RenameError → String
  | .emptyName p => "PosixPath(" ++ Text.quoted p.text ++ ") has an empty name"
  | .invalidSuffix s => "Invalid suffix " ++ Text.quoted s
  | .invalidName n => "Invalid name " ++ Text.quoted n

/-- Whether a text is an ending: empty, or a dot and more, without slashes. -/
def isSuffix (s : String) : Bool :=
  match s.toList with
  | [] => true
  | c :: cs => c == '.' && !cs.isEmpty && !cs.contains '/'

/-- The path with another ending. -/
def withSuffix (p : Path) (suffix : String) : Except RenameError Path :=
  if !isSuffix suffix then .error (.invalidSuffix suffix)
  else if p.name = "" then .error (.emptyName p)
  else .ok (p.rename (String.ofList (splitName p.name).1 ++ suffix))

/-- Whether a text is one name: not rooted, not ended by a slash, with one part. -/
def isName (s : String) : Bool :=
  let p := ofString s
  p.root = .none && s.toList.getLast? != some '/' && p.parts.length == 1

/-- The path with another last name. -/
def withName (p : Path) (name : String) : Except RenameError Path :=
  if p.name = "" then .error (.emptyName p)
  else if !isName name then .error (.invalidName name)
  else .ok (p.rename name)

/-- The ending of source files. -/
def sourceSuffix : String := ".ed"

/-- Where the result for an input goes unless it is said otherwise. -/
def destination (input : Path) (suffix : String) : Except RenameError Path :=
  if input.suffix = sourceSuffix then input.withSuffix suffix
  else input.withName (input.name ++ suffix)

end Path

end PlainMath
