/-
# `Settings.Load` — settings from the nearest project file

The project file is looked for in a directory and then in the directories around it.  Only
the nearest one counts, whatever it holds; a file that cannot be read as a document sets
nothing.  What is given on the way in wins over the file, and the file over the defaults.
-/
import PlainMath.Disk
import PlainMath.Settings
import PlainMath.Toml

namespace PlainMath.Settings

/-- The name of project files. -/
def projectFile : String := "pyproject.toml"

/-- Why settings cannot be loaded. -/
inductive LoadError where
  /-- The directory cannot be looked for. -/
  | unreachable (e : DiskError)
  /-- The project file is not UTF-8. -/
  | undecodable
  /-- An integer in the project file has too many digits. -/
  | longInteger (digits : Nat)
  /-- The table of all tools is no table. -/
  | toolsNoTable
  /-- The section of this tool is no table. -/
  | sectionNoTable
  /-- Some of the settings are refused. -/
  | refused (issues : List Issue)
  deriving DecidableEq

/-- The path of the project file in a directory. -/
def projectPath (directory : Location) : Path := ⟨.slash, directory.names ++ [projectFile]⟩

/-- The content of the first project file in some directories. -/
def firstFile? (d : Disk) : List Location → Except DiskError (Option ByteArray)
  | [] => .ok none
  | directory :: rest =>
    match d.read (projectPath directory) with
    | .ok content => .ok (some content)
    | .error ⟨.nameTooLong, _⟩ => .error .nameTooLong
    | .error ⟨.nullInName, _⟩ => .error .nullInName
    | .error _ => firstFile? d rest

/-- The content of the nearest project file. -/
def nearest? (d : Disk) (l : Location) : Except DiskError (Option ByteArray) :=
  firstFile? d l.upward

/-- The fields of this tool's section of a document. -/
def sectionFields (document : List (String × Value)) : Except LoadError (List (String × Value)) :=
  match Value.field? "tool" document with
  | none => .ok []
  | some (.table tools) =>
    match Value.field? "euclid" tools with
    | none => .ok []
    | some (.table fields) => .ok fields
    | some _ => .error .sectionNoTable
  | some _ => .error .toolsNoTable

/-- The settings of a project file. -/
def projectFields (content : ByteArray) : Except LoadError (List (String × Value)) :=
  match String.fromUTF8? content with
  | none => .error .undecodable
  | some text =>
    match Toml.parse text with
    | .ok document => sectionFields document
    | .error (.longInteger digits) => .error (.longInteger digits)
    | .error .malformed => .ok []

/-- Loads the settings that hold in a directory; the given ones win over the file's. -/
def load (given : Draft) (d : Disk) (directory : Path) : Except LoadError Settings := do
  let fields ←
    match nearest? d (d.place directory) with
    | .ok (some content) => projectFields content
    | .ok none => .ok []
    | .error e => .error (.unreachable e)
  match ofDraft (given.completedBy (.ofFields fields)) with
  | .ok settings => return settings
  | .error issues => throw (.refused issues)

end PlainMath.Settings
