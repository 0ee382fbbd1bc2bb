/-
# `Disk` — files and directories

A disk says what stands at each location, which is a list of names from the root down.  One
directory is the working one; it and the directories around it are always there.  A path leads
to a location only through directories that exist.  Every write marks its file with a new
stamp, so that a later look tells whether the file was written in between.
-/
import PlainMath.Path

namespace PlainMath

/-- A place on the disk: the names that lead to it from the root. -/
structure Location where
  names : List String
  deriving DecidableEq

namespace Location

/-- The place of this name in a directory. -/
def child (l : Location) (name : String) : Location := ⟨l.names ++ [name]⟩

/-- The directory around a place; the root is its own. -/
def parent (l : Location) : Location := ⟨l.names.dropLast⟩

/-- One step along a path. -/
def step (l : Location) (name : String) : Location :=
  if name = "" || name = "." then l
  else if name = ".." then l.parent
  else l.child name

/-- The place and the directories around it, the nearest first. -/
def upward (l : Location) : List Location :=
  ((List.range (l.names.length + 1)).map fun n => ⟨l.names.take n⟩).reverse

end Location

/-- What can stand at a location. -/
inductive Entry where
  | file (content : ByteArray) (stamp : Nat)
  | directory

/-- Two files are the same if their bytes and their stamps are. -/
instance : DecidableEq Entry
  | .directory, .directory => isTrue rfl
  | .file _ _, .directory | .directory, .file _ _ => isFalse nofun
  | .file content stamp, .file content' stamp' =>
    match ByteArray.instDecidableEq content content', Nat.decEq stamp stamp' with
    | isTrue hcontent, isTrue hstamp => isTrue (hcontent ▸ hstamp ▸ rfl)
    | isFalse hcontent, _ => isFalse fun h => hcontent (Entry.file.inj h).1
    | _, isFalse hstamp => isFalse fun h => hstamp (Entry.file.inj h).2

/-- Files and directories by location. -/
structure Disk where
  working : Location
  entries : List (Location × Entry) := []
  /-- The stamp of the next write. -/
  clock : Nat := 0

/-- Why a request to the disk is refused. -/
inductive DiskError where
  | missing
  | exists
  | notDirectory
  | isDirectory
  | nameTooLong
  /-- The null character stands in no name. -/
  | nullInName
  deriving DecidableEq

namespace DiskError

/-- The number and the words of an error. -/
def reason : DiskError → String
  | .missing => "[Errno 2] No such file or directory"
  | .exists => "[Errno 17] File exists"
  | .notDirectory => "[Errno 20] Not a directory"
  | .isDirectory => "[Errno 21] Is a directory"
  | .nameTooLong => "[Errno 36] File name too long"
  | .nullInName => "embedded null byte"

end DiskError

/-- A refused request and the path it was about. -/
structure DiskFailure where
  error : DiskError
  path : Path
  deriving DecidableEq

/-- The message of a failure. -/
def DiskFailure.message (f : DiskFailure) : String :=
  f.error.reason ++ ": " ++ Text.quoted f.path.text

namespace Disk

/-- What stands at a location. -/
def find? (d : Disk) (l : Location) : Option Entry :=
  if l.names.isPrefixOf d.working.names then some .directory else d.entries.lookup l

/-- The disk with something else at a location. -/
def put (d : Disk) (l : Location) (e : Entry) : Disk :=
  { d with entries := (l, e) :: d.entries.filter (·.1 ≠ l) }

/-- The disk with nothing at a location. -/
def erase (d : Disk) (l : Location) : Disk :=
  { d with entries := d.entries.filter (·.1 ≠ l) }

/-- Removing a location hides it and nothing else. -/
theorem lookup_filter (entries : List (Location × Entry)) (l l' : Location) :
    (entries.filter (·.1 ≠ l)).lookup l' = if l' = l then none else entries.lookup l' := by
  induction entries with
  | nil => simp
  | cons x rest ih =>
    obtain ⟨k, e⟩ := x
    by_cases hk : k = l
    · rw [List.filter_cons_of_neg (by simp [hk]), ih, List.lookup_cons]
      by_cases hl : l' = l
      · simp [hl]
      · simp [hl, hk, beq_false_of_ne hl]
    · rw [List.filter_cons_of_pos (by simp [hk]), List.lookup_cons, List.lookup_cons, ih]
      by_cases hl : l' = k
      · simp [hl, hk]
      · simp [beq_false_of_ne hl]

/-- After `put` the location holds the entry, and every other one what it held. -/
theorem find?_put (d : Disk) (l l' : Location) (e : Entry) :
    (d.put l e).find? l' =
      if l'.names.isPrefixOf d.working.names then some .directory
      else if l' = l then some e
      else d.find? l' := by
  unfold find? put
  by_cases hp : l'.names.isPrefixOf d.working.names
  · simp [hp]
  · by_cases hl : l' = l
    · simp [hl]
    · rw [List.lookup_cons, lookup_filter]
      simp only [hl, beq_false_of_ne hl, if_neg hp, if_false]

/-- After `erase` the location holds nothing, and every other one what it held. -/
theorem find?_erase (d : Disk) (l l' : Location) :
    (d.erase l).find? l' =
      if l'.names.isPrefixOf d.working.names then some .directory
      else if l' = l then none
      else d.find? l' := by
  unfold find? erase
  rw [lookup_filter]
  by_cases hp : l'.names.isPrefixOf d.working.names <;> simp [hp]

/-- The names that lead to a location from a directory around it. -/
def relative? (directory l : Location) : Option (List String) :=
  if directory.names.isPrefixOf l.names then some (l.names.drop directory.names.length) else none

/-- The regular files below the working directory, with their paths. -/
def files (d : Disk) : List (String × ByteArray) :=
  d.entries.filterMap fun
    | (l, .file content _) =>
      (relative? d.working l).map fun names => ("/".intercalate names, content)
    | _ => none

/-! ## Paths on a disk -/

/-- The most bytes of a name. -/
def nameLimit : Nat := 255

/-- The most bytes of a path. -/
def pathLimit : Nat := 4095

/-- The location that names lead to from a directory.  Each but the last has to lead to a
directory. -/
def walk (d : Disk) (l : Location) : List String → Except DiskError Location
  | [] => .ok l
  | name :: rest =>
    if nameLimit < name.utf8ByteSize then .error .nameTooLong
    else
      match rest, d.find? (l.step name) with
      | [], _ => .ok (l.step name)
      | _, some .directory => walk d (l.step name) rest
      | _, some (.file _ _) => .error .notDirectory
      | _, none => .error .missing

/-- The names on the way to a path. -/
def steps (p : Path) : List String :=
  p.parts.flatMap fun part => (Text.splitAt '/' part.toList).map String.ofList

/-- The directory where a path starts. -/
def start (d : Disk) (p : Path) : Location := if p.root = .none then d.working else ⟨[]⟩

/-- The location of a path. -/
def locate (d : Disk) (p : Path) : Except DiskError Location :=
  if p.text.toList.contains '\x00' then .error .nullInName
  else if pathLimit < p.text.utf8ByteSize then .error .nameTooLong
  else d.walk (d.start p) (steps p)

/-- The location that a path names, whether or not anything is on the way to it. -/
def place (d : Disk) (p : Path) : Location := (steps p).foldl Location.step (d.start p)

/-- What stands at a path. -/
def entry? (d : Disk) (p : Path) : Option Entry :=
  match d.locate p with
  | .ok l => d.find? l
  | .error _ => none

/-- Whether there is a regular file at a path. -/
def isFile (d : Disk) (p : Path) : Bool :=
  match d.entry? p with
  | some (.file _ _) => true
  | _ => false

/-- Whether there is a regular file at a path; of a name that is too long this cannot even be
asked. -/
def fileAt (d : Disk) (p : Path) : Except DiskError Bool :=
  match d.locate p with
  | .error .nameTooLong => .error .nameTooLong
  | _ => .ok (d.isFile p)

/-- Whether there is a directory at a path. -/
def isDirectory (d : Disk) (p : Path) : Bool :=
  match d.entry? p with
  | some .directory => true
  | _ => false

/-- The stamp of the file at a path. -/
def stamp? (d : Disk) (p : Path) : Option Nat :=
  match d.entry? p with
  | some (.file _ stamp) => some stamp
  | _ => none

/-! ## Requests -/

/-- The content of the file at a path. -/
def read (d : Disk) (p : Path) : Except DiskFailure ByteArray :=
  match d.locate p with
  | .error e => .error ⟨e, p⟩
  | .ok l =>
    match d.find? l with
    | some (.file content _) => .ok content
    | some .directory => .error ⟨.isDirectory, p⟩
    | none => .error ⟨.missing, p⟩

/-- Writes the file at a path. -/
def write (d : Disk) (p : Path) (content : ByteArray) : Except DiskFailure Disk :=
  match d.locate p with
  | .error e => .error ⟨e, p⟩
  | .ok l =>
    match d.find? l with
    | some .directory => .error ⟨.isDirectory, p⟩
    | _ => .ok { d.put l (.file content d.clock) with clock := d.clock + 1 }

/-- Makes one directory. -/
def makeDirectory (d : Disk) (p : Path) : Except DiskError Disk :=
  match d.locate p with
  | .error e => .error e
  | .ok l =>
    match d.find? l with
    | some _ => .error .exists
    | none => .ok (d.put l .directory)

/-- Makes a directory that may be there already. -/
def ensureOne (d : Disk) (p : Path) : Disk × Option DiskFailure :=
  match d.makeDirectory p with
  | .ok d => (d, none)
  | .error e =>
    if e ≠ .missing && d.isDirectory p then (d, none) else (d, some ⟨e, p⟩)

/-- Makes a directory with all the directories around it; its names are given from the last
to the first.  What was made before a failure stays. -/
def ensureAll (d : Disk) (root : Path.Root) : List String → Disk × Option DiskFailure
  | [] => d.ensureOne ⟨root, []⟩
  | name :: up =>
    let p : Path := ⟨root, (name :: up).reverse⟩
    match d.makeDirectory p with
    | .error .missing =>
      match ensureAll d root up with
      | (d, none) => d.ensureOne p
      | failed => failed
    | _ => d.ensureOne p

/-- Makes a directory with all the directories around it. -/
def ensureDirectory (d : Disk) (p : Path) : Disk × Option DiskFailure :=
  d.ensureAll p.root p.parts.reverse

/-- Makes the directory of a file and writes the file. -/
def publish (d : Disk) (p : Path) (content : ByteArray) : Disk × Option DiskFailure :=
  match d.ensureDirectory p.parent with
  | (d, none) =>
    match d.write p content with
    | .ok d => (d, none)
    | .error f => (d, some f)
  | failed => failed

/-! ## Changes from outside -/

/-- What somebody else may do to a file. -/
inductive Edit where
  | keep
  | delete
  /-- Writes the file and marks it with this stamp, or with the next one. -/
  | write (content : ByteArray) (stamp : Option Nat)

/-- The disk after an edit of the file at a path. -/
def edit (d : Disk) (p : Path) (e : Edit) : Disk :=
  match d.locate p with
  | .error _ => d
  | .ok l =>
    match e with
    | .keep => d
    | .delete => d.erase l
    | .write content (some stamp) => d.put l (.file content stamp)
    | .write content none => { d.put l (.file content d.clock) with clock := d.clock + 1 }

end Disk

end PlainMath
