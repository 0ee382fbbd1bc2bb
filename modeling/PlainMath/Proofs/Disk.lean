/-
# `Proofs.Disk` — what requests and edits leave as it is

A path is followed through directories, so what stands at a path can change in two ways: at its
own location, or because a directory on the way to it comes or goes.  Directories only come.

    a path that can be followed leads to its place        (`locate_eq_place`)
    disks that differ in one file                         (`SameBut.entry?`)
    disks of which one has more on it than the other      (`Extends.locate`)
    a file is written, perhaps with new directories       (`publish_cases`)
    all that edits of one file and writing another can
    make of a disk                                        (`Reaches`)
-/
import PlainMath.Disk

namespace PlainMath.Disk

variable {d d' : Disk} {p q : Path} {l : Location}

/-! ## Following a path -/

theorem walk_cons_eq_ok {name : String} {rest : List String} {k : Location} :
    d.walk l (name :: rest) = .ok k ↔ name.utf8ByteSize ≤ nameLimit ∧
      (rest = [] ∧ k = l.step name ∨
        rest ≠ [] ∧ d.find? (l.step name) = some .directory ∧
          d.walk (l.step name) rest = .ok k) := by
  by_cases hlong : nameLimit < name.utf8ByteSize
  · cases rest <;> simp [walk, hlong, Nat.not_le.mpr hlong]
  · cases rest with
    | nil => simp [walk, hlong, Nat.not_lt.mp hlong, eq_comm]
    | cons next rest =>
        generalize hrest : next :: rest = names
        have hne : names ≠ [] := by simp [← hrest]
        rcases hentry : d.find? (l.step name) with _ | (⟨content, stamp⟩ | _) <;>
          simp [walk, hlong, Nat.not_lt.mp hlong, hne, hentry]

theorem walk_eq_foldl {names : List String} {k : Location} (h : d.walk l names = .ok k) :
    k = names.foldl Location.step l := by
  induction names generalizing l with
  | nil =>
      cases h
      rfl
  | cons name rest ih =>
      rcases (walk_cons_eq_ok.mp h).2 with ⟨rfl, rfl⟩ | ⟨-, -, hrest⟩
      · rfl
      · exact ih hrest

theorem locate_eq_ok : d.locate p = .ok l ↔ '\x00' ∉ p.text.toList ∧
    p.text.utf8ByteSize ≤ pathLimit ∧ d.walk (d.start p) (steps p) = .ok l := by
  unfold locate
  split
  · next h =>
      have hnull : '\x00' ∈ p.text.toList := List.contains_iff_mem.mp h
      simp [hnull]
  · next h =>
      have hnull : '\x00' ∉ p.text.toList := fun hmem => h (List.contains_iff_mem.mpr hmem)
      split
      · next hlong => simp [Nat.not_le.mpr hlong]
      · next hlong => simp [hnull, Nat.not_lt.mp hlong]

/-- A path that can be followed leads to the place that it names. -/
theorem locate_eq_place (h : d.locate p = .ok l) : l = d.place p :=
  walk_eq_foldl (locate_eq_ok.mp h).2.2

/-- The second disk has all directories of the first. -/
structure KeepsDirectories (d d' : Disk) : Prop where
  working : d'.working = d.working
  directory : ∀ l, d.find? l = some .directory → d'.find? l = some .directory

theorem KeepsDirectories.walk (h : KeepsDirectories d d') {names : List String} {k : Location}
    (hwalk : d.walk l names = .ok k) : d'.walk l names = .ok k := by
  induction names generalizing l with
  | nil => exact hwalk
  | cons name rest ih =>
      rw [walk_cons_eq_ok] at hwalk ⊢
      obtain ⟨hname, ⟨hrest, hk⟩ | ⟨hrest, hdirectory, hwalk⟩⟩ := hwalk
      · exact ⟨hname, .inl ⟨hrest, hk⟩⟩
      · exact ⟨hname, .inr ⟨hrest, h.directory _ hdirectory, ih hwalk⟩⟩

theorem start_congr (h : d'.working = d.working) (p : Path) : d'.start p = d.start p := by
  rw [start, start, h]

theorem place_congr (h : d'.working = d.working) (p : Path) : d'.place p = d.place p := by
  rw [place, place, start_congr h]

theorem KeepsDirectories.locate (h : KeepsDirectories d d') (hlocate : d.locate p = .ok l) :
    d'.locate p = .ok l := by
  rw [locate_eq_ok] at hlocate ⊢
  obtain ⟨hnull, hlength, hwalk⟩ := hlocate
  rw [start_congr h.working]
  exact ⟨hnull, hlength, h.walk hwalk⟩

/-! ## The file at a path -/

/-- The content and the stamp of the file at a path. -/
def file? (d : Disk) (p : Path) : Option (ByteArray × Nat) :=
  match d.entry? p with
  | some (.file content stamp) => some (content, stamp)
  | _ => none

/-- The content of the file at a path. -/
def content? (d : Disk) (p : Path) : Option ByteArray := (d.file? p).map Prod.fst

theorem file?_eq_some {content : ByteArray} {stamp : Nat} :
    d.file? p = some (content, stamp) ↔
      ∃ l, d.locate p = .ok l ∧ d.find? l = some (.file content stamp) := by
  unfold file? entry?
  cases d.locate p with
  | error e => simp
  | ok l => rcases hentry : d.find? l with _ | (⟨content', stamp'⟩ | _) <;> simp [hentry]

theorem stamp?_eq (d : Disk) (p : Path) : d.stamp? p = (d.file? p).map Prod.snd := by
  unfold stamp? file?
  rcases d.entry? p with _ | (⟨content, stamp⟩ | _) <;> rfl

theorem read_of_file? {content : ByteArray} {stamp : Nat} (h : d.file? p = some (content, stamp)) :
    d.read p = .ok content := by
  obtain ⟨l, hlocate, hfind⟩ := file?_eq_some.mp h
  rw [read, hlocate]
  simp only [hfind]

theorem read_of_file?_none (h : d.file? p = none) : ∃ f, d.read p = .error f := by
  unfold file? entry? at h
  unfold read
  cases hlocate : d.locate p with
  | error e => exact ⟨_, rfl⟩
  | ok l =>
      rw [hlocate] at h
      rcases hentry : d.find? l with _ | (⟨content, stamp⟩ | _)
      · simp only [hentry, Except.error.injEq, exists_eq']
      · simp [hentry] at h
      · simp only [hentry, Except.error.injEq, exists_eq']

theorem walk_ne_nullInName (d : Disk) : ∀ (l : Location) (names : List String),
    d.walk l names ≠ .error .nullInName
  | _, [] => nofun
  | l, name :: rest => by
      unfold walk
      split
      · exact nofun
      · split
        · exact nofun
        · exact walk_ne_nullInName d _ _
        · exact nofun
        · exact nofun

/-- A name without the null character is never refused for it. -/
theorem read_ne_nullInName {f : DiskFailure} (hnull : '\x00' ∉ p.text.toList)
    (h : d.read p = .error f) : f.error ≠ .nullInName := by
  have hlocate : d.locate p ≠ .error .nullInName := by
    unfold locate
    split
    · next hmem => exact absurd (List.contains_iff_mem.mp hmem) hnull
    · split
      · exact nofun
      · exact walk_ne_nullInName d _ _
  unfold read at h
  split at h
  · next e he =>
      cases h
      exact fun heq => hlocate (heq ▸ he)
  · split at h <;> cases h <;> exact nofun

/-! ## One file -/

theorem find?_put_self (h : d.find? l ≠ some .directory) (e : Entry) :
    (d.put l e).find? l = some e := by
  have hworking : ¬l.names.isPrefixOf d.working.names = true := fun hp => h (if_pos hp)
  rw [find?_put, if_neg hworking, if_pos rfl]

theorem find?_put_of_ne {k : Location} (h : k ≠ l) (e : Entry) :
    (d.put l e).find? k = d.find? k := by
  rw [find?_put, if_neg h]
  split
  · next hp => exact (if_pos hp).symm
  · rfl

theorem find?_erase_self (h : d.find? l ≠ some .directory) : (d.erase l).find? l = none := by
  have hworking : ¬l.names.isPrefixOf d.working.names = true := fun hp => h (if_pos hp)
  rw [find?_erase, if_neg hworking, if_pos rfl]

theorem find?_erase_of_ne {k : Location} (h : k ≠ l) : (d.erase l).find? k = d.find? k := by
  rw [find?_erase, if_neg h]
  split
  · next hp => exact (if_pos hp).symm
  · rfl

/-- The disks differ at most in a file at this location. -/
structure SameBut (l : Location) (d d' : Disk) : Prop where
  working : d'.working = d.working
  find? : ∀ k, k ≠ l → d'.find? k = d.find? k
  before : d.find? l ≠ some .directory
  after : d'.find? l ≠ some .directory

namespace SameBut

theorem rfl' (h : d.find? l ≠ some .directory) : SameBut l d d := ⟨rfl, fun _ _ => rfl, h, h⟩

theorem put (h : d.find? l ≠ some .directory) (content : ByteArray) (stamp : Nat) :
    SameBut l d (d.put l (.file content stamp)) where
  working := rfl
  find? _ hk := find?_put_of_ne hk _
  before := h
  after := by simp [find?_put_self h]

theorem erase (h : d.find? l ≠ some .directory) : SameBut l d (d.erase l) where
  working := rfl
  find? _ hk := find?_erase_of_ne hk
  before := h
  after := by simp [find?_erase_self h]

theorem symm (h : SameBut l d d') : SameBut l d' d :=
  ⟨h.working.symm, fun k hk => (h.find? k hk).symm, h.after, h.before⟩

theorem keepsDirectories (h : SameBut l d d') : KeepsDirectories d d' where
  working := h.working
  directory k hk := by
    have hne : k ≠ l := fun heq => h.before (heq ▸ hk)
    rw [h.find? k hne, hk]

/-- What stands at any other place is the same. -/
theorem entry? (h : SameBut l d d') (hplace : d.place q ≠ l) : d'.entry? q = d.entry? q := by
  unfold Disk.entry?
  cases hlocate : d.locate q with
  | ok k =>
      have hne : k ≠ l := locate_eq_place hlocate ▸ hplace
      simp only [h.keepsDirectories.locate hlocate, h.find? k hne]
  | error e =>
      cases hlocate' : d'.locate q with
      | error e' => rfl
      | ok k =>
          have hback := h.symm.keepsDirectories.locate hlocate'
          rw [hlocate] at hback
          cases hback

theorem file? (h : SameBut l d d') (hplace : d.place q ≠ l) : d'.file? q = d.file? q := by
  rw [Disk.file?, Disk.file?, h.entry? hplace]

end SameBut

/-! ## More on the disk -/

/-- The second disk has everything that the first one has. -/
structure Extends (d d' : Disk) : Prop where
  working : d'.working = d.working
  find? : ∀ l e, d.find? l = some e → d'.find? l = some e

namespace Extends

theorem refl (d : Disk) : Extends d d := ⟨rfl, fun _ _ h => h⟩

theorem trans {d'' : Disk} (h : Extends d d') (h' : Extends d' d'') : Extends d d'' :=
  ⟨h'.working.trans h.working, fun l e he => h'.find? l e (h.find? l e he)⟩

theorem locate (h : Extends d d') (hlocate : d.locate p = .ok l) : d'.locate p = .ok l :=
  KeepsDirectories.locate ⟨h.working, fun l => h.find? l .directory⟩ hlocate

theorem file? (h : Extends d d') {f : ByteArray × Nat} (hfile : d.file? p = some f) :
    d'.file? p = some f := by
  obtain ⟨content, stamp⟩ := f
  obtain ⟨l, hlocate, hfind⟩ := file?_eq_some.mp hfile
  exact file?_eq_some.mpr ⟨l, h.locate hlocate, h.find? l _ hfind⟩

end Extends

theorem makeDirectory_eq_ok (h : d.makeDirectory p = .ok d') :
    ∃ l, d.find? l = none ∧ d' = d.put l .directory := by
  unfold makeDirectory at h
  cases hlocate : d.locate p with
  | error e =>
      rw [hlocate] at h
      cases h
  | ok l =>
      rw [hlocate] at h
      cases hentry : d.find? l with
      | some e =>
          simp only [hentry] at h
          cases h
      | none =>
          simp only [hentry] at h
          cases h
          exact ⟨l, hentry, rfl⟩

section Making
variable {R : Disk → Disk → Prop} (hrefl : ∀ d, R d d)
  (htrans : ∀ {d₁ d₂ d₃}, R d₁ d₂ → R d₂ d₃ → R d₁ d₃)
  (hput : ∀ {d l}, d.find? l = none → R d (d.put l .directory))
include hrefl hput

theorem ensureOne_induction (d : Disk) (p : Path) : R d (d.ensureOne p).1 := by
  unfold ensureOne
  cases h : d.makeDirectory p with
  | ok d' =>
      obtain ⟨l, hentry, rfl⟩ := makeDirectory_eq_ok h
      exact hput hentry
  | error e =>
      simp only
      split <;> exact hrefl d

include htrans

theorem ensureAll_induction (d : Disk) (root : Path.Root) : ∀ names : List String,
    R d (d.ensureAll root names).1
  | [] => ensureOne_induction hrefl hput d _
  | name :: up => by
      have ih := ensureAll_induction d root up
      unfold ensureAll
      simp only
      split
      · split
        · next d' hup =>
            rw [hup] at ih
            exact htrans ih (ensureOne_induction hrefl hput d' _)
        · exact ih
      · exact ensureOne_induction hrefl hput d _

/-- What one new directory does to a disk, and what is passed on from disk to disk, is done when
directories are made, however far that gets. -/
theorem ensureDirectory_induction (d : Disk) (p : Path) : R d (d.ensureDirectory p).1 :=
  ensureAll_induction hrefl htrans hput d p.root p.parts.reverse

end Making

theorem extends_ensureDirectory (d : Disk) (p : Path) : Extends d (d.ensureDirectory p).1 := by
  refine ensureDirectory_induction Extends.refl Extends.trans ?_ d p
  intro d l hentry
  refine ⟨rfl, fun k e hk => ?_⟩
  have hne : k ≠ l := by
    rintro rfl
    rw [hentry] at hk
    cases hk
  rw [find?_put_of_ne hne, hk]

/-! ## Writing a file -/

theorem write_eq_ok {content : ByteArray} (h : d.write p content = .ok d') :
    ∃ l, d.locate p = .ok l ∧ SameBut l d d' ∧ d'.find? l = some (.file content d.clock) := by
  unfold write at h
  cases hlocate : d.locate p with
  | error e =>
      rw [hlocate] at h
      cases h
  | ok l =>
      rw [hlocate] at h
      simp only at h
      split at h
      · cases h
      · next hentry =>
          cases h
          have hput := SameBut.put hentry content d.clock
          exact ⟨l, rfl, ⟨rfl, hput.find?, hentry, hput.after⟩, find?_put_self hentry _⟩

/-- Directories are made, and then the file is written or the request is refused. -/
theorem publish_cases (d : Disk) (p : Path) (content : ByteArray) :
    ∃ between, between = (d.ensureDirectory p.parent).1 ∧ Extends d between ∧
      (((d.publish p content).1 = between ∧ ∃ f, (d.publish p content).2 = some f) ∨
        ((d.publish p content).2 = none ∧
          between.write p content = .ok (d.publish p content).1)) := by
  have hextends := extends_ensureDirectory d p.parent
  rcases hensure : d.ensureDirectory p.parent with ⟨between, failure⟩
  rw [hensure] at hextends
  refine ⟨between, rfl, hextends, ?_⟩
  cases failure with
  | some f =>
      have hpublish : d.publish p content = (between, some f) := by rw [publish, hensure]
      rw [hpublish]
      exact .inl ⟨rfl, f, rfl⟩
  | none =>
      cases hwrite : between.write p content with
      | ok d' =>
          have hpublish : d.publish p content = (d', none) := by
            rw [publish, hensure]
            simp only [hwrite]
          rw [hpublish]
          exact .inr ⟨rfl, rfl⟩
      | error f =>
          have hpublish : d.publish p content = (between, some f) := by
            rw [publish, hensure]
            simp only [hwrite]
          rw [hpublish]
          exact .inl ⟨rfl, f, rfl⟩

theorem working_publish (d : Disk) (p : Path) (content : ByteArray) :
    (d.publish p content).1.working = d.working := by
  obtain ⟨between, -, hextends, ⟨heq, -⟩ | ⟨-, hwrite⟩⟩ := publish_cases d p content
  · rw [heq, hextends.working]
  · obtain ⟨l, -, hsame, -⟩ := write_eq_ok hwrite
    rw [hsame.working, hextends.working]

/-- Every other file stays as it is. -/
theorem file?_publish_of_ne {f : ByteArray × Nat} (hplace : d.place q ≠ d.place p)
    (h : d.file? q = some f) (content : ByteArray) :
    (d.publish p content).1.file? q = some f := by
  obtain ⟨between, -, hextends, ⟨heq, -⟩ | ⟨-, hwrite⟩⟩ := publish_cases d p content
  · rw [heq]
    exact hextends.file? h
  · obtain ⟨l, hlocate, hsame, -⟩ := write_eq_ok hwrite
    have hne : between.place q ≠ l := by
      rw [locate_eq_place hlocate, place_congr hextends.working, place_congr hextends.working]
      exact hplace
    rw [hsame.file? hne]
    exact hextends.file? h

/-- The file has its content. -/
theorem content?_publish {content : ByteArray} (h : (d.publish p content).2 = none) :
    (d.publish p content).1.content? p = some content := by
  obtain ⟨between, -, -, ⟨-, f, hf⟩ | ⟨-, hwrite⟩⟩ := publish_cases d p content
  · rw [h] at hf
    cases hf
  · obtain ⟨l, hlocate, hsame, hfind⟩ := write_eq_ok hwrite
    have hfile := file?_eq_some.mpr ⟨l, hsame.keepsDirectories.locate hlocate, hfind⟩
    rw [content?, hfile]
    rfl

/-! ## Edits -/

theorem edit_of_error {error : DiskError} (h : d.locate p = .error error) (e : Edit) :
    d.edit p e = d := by
  rw [edit, h]

theorem sameBut_edit (hlocate : d.locate p = .ok l) (hentry : d.find? l ≠ some .directory)
    (e : Edit) : SameBut l d (d.edit p e) := by
  rw [edit, hlocate]
  cases e with
  | keep => exact .rfl' hentry
  | delete => exact .erase hentry
  | write content stamp =>
      cases stamp with
      | some stamp => exact .put hentry content stamp
      | none =>
          have hput := SameBut.put hentry content d.clock
          exact ⟨rfl, hput.find?, hentry, hput.after⟩

theorem working_edit (d : Disk) (p : Path) (e : Edit) : (d.edit p e).working = d.working := by
  unfold edit
  split
  · rfl
  · split <;> rfl

/-- An edit changes nothing but what stands at its own place. -/
theorem find?_edit_of_ne (h : l ≠ d.place p) (e : Edit) : (d.edit p e).find? l = d.find? l := by
  unfold edit
  cases hlocate : d.locate p with
  | error error => rfl
  | ok k =>
      have hne : l ≠ k := locate_eq_place hlocate ▸ h
      cases e with
      | keep => rfl
      | delete => exact find?_erase_of_ne hne
      | write content stamp =>
          cases stamp with
          | some stamp => exact find?_put_of_ne hne _
          | none => exact find?_put_of_ne (d := d) hne (.file content d.clock)

theorem isDirectory_eq_false :
    d.isDirectory p = false ↔ ∀ l, d.locate p = .ok l → d.find? l ≠ some .directory := by
  unfold isDirectory entry?
  cases d.locate p with
  | error e => simp
  | ok l => rcases hentry : d.find? l with _ | (⟨content, stamp⟩ | _) <;> simp [hentry]

/-- The other files stay as they are, and no other file comes up. -/
theorem content?_edit (hdirectory : d.isDirectory p = false) (hplace : d.place p ≠ d.place q)
    (e : Edit) : (d.edit p e).content? q = d.content? q := by
  cases hlocate : d.locate p with
  | error error => rw [edit_of_error hlocate]
  | ok l =>
      have hsame := sameBut_edit hlocate (isDirectory_eq_false.mp hdirectory l hlocate) e
      have hne : d.place q ≠ l := fun h => hplace (locate_eq_place hlocate ▸ h.symm)
      rw [content?, content?, hsame.file? hne]

/-- A file is at the path, or can be put there. -/
def Hosts (d : Disk) (p : Path) : Prop := ∃ l, d.locate p = .ok l ∧ d.find? l ≠ some .directory

namespace Hosts

theorem of_file? {f : ByteArray × Nat} (h : d.file? p = some f) : d.Hosts p := by
  obtain ⟨l, hlocate, hfind⟩ := file?_eq_some.mp h
  exact ⟨l, hlocate, by simp [hfind]⟩

theorem isDirectory (h : d.Hosts p) : d.isDirectory p = false := by
  obtain ⟨l, hlocate, hentry⟩ := h
  refine isDirectory_eq_false.mpr fun k hk => ?_
  rw [hlocate] at hk
  cases hk
  exact hentry

theorem edit (h : d.Hosts p) (e : Edit) : (d.edit p e).Hosts p := by
  obtain ⟨l, hlocate, hentry⟩ := h
  have hsame := sameBut_edit hlocate hentry e
  exact ⟨l, hsame.keepsDirectories.locate hlocate, hsame.after⟩

/-- What is written there is there. -/
theorem file?_edit (h : d.Hosts p) (content : ByteArray) (stamp : Nat) :
    (d.edit p (.write content (some stamp))).file? p = some (content, stamp) := by
  obtain ⟨l, hlocate, hentry⟩ := h
  have hsame := sameBut_edit hlocate hentry (.write content (some stamp))
  refine file?_eq_some.mpr ⟨l, hsame.keepsDirectories.locate hlocate, ?_⟩
  rw [Disk.edit, hlocate]
  exact find?_put_self hentry _

end Hosts

/-- The edit does not leave the stamp to the disk. -/
def Edit.IsStamped : Edit → Prop
  | .keep | .delete => True
  | .write _ stamp => stamp.isSome

/-- On both disks the same stands at the path, and no directory. -/
structure Mirrors (p : Path) (d d' : Disk) : Prop where
  isDirectory : d.isDirectory p = false
  locate : ∀ l, d.locate p = .ok l ↔ d'.locate p = .ok l
  find? : ∀ l, d.locate p = .ok l → d.find? l = d'.find? l

namespace Mirrors

theorem refl (h : d.isDirectory p = false) : Mirrors p d d := ⟨h, fun _ => .rfl, fun _ _ => rfl⟩

theorem file? (h : Mirrors p d d') : d.file? p = d'.file? p := by
  apply Option.ext
  rintro ⟨content, stamp⟩
  rw [file?_eq_some, file?_eq_some]
  constructor
  · rintro ⟨l, hlocate, hfind⟩
    exact ⟨l, (h.locate l).mp hlocate, h.find? l hlocate ▸ hfind⟩
  · rintro ⟨l, hlocate, hfind⟩
    have hlocate' := (h.locate l).mpr hlocate
    exact ⟨l, hlocate', (h.find? l hlocate').symm ▸ hfind⟩

/-- Nobody tells the disks apart by an edit. -/
theorem edit (h : Mirrors p d d') {e : Edit} (he : e.IsStamped) :
    Mirrors p (d.edit p e) (d'.edit p e) := by
  cases hlocate : d.locate p with
  | error error =>
      cases hlocate' : d'.locate p with
      | error error' => rwa [edit_of_error hlocate, edit_of_error hlocate']
      | ok l =>
          rw [(h.locate l).mpr hlocate'] at hlocate
          cases hlocate
  | ok l =>
      have hlocate' := (h.locate l).mp hlocate
      have hfind := h.find? l hlocate
      have hentry := isDirectory_eq_false.mp h.isDirectory l hlocate
      have hentry' : d'.find? l ≠ some .directory := hfind ▸ hentry
      have hsame := sameBut_edit hlocate hentry e
      have hafter := hsame.keepsDirectories.locate hlocate
      have hafter' := (sameBut_edit hlocate' hentry' e).keepsDirectories.locate hlocate'
      have honly : ∀ k, (d.edit p e).locate p = .ok k → k = l := by
        intro k hk
        rw [hafter] at hk
        cases hk
        rfl
      refine ⟨isDirectory_eq_false.mpr fun k hk => honly k hk ▸ hsame.after, fun k => ?_,
        fun k hk => ?_⟩
      · rw [hafter, hafter']
      · obtain rfl := honly k hk
        rw [Disk.edit, Disk.edit, hlocate, hlocate']
        match e, he with
        | .keep, _ => exact hfind
        | .delete, _ => exact (find?_erase_self hentry).trans (find?_erase_self hentry').symm
        | .write content (some stamp), _ =>
            exact (find?_put_self hentry _).trans (find?_put_self hentry' _).symm

/-- Nor by writing another file, while there is one at the path. -/
theorem publish (h : Mirrors p d d') (hplace : d.place p ≠ d.place q) {f : ByteArray × Nat}
    (hfile : d.file? p = some f) (content : ByteArray) :
    Mirrors p (d.publish q content).1 d' := by
  obtain ⟨bytes, stamp⟩ := f
  have hfile' := file?_publish_of_ne hplace hfile content
  obtain ⟨l, hlocate, hfind⟩ := file?_eq_some.mp hfile
  obtain ⟨k, hafter, hfind'⟩ := file?_eq_some.mp hfile'
  have hk : k = l := by
    rw [locate_eq_place hlocate, locate_eq_place hafter, place_congr (working_publish d q content)]
  subst hk
  have honly : ∀ m, (d.publish q content).1.locate p = .ok m → m = k := by
    intro m hm
    rw [hafter] at hm
    cases hm
    rfl
  refine ⟨isDirectory_eq_false.mpr fun m hm => ?_, fun m => ?_, fun m hm => ?_⟩
  · rw [honly m hm, hfind']
    exact nofun
  · rw [hafter, ← h.locate m, hlocate]
  · rw [honly m hm, hfind', ← hfind, h.find? k hlocate]

end Mirrors

/-! ## An output that can always be written -/

/-- All disks that edits of one file and writing another one make of a disk. -/
inductive Reaches (input output : Path) (edits : List Edit) (d : Disk) : Disk → Prop where
  | start : Reaches input output edits d d
  | edit {d' : Disk} {e : Edit} : Reaches input output edits d d' → e ∈ edits →
      Reaches input output edits d (d'.edit input e)
  | publish {d' : Disk} (content : ByteArray) : Reaches input output edits d d' →
      Reaches input output edits d (d'.publish output content).1

/-- Whatever is done to the one file, the other one can be written. -/
def AlwaysWritable (input output : Path) (edits : List Edit) (d : Disk) : Prop :=
  ∀ d', Reaches input output edits d d' → ∀ content, (d'.publish output content).2 = none

theorem Reaches.working {input output : Path} {edits : List Edit}
    (h : Reaches input output edits d d') : d'.working = d.working := by
  induction h with
  | start => rfl
  | edit _ _ ih => rw [working_edit, ih]
  | publish content _ ih => rw [working_publish, ih]

theorem Reaches.place_ne {input output : Path} {edits : List Edit}
    (h : Reaches input output edits d d') (hplace : d.place input ≠ d.place output) :
    d'.place input ≠ d'.place output := by
  rwa [place_congr h.working, place_congr h.working]

/-- The working directory is always there. -/
theorem ensureDirectory_working (d : Disk) : d.ensureDirectory ⟨.none, []⟩ = (d, none) := by
  have hlocate : d.locate ⟨.none, []⟩ = .ok d.working :=
    locate_eq_ok.mpr ⟨by decide, by decide, rfl⟩
  have hfind : d.find? d.working = some .directory := if_pos (by simp)
  have hmake : d.makeDirectory ⟨.none, []⟩ = .error .exists := by
    rw [makeDirectory, hlocate]
    simp only [hfind]
  have hdirectory : d.isDirectory ⟨.none, []⟩ = true := by
    simp only [isDirectory, entry?, hlocate, hfind]
  show d.ensureOne ⟨.none, []⟩ = (d, none)
  rw [ensureOne, hmake]
  simp [hdirectory]

theorem publish_name {name : String} (hlocate : d.locate ⟨.none, [name]⟩ = .ok l)
    (hentry : d.find? l ≠ some .directory) (content : ByteArray) :
    (d.publish ⟨.none, [name]⟩ content).2 = none ∧
      (d.publish ⟨.none, [name]⟩ content).1.find? l ≠ some .directory := by
  have hwrite : d.write ⟨.none, [name]⟩ content =
      .ok { d.put l (.file content d.clock) with clock := d.clock + 1 } := by
    rw [write, hlocate]
    simp only
  have hpublish : d.publish ⟨.none, [name]⟩ content =
      ({ d.put l (.file content d.clock) with clock := d.clock + 1 }, none) := by
    have hparent : (⟨.none, [name]⟩ : Path).parent = ⟨.none, []⟩ := rfl
    rw [publish, hparent, ensureDirectory_working]
    simp only [hwrite]
  rw [hpublish]
  exact ⟨rfl, (SameBut.put hentry content d.clock).after⟩

section InWorking
variable {name : String} (hsteps : steps ⟨.none, [name]⟩ = [name])
include hsteps

theorem locate_name (hworking : d'.working = d.working)
    (hlocate : d.locate ⟨.none, [name]⟩ = .ok l) : d'.locate ⟨.none, [name]⟩ = .ok l := by
  rw [locate_eq_ok, hsteps, walk_cons_eq_ok] at hlocate ⊢
  rw [start_congr hworking]
  obtain ⟨hnull, hlength, hname, h | h⟩ := hlocate
  · exact ⟨hnull, hlength, hname, .inl h⟩
  · exact absurd rfl h.1

/-- A file in the working directory can always be written. -/
theorem alwaysWritable_name {input : Path} (hlocate : d.locate ⟨.none, [name]⟩ = .ok l)
    (hentry : d.find? l ≠ some .directory) (hplace : d.place input ≠ l) (edits : List Edit) :
    AlwaysWritable input ⟨.none, [name]⟩ edits d := by
  have hstays : ∀ d', Reaches input ⟨.none, [name]⟩ edits d d' →
      d'.find? l ≠ some .directory := by
    intro d' h
    induction h with
    | start => exact hentry
    | @edit d' e h _ ih =>
        have hne : l ≠ d'.place input := by
          rw [place_congr h.working]
          exact hplace.symm
        rwa [find?_edit_of_ne hne]
    | publish content h ih =>
        exact (publish_name (locate_name hsteps h.working hlocate) ih content).2
  intro d' h content
  exact (publish_name (locate_name hsteps h.working hlocate) (hstays d' h) content).1

end InWorking

end PlainMath.Disk
