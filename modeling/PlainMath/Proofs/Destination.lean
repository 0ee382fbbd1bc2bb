/-
# `Proofs.Destination` — where the result for an input goes

The default destination stands beside its input: it has another last name, made of the name of the
input and the ending from the settings.  Every ending from the settings begins with a dot, but not
every such ending makes a name.  Nor is the name always another one: an input whose ending is that
of source files, and settings with the same ending, give the input itself.

    a name is its stem and its ending                     (`splitName_append`)
    which endings make a name                             (`isSuffix_iff`, `isName_append_iff`)
    where a renamed path leads to                         (`place_rename`)
    what is converted to another place stays              (`Conversion.file?_run`)
-/
import PlainMath.Proofs.Conversion
import PlainMath.Proofs.Settings
import PlainMath.Proofs.Text.Lines

namespace PlainMath

/-! ## Cutting behind a text -/

theorem Text.splitAt_append_of_not_mem {sep : Char} {a : List Char} (h : sep ∉ a) (b : List Char) :
    splitAt sep (a ++ b) = (splitAt sep b).modifyHead (a ++ ·) := by
  induction a with
  | nil => cases hb : splitAt sep b <;> simp [hb]
  | cons c a ih =>
      rw [List.mem_cons, not_or] at h
      rw [List.cons_append, splitAt, if_neg (Ne.symm h.1), ih h.2]
      cases hb : splitAt sep b with
      | nil =>
          have hlength := length_splitAt sep b
          rw [hb] at hlength
          cases hlength
      | cons piece pieces => rfl

theorem Text.exists_splitAt_of_head? {sep c : Char} {cs : List Char} (hhead : cs.head? = some c)
    (hc : c ≠ sep) : ∃ piece pieces, splitAt sep cs = (c :: piece) :: pieces := by
  obtain ⟨rest, rfl⟩ := List.head?_eq_some_iff.mp hhead
  have hsplit := splitAt_append_of_not_mem (a := [c]) (by simpa using hc.symm) rest
  cases hrest : splitAt sep rest with
  | nil =>
      have hlength := length_splitAt sep rest
      rw [hrest] at hlength
      cases hlength
  | cons piece pieces =>
      rw [hrest] at hsplit
      exact ⟨piece, pieces, hsplit⟩

namespace Path

variable {p input output : Path} {name suffix : String}

/-! ## Names -/

/-- A name that can stand between slashes and says something there. -/
structure IsComponent (name : String) : Prop where
  part : isPart name.toList = true
  slash : '/' ∉ name.toList

theorem isPart_eq_true {cs : List Char} : isPart cs = true ↔ cs ≠ [] ∧ cs ≠ ['.'] := by
  simp [isPart]

theorem isPart_eq_false {cs : List Char} : isPart cs = false ↔ cs = [] ∨ cs = ['.'] := by
  rw [← Bool.not_eq_true, isPart_eq_true, not_and_or, not_not, not_not]

theorem isComponent_of_mem {s part : String} (h : part ∈ (ofString s).parts) :
    IsComponent part := by
  obtain ⟨piece, hpiece, rfl⟩ := List.mem_map.mp h
  obtain ⟨hmem, hpart⟩ := List.mem_filter.mp hpiece
  refine ⟨?_, ?_⟩
  · rwa [String.toList_ofList]
  · rw [String.toList_ofList]
    exact Text.not_mem_of_mem_splitAt hmem

theorem parts_eq (h : p.name ≠ "") : p.parts = p.parts.dropLast ++ [p.name] := by
  unfold Path.name at h ⊢
  cases hlast : p.parts.getLast? with
  | none =>
      rw [hlast] at h
      exact absurd rfl h
  | some last =>
      obtain ⟨init, hinit⟩ := List.getLast?_eq_some_iff.mp hlast
      rw [hinit, List.dropLast_concat]
      rfl

theorem rename_name (h : p.name ≠ "") : p.rename p.name = p := by
  obtain ⟨root, parts⟩ := p
  exact congrArg (Path.mk root) (parts_eq h).symm

theorem name_rename (p : Path) (name : String) : (p.rename name).name = name := by
  simp [Path.name, rename]

theorem parent_rename (p : Path) (name : String) : (p.rename name).parent = p.parent := by
  simp [parent, rename]

theorem isComponent_name {s : String} (h : (ofString s).name ≠ "") :
    IsComponent (ofString s).name := by
  refine isComponent_of_mem (s := s) ?_
  rw [parts_eq h]
  exact List.mem_append_right _ (List.mem_singleton_self _)

/-- A name is its stem and its ending, and a name with an ending has a stem. -/
theorem splitName_append (name : String) :
    (splitName name).1 ++ (splitName name).2 = name.toList ∧
      ((splitName name).2 ≠ [] → (splitName name).1 ≠ []) := by
  have hback := List.takeWhile_append_dropWhile (p := (· != '.')) (l := name.toList.reverse)
  unfold splitName
  simp only
  split
  · exact ⟨List.append_nil _, fun h => absurd rfl h⟩
  · next stem hstem =>
      split
      · exact ⟨List.append_nil _, fun h => absurd rfl h⟩
      · refine ⟨?_, fun _ => hstem⟩
        have hne : name.toList.reverse.dropWhile (· != '.') ≠ [] := by
          intro hnil
          exact hstem (by simp [hnil])
        obtain ⟨c, rest, hrest⟩ := List.exists_cons_of_ne_nil hne
        have hc : c = '.' := by
          have hhead := List.head?_dropWhile_not (· != '.') name.toList.reverse
          rw [hrest] at hhead
          simpa using hhead
        rw [hrest, hc] at hback ⊢
        have hname := congrArg List.reverse hback
        rw [List.reverse_reverse] at hname
        refine Eq.trans ?_ hname
        simp

/-! ## Endings -/

/-- What an ending begins with, if the settings have it. -/
theorem head?_suffix {draft : Settings.Draft} {settings : Settings}
    (h : Settings.ofDraft draft = .ok settings) : settings.suffix.toList.head? = some '.' := by
  have hread := Settings.ofDraft_eq_ok_iff.mp h .suffix
  change Settings.readSuffix _ _ = .ok settings.suffix at hread
  unfold Settings.readSuffix at hread
  split at hread
  · next s =>
      rw [← Except.ok.inj hread]
      split
      · next hdot => exact hdot
      · simp
  · cases hread

theorem Root.ofChars_of_ne {c : Char} (h : c ≠ '/') (cs : List Char) :
    Root.ofChars (c :: cs) = .none := by
  unfold Root.ofChars
  split
  · next heq => exact absurd (List.cons.inj heq).1 h
  · next heq => exact absurd (List.cons.inj heq).1 h
  · next heq => exact absurd (List.cons.inj heq).1 h
  · rfl

section Dotted
variable (hdot : suffix.toList.head? = some '.')
include hdot

/-- The ending goes on the last name, up to its first slash. -/
theorem exists_splitAt_append (hslash : '/' ∉ name.toList) : ∃ piece pieces,
    Text.splitAt '/' suffix.toList = ('.' :: piece) :: pieces ∧
      Text.splitAt '/' (name ++ suffix).toList = (name.toList ++ '.' :: piece) :: pieces := by
  obtain ⟨piece, pieces, hsplit⟩ := Text.exists_splitAt_of_head? hdot (by decide : '.' ≠ '/')
  refine ⟨piece, pieces, hsplit, ?_⟩
  rw [String.toList_append, Text.splitAt_append_of_not_mem hslash, hsplit]
  rfl

theorem isSuffix_iff : isSuffix suffix = true ↔ suffix ≠ "." ∧ '/' ∉ suffix.toList := by
  obtain ⟨rest, hrest⟩ := List.head?_eq_some_iff.mp hdot
  have hone : suffix = "." ↔ rest = [] := by
    rw [← String.toList_inj, hrest]
    simp
  unfold isSuffix
  rw [hrest, ne_eq, hone]
  simp

/-- An ending behind a name makes a name if nothing is said behind its first slash, and if it does
not end there. -/
theorem isName_append_iff (hname : IsComponent name) : isName (name ++ suffix) = true ↔
    suffix.toList.getLast? ≠ some '/' ∧
      ∀ piece ∈ (Text.splitAt '/' suffix.toList).tail, isPart piece = false := by
  obtain ⟨piece, pieces, hsplit, hjoined⟩ := exists_splitAt_append hdot hname.slash
  have hroot : Root.ofChars (name ++ suffix).toList = .none := by
    obtain ⟨c, cs, hcs⟩ := List.exists_cons_of_ne_nil (isPart_eq_true.mp hname.part).1
    have hc : c ≠ '/' := by
      rintro rfl
      exact hname.slash (hcs ▸ List.mem_cons_self)
    rw [String.toList_append, hcs, List.cons_append]
    exact Root.ofChars_of_ne hc _
  have hlast : (name ++ suffix).toList.getLast? = suffix.toList.getLast? := by
    obtain ⟨rest, hrest⟩ := List.head?_eq_some_iff.mp hdot
    rw [String.toList_append, hrest, List.getLast?_append, List.getLast?_cons, Option.some_or]
  have hfirst : isPart (name.toList ++ '.' :: piece) = true := by
    have hne := (isPart_eq_true.mp hname.part).1
    refine isPart_eq_true.mpr ⟨by simp, fun hdot' => hne ?_⟩
    have hlength := congrArg List.length hdot'
    rw [List.length_append, List.length_cons, List.length_singleton] at hlength
    exact List.length_eq_zero_iff.mp (by omega)
  have hcount : (ofString (name ++ suffix)).parts.length = 1 ↔
      ∀ piece ∈ pieces, isPart piece = false := by
    rw [ofString, hjoined, List.filter_cons_of_pos hfirst, List.length_map, List.length_cons,
      Nat.add_eq_right, List.length_eq_zero_iff, List.filter_eq_nil_iff]
    simp only [Bool.not_eq_true]
  rw [hsplit, List.tail_cons, ← hcount, ← hlast]
  have hname' : (ofString (name ++ suffix)).root = .none := hroot
  simp [isName, hname']

end Dotted

/-! ## The destination -/

/-- The ending can be used for the destination of an input: it is more than a dot and without
slashes for a source file, and for any other one nothing is said behind a slash and the last
character is none. -/
structure Takes (input : Path) (suffix : String) : Prop where
  source : input.suffix = sourceSuffix → suffix ≠ "." ∧ '/' ∉ suffix.toList
  other : input.suffix ≠ sourceSuffix → suffix.toList.getLast? ≠ some '/' ∧
    ∀ piece ∈ (Text.splitAt '/' suffix.toList).tail, isPart piece = false

theorem takes_of_source (h : input.suffix = sourceSuffix) :
    input.Takes suffix ↔ suffix ≠ "." ∧ '/' ∉ suffix.toList :=
  ⟨fun htakes => htakes.source h, fun hfits => ⟨fun _ => hfits, fun hne => absurd h hne⟩⟩

theorem takes_of_other (h : input.suffix ≠ sourceSuffix) :
    input.Takes suffix ↔ suffix.toList.getLast? ≠ some '/' ∧
      ∀ piece ∈ (Text.splitAt '/' suffix.toList).tail, isPart piece = false :=
  ⟨fun htakes => htakes.other h, fun hfits => ⟨fun heq => absurd heq h, fun _ => hfits⟩⟩

/-- What stays of the name of an input: all of it, but for the ending of source files. -/
def kept (input : Path) : String :=
  if input.suffix = sourceSuffix then String.ofList (splitName input.name).1 else input.name

theorem destination_eq_ok_iff (hname : IsComponent input.name)
    (hdot : suffix.toList.head? = some '.') : input.destination suffix = .ok output ↔
      input.Takes suffix ∧ output = input.rename (input.kept ++ suffix) := by
  have hne : input.name ≠ "" := by
    intro h
    have hpart := hname.part
    rw [h] at hpart
    cases hpart
  unfold destination kept
  by_cases hsource : input.suffix = sourceSuffix
  · rw [if_pos hsource, if_pos hsource, withSuffix, if_neg hne, takes_of_source hsource,
      ← isSuffix_iff hdot]
    cases isSuffix suffix <;> simp [eq_comm]
  · rw [if_neg hsource, if_neg hsource, withName, if_neg hne, takes_of_other hsource,
      ← isName_append_iff hdot hname]
    cases isName (input.name ++ suffix) <;> simp [eq_comm]

/-- The name of an input is what stays of it, with the ending of source files if it has that. -/
theorem name_eq_kept (input : Path) :
    input.suffix = sourceSuffix ∧ input.name.toList = input.kept.toList ++ ".ed".toList ∧
        input.kept.toList ≠ [] ∨
      input.suffix ≠ sourceSuffix ∧ input.kept = input.name := by
  unfold kept
  by_cases hsource : input.suffix = sourceSuffix
  · obtain ⟨hname, hstem⟩ := splitName_append input.name
    have hending : (splitName input.name).2 = ".ed".toList := by
      rw [← String.toList_ofList (l := (splitName input.name).2)]
      exact congrArg String.toList hsource
    rw [hending] at hname hstem
    refine .inl ⟨hsource, ?_, ?_⟩
    · rw [if_pos hsource, String.toList_ofList, hname]
    · rw [if_pos hsource, String.toList_ofList]
      exact hstem (by decide)
  · exact .inr ⟨hsource, if_neg hsource⟩

theorem kept_ne_nil (hname : IsComponent input.name) : input.kept.toList ≠ [] := by
  rcases name_eq_kept input with ⟨-, -, hne⟩ | ⟨-, heq⟩
  · exact hne
  · rw [heq]
    exact (isPart_eq_true.mp hname.part).1

theorem slash_not_mem_kept (hname : IsComponent input.name) : '/' ∉ input.kept.toList := by
  rcases name_eq_kept input with ⟨-, heq, -⟩ | ⟨-, heq⟩
  · intro hmem
    exact hname.slash (heq ▸ List.mem_append_left _ hmem)
  · rw [heq]
    exact hname.slash

/-- The destination is the input itself just if both endings are that of source files. -/
theorem rename_kept_eq_iff (hne : input.name ≠ "") (hdot : suffix.toList.head? = some '.') :
    input.rename (input.kept ++ suffix) = input ↔
      input.suffix = sourceSuffix ∧ suffix = sourceSuffix := by
  have hnames : input.rename (input.kept ++ suffix) = input ↔
      input.kept.toList ++ suffix.toList = input.name.toList := by
    constructor
    · intro h
      rw [← String.toList_append, ← name_rename input (input.kept ++ suffix), h]
    · intro h
      rw [← String.toList_append, String.toList_inj] at h
      rw [h, rename_name hne]
  rw [hnames]
  rcases name_eq_kept input with ⟨hsource, heq, -⟩ | ⟨hsource, heq⟩
  · rw [heq, List.append_cancel_left_eq, String.toList_inj]
    exact ⟨fun h => ⟨hsource, h⟩, fun h => h.2⟩
  · rw [heq, List.append_right_eq_self]
    constructor
    · intro h
      rw [h] at hdot
      cases hdot
    · intro h
      exact absurd h.1 hsource

/-! ## Where the destination leads to -/

theorem place_rename (d : Disk) (p : Path) (name : String) : d.place (p.rename name) =
    ((Text.splitAt '/' name.toList).map String.ofList).foldl Location.step (d.place p.parent) := by
  have hstart : d.start (p.rename name) = d.start p.parent := rfl
  unfold Disk.place Disk.steps
  rw [hstart, rename, List.flatMap_append, List.foldl_append, List.flatMap_singleton]
  rfl

/-- Names that say nothing lead nowhere else. -/
theorem foldl_step_of_not_isPart {pieces : List (List Char)} (l : Location)
    (h : ∀ piece ∈ pieces, isPart piece = false) :
    (pieces.map String.ofList).foldl Location.step l = l := by
  induction pieces with
  | nil => rfl
  | cons piece pieces ih =>
      obtain ⟨hpiece, hpieces⟩ := List.forall_mem_cons.mp h
      have hstep : l.step (String.ofList piece) = l := by
        rcases isPart_eq_false.mp hpiece with rfl | rfl <;> rfl
      rw [List.map_cons, List.foldl_cons, hstep, ih hpieces]

theorem step_of_isPart {name : String} (h : isPart name.toList = true) (l : Location) :
    l.step name = if name = ".." then l.parent else l.child name := by
  obtain ⟨hempty, hdot⟩ := isPart_eq_true.mp h
  have hname : (name = "" || name = ".") = false := by
    rw [Bool.or_eq_false_iff, decide_eq_false_iff_not, decide_eq_false_iff_not]
    refine ⟨?_, ?_⟩
    · rintro rfl
      exact hempty rfl
    · rintro rfl
      exact hdot rfl
  rw [Location.step, hname]
  rfl

theorem child_ne_step {first : String} (hname : isPart name.toList = true) (hne : first ≠ name)
    (l : Location) : l.child first ≠ l.step name := by
  rw [step_of_isPart hname]
  intro h
  have hnames := congrArg Location.names h
  split at hnames
  · have hlength := congrArg List.length hnames
    simp [Location.child, Location.parent] at hlength
    omega
  · exact hne (List.singleton_inj.mp (List.append_cancel_left hnames))

theorem place_eq_step (d : Disk) (hname : IsComponent input.name) (hne : input.name ≠ "") :
    d.place input = (d.place input.parent).step input.name := by
  have hplace := place_rename d input input.name
  rw [rename_name hne, Text.splitAt_of_not_mem hname.slash] at hplace
  rw [hplace, List.map_singleton, String.ofList_toList]
  rfl

/-- A name with an ending leads to a child, however it goes on behind the first slash. -/
theorem place_rename_append {base : String} {piece : List Char} {pieces : List (List Char)}
    (hbase : base.toList ≠ []) (hdots : ¬(base.toList = ['.'] ∧ piece = []))
    (hsplit : Text.splitAt '/' (base ++ suffix).toList = (base.toList ++ '.' :: piece) :: pieces)
    (hpieces : ∀ piece ∈ pieces, isPart piece = false) (d : Disk) (p : Path) :
    d.place (p.rename (base ++ suffix)) =
      (d.place p.parent).child (String.ofList (base.toList ++ '.' :: piece)) := by
  obtain ⟨c, cs, hcs⟩ := List.exists_cons_of_ne_nil hbase
  have hpart : isPart (String.ofList (base.toList ++ '.' :: piece)).toList = true := by
    rw [String.toList_ofList, isPart_eq_true, hcs]
    simp
  have hparent : String.ofList (base.toList ++ '.' :: piece) ≠ ".." := by
    intro h
    have hlist := congrArg String.toList h
    rw [String.toList_ofList, hcs] at hlist
    obtain ⟨rfl, hrest⟩ := List.cons.inj hlist
    cases cs with
    | nil => exact hdots ⟨hcs, (List.cons.inj hrest).2⟩
    | cons c' cs =>
        have hlength := congrArg List.length hrest
        simp at hlength
  rw [place_rename, hsplit, List.map_cons, List.foldl_cons, foldl_step_of_not_isPart _ hpieces,
    step_of_isPart hpart, if_neg hparent]

/-- The destination of an input is in the directory of the input, and unless both endings are that
of source files it is there under another name. -/
theorem exists_place_destination (hname : IsComponent input.name)
    (hdot : suffix.toList.head? = some '.') (htakes : input.Takes suffix) :
    ∃ first : String,
      (∀ d : Disk, d.place (input.rename (input.kept ++ suffix)) =
        (d.place input.parent).child first) ∧
      (¬(input.suffix = sourceSuffix ∧ suffix = sourceSuffix) → first ≠ input.name) := by
  have hkept := kept_ne_nil hname
  obtain ⟨piece, pieces, hsplit, hjoined⟩ :=
    exists_splitAt_append hdot (slash_not_mem_kept hname)
  rcases name_eq_kept input with ⟨hsource, heq, -⟩ | ⟨hsource, heq⟩
  · obtain ⟨hlong, hslash⟩ := htakes.source hsource
    rw [Text.splitAt_of_not_mem hslash, List.cons.injEq] at hsplit
    obtain ⟨hsuffix, rfl⟩ := hsplit
    have hdots : ¬(input.kept.toList = ['.'] ∧ piece = []) := by
      rintro ⟨-, rfl⟩
      exact hlong (String.toList_inj.mp hsuffix)
    refine ⟨_, fun d => place_rename_append hkept hdots hjoined (by simp) d input, ?_⟩
    intro hother h
    have hlist := congrArg String.toList h
    rw [String.toList_ofList, heq, ← hsuffix, List.append_cancel_left_eq,
      String.toList_inj] at hlist
    exact hother ⟨hsource, hlist⟩
  · have hpieces := (htakes.other hsource).2
    rw [hsplit, List.tail_cons] at hpieces
    have hdots : ¬(input.kept.toList = ['.'] ∧ piece = []) := by
      rintro ⟨hdot', -⟩
      rw [heq] at hdot'
      exact (isPart_eq_true.mp hname.part).2 hdot'
    refine ⟨_, fun d => place_rename_append hkept hdots hjoined hpieces d input, ?_⟩
    rintro - h
    have hlist := congrArg String.toList h
    rw [String.toList_ofList, heq, List.append_right_eq_self] at hlist
    cases hlist

end Path

/-! ## The input stays -/

namespace Conversion

theorem run_disk (threshold : Int) (c : Conversion) (d : Disk) :
    (c.run threshold d).disk = d ∨
      ∃ content, (c.run threshold d).disk = c.after threshold content d := by
  unfold run
  cases d.read c.input with
  | error f =>
      refine .inl ?_
      show (refused d f _).disk = d
      unfold refused
      split <;> rfl
  | ok content => exact .inr ⟨content, convert_disk threshold c d content⟩

/-- A conversion leaves every file alone that is not where its output goes. -/
theorem file?_run {c : Conversion} {d : Disk} {p : Path} {f : ByteArray × Nat}
    (hplace : d.place p ≠ d.place c.output) (h : d.file? p = some f) (threshold : Int) :
    (c.run threshold d).disk.file? p = some f := by
  rcases run_disk threshold c d with heq | ⟨content, heq⟩
  · rwa [heq]
  · rw [heq]
    exact file?_after hplace h threshold content

end Conversion

namespace Path

/-- The default destination of an input with a name.  There is one just if the ending can be used.
It is in the directory of the input.  It is the input itself if both endings are that of source
files, and otherwise another place, so that the input stays as it is when it is converted. -/
theorem destination_beside_input (s : String) (draft : Settings.Draft) (settings : Settings)
    (hname : (ofString s).name ≠ "") (hsettings : Settings.ofDraft draft = .ok settings) :
    ((∃ output : Path, (ofString s).destination settings.suffix = .ok output) ↔
      (ofString s).Takes settings.suffix) ∧
    ∀ output : Path, (ofString s).destination settings.suffix = .ok output →
      output.parent = (ofString s).parent ∧
      (∀ d : Disk, ∃ name : String, d.place output = (d.place (ofString s).parent).child name) ∧
      (output = ofString s ↔ (ofString s).suffix = ".ed" ∧ settings.suffix = ".ed") ∧
      (output ≠ ofString s → ∀ (threshold : Int) (d : Disk) (f : ByteArray × Nat),
        d.file? (ofString s) = some f →
        (Conversion.run threshold ⟨ofString s, output, settings⟩ d).disk.file? (ofString s) =
          some f) := by
  have hcomponent := isComponent_name hname
  have hdot := head?_suffix hsettings
  -- of the text, only what its last name is like matters
  generalize ofString s = input at *
  have hiff : ∀ output : Path, input.destination settings.suffix = .ok output ↔
      input.Takes settings.suffix ∧ output = input.rename (input.kept ++ settings.suffix) :=
    fun _ => destination_eq_ok_iff hcomponent hdot
  refine ⟨⟨?_, ?_⟩, ?_⟩
  · rintro ⟨output, houtput⟩
    exact ((hiff output).mp houtput).1
  · intro htakes
    exact ⟨_, (hiff _).mpr ⟨htakes, rfl⟩⟩
  · intro output houtput
    obtain ⟨htakes, rfl⟩ := (hiff output).mp houtput
    obtain ⟨name, hplace, hother⟩ := exists_place_destination hcomponent hdot htakes
    have hself := rename_kept_eq_iff hname hdot
    refine ⟨parent_rename _ _, fun d => ⟨name, hplace d⟩, hself, ?_⟩
    intro hne threshold d f hfile
    refine Conversion.file?_run ?_ hfile threshold
    rw [hplace d, place_eq_step d hcomponent hname]
    exact (child_ne_step hcomponent.part (hother fun h => hne (hself.mpr h)) _).symm

/-- An ending without its dot, for an input that is no source file. -/
theorem destination_beside_input_text :
    (ofString "a/notes.txt").name ≠ "" ∧
      Settings.ofDraft { suffix := some (.string "tex") } = .ok { suffix := ".tex" } ∧
      ∃ output : Path, (ofString "a/notes.txt").destination ".tex" = .ok output ∧
        output.parent = ofString "a" ∧ output ≠ ofString "a/notes.txt" := by
  have hname : (ofString "a/notes.txt").name ≠ "" := by decide
  have hsettings : Settings.ofDraft { suffix := some (.string "tex") } =
      .ok { suffix := ".tex" } := rfl
  have htakes : (ofString "a/notes.txt").Takes ".tex" :=
    (takes_of_other (by decide)).mpr (by decide)
  obtain ⟨hexists, hbeside⟩ := destination_beside_input "a/notes.txt" _ _ hname hsettings
  obtain ⟨output, houtput⟩ := hexists.mpr htakes
  obtain ⟨hparent, -, hself, -⟩ := hbeside output houtput
  refine ⟨hname, hsettings, output, houtput, hparent.trans (by decide), fun h => ?_⟩
  exact absurd (hself.mp h).2 (by decide)

/-- The ending of source files gives the input itself.  A dot alone, which is what settings make of
an empty ending, gives nothing, nor does an ending with a name behind a slash. -/
theorem destination_of_unfit_suffix :
    Settings.ofDraft { suffix := some (.string "ed") } = .ok { suffix := ".ed" } ∧
      (ofString "notes.ed").destination ".ed" = .ok (ofString "notes.ed") ∧
      Settings.ofDraft { suffix := some (.string "") } = .ok { suffix := "." } ∧
      (ofString "notes.ed").destination "." = .error (.invalidSuffix ".") ∧
      Settings.ofDraft { suffix := some (.string "./x") } = .ok { suffix := "./x" } ∧
      (ofString "notes.txt").destination "./x" = .error (.invalidName "notes.txt./x") :=
  ⟨rfl, by rfl, rfl, by rfl, rfl, by rfl⟩

end Path

end PlainMath
