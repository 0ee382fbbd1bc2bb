/-
# `Proofs.Settings.Load` — settings are layered field by field

Settings come from three layers: what is given, the section of the nearest project file, and the
usual values.  Each field takes the first layer that has it, and what the layers below have there
does not matter, nor does anything else in the file.

    the search ends at the nearest project file          (`nearest_find`)
    which there is at most one of                        (`Nearest.unique`)
    the verdict on the settings depends on the values
    of the fields alone                                  (`load_of_sets`)
    only an integer with too many digits comes between   (`load_of_longInteger`)
-/
import Mathlib.Data.List.Infix
import PlainMath.Proofs.Disk
import PlainMath.Proofs.Settings
import PlainMath.Settings.Load

namespace PlainMath

/-! ## Paths that can be asked for -/

/-- No name on the way is too long, nor is the path, and there is no null character in it. -/
structure Path.IsLegal (p : Path) : Prop where
  null : '\x00' ∉ p.text.toList
  size : p.text.utf8ByteSize ≤ Disk.pathLimit
  names : ∀ name ∈ Disk.steps p, name.utf8ByteSize ≤ Disk.nameLimit

namespace Disk

variable {d : Disk} {p : Path}

theorem walk_ne_nameTooLong (d : Disk) : ∀ (l : Location) {names : List String},
    (∀ name ∈ names, name.utf8ByteSize ≤ nameLimit) → d.walk l names ≠ .error .nameTooLong
  | _, [], _ => by simp [walk]
  | l, name :: rest, h => by
      obtain ⟨hname, hrest⟩ := List.forall_mem_cons.mp h
      unfold walk
      rw [if_neg (Nat.not_lt.mpr hname)]
      split
      · simp
      · exact walk_ne_nameTooLong d _ hrest
      · simp
      · simp

/-- The disk answers whether there is a file at a legal path. -/
theorem read_of_isLegal (hp : p.IsLegal) {f : DiskFailure} (h : d.read p = .error f) :
    f.error ≠ .nameTooLong ∧ f.error ≠ .nullInName := by
  refine ⟨?_, read_ne_nullInName hp.null h⟩
  have hlocate : d.locate p ≠ .error .nameTooLong := by
    unfold locate
    split
    · simp
    · rw [if_neg (Nat.not_lt.mpr hp.size)]
      exact walk_ne_nameTooLong d _ hp.names
  unfold read at h
  split at h
  · next e he =>
      cases h
      exact fun heq => hlocate (heq ▸ he)
  · split at h <;> cases h <;> simp

theorem read_eq_ok_iff {content : ByteArray} :
    d.read p = .ok content ↔ d.content? p = some content := by
  unfold content?
  cases hfile : d.file? p with
  | none =>
      obtain ⟨f, hread⟩ := read_of_file?_none hfile
      simp [hread]
  | some file =>
      obtain ⟨bytes, stamp⟩ := file
      simp [read_of_file? hfile]

end Disk

/-! ## Directories around a place -/

theorem Location.mem_upward {k l : Location} : k ∈ l.upward ↔ k.names <+: l.names := by
  simp only [upward, List.mem_reverse, List.mem_map, List.mem_range, Nat.lt_succ_iff]
  constructor
  · rintro ⟨n, -, rfl⟩
    exact List.take_prefix n l.names
  · intro h
    refine ⟨k.names.length, h.length_le, ?_⟩
    rw [← List.prefix_iff_eq_take.mp h]

/-- The nearer directories come first. -/
theorem Location.pairwise_upward (l : Location) :
    l.upward.Pairwise fun k k' => k'.names.length < k.names.length := by
  rw [upward, List.pairwise_reverse, List.pairwise_map]
  refine List.pairwise_lt_range.imp_of_mem ?_
  intro m n hm hn hlt
  rw [List.mem_range] at hm hn
  simp only [List.length_take]
  omega

/-! ## An integer with too many digits -/

namespace Toml

theorem unifyPairs_of_not_mem {cs : List Char} (h : '\r' ∉ cs) : unifyPairs cs = cs := by
  induction cs with
  | nil => rfl
  | cons c cs ih =>
      rw [List.mem_cons, not_or] at h
      obtain ⟨hc, hcs⟩ := h
      rw [unifyPairs, ih hcs]
      rintro cs' rfl
      exact absurd rfl hc

theorem digitRun_replicate (n : Nat) :
    digitRun 10 (List.replicate n '1') = (List.replicate n '1', []) := by
  induction n with
  | zero => rfl
  | succ n ih => rw [List.replicate_succ, digitRun, if_pos (by decide), ih]

theorem scalar_of_decimal? {c : Char} {r : List Char} {v : Value × List Char}
    (hquote : (c == '"' || c == '\'') = false)
    (hother : ((boolean? (c :: r)).or (moment? (c :: r))).or (based? (c :: r)) = none)
    (hdecimal : decimal? (c :: r) = some v) : scalar (c :: r) = limitedDecimal (c :: r) v := by
  simp only [scalar, hquote, hother, hdecimal]
  rfl

theorem scalar_replicate {n : Nat} (h : Text.digitLimit < n) :
    scalar (List.replicate n '1') = .error (.longInteger n) := by
  -- no date and no time begins with six digits, which is seen from these alone
  obtain ⟨m, rfl⟩ : ∃ m, n = m + 6 := ⟨n - 6, by unfold Text.digitLimit at h; omega⟩
  have hsign : Decimal.splitSign (List.replicate (m + 6) '1') =
      (false, List.replicate (m + 6) '1') := rfl
  have hwhole : whole? (List.replicate (m + 6) '1') = some (List.replicate (m + 6) '1', []) := by
    rw [← digitRun_replicate (m + 6)]
    rfl
  have hdecimal : decimal? (List.replicate (m + 6) '1') =
      some (.integer (valueIn 10 (List.replicate (m + 6) '1')), []) := by
    show (whole? (List.replicate (m + 6) '1') >>= _) = _
    rw [hwhole]
    rfl
  have hlength : integerLength? (List.replicate (m + 6) '1')
      (.integer (valueIn 10 (List.replicate (m + 6) '1'))) = some (m + 6) := by
    rw [integerLength?, hsign, hwhole]
    exact congrArg some List.length_replicate
  have hscalar : scalar (List.replicate (m + 6) '1') =
      limitedDecimal (List.replicate (m + 6) '1')
        (.integer (valueIn 10 (List.replicate (m + 6) '1')), []) :=
    scalar_of_decimal? rfl rfl hdecimal
  rw [hscalar, limitedDecimal, hlength]
  exact if_pos h

/-- A document with one integer that has too many digits. -/
theorem parse_longInteger {n : Nat} (h : Text.digitLimit < n) :
    parse (String.ofList ("n = ".toList ++ List.replicate n '1')) = .error (.longInteger n) := by
  have hpairs : '\r' ∉ "n = ".toList ++ List.replicate n '1' := by
    rw [List.mem_append, not_or]
    exact ⟨by decide, fun hr => absurd (List.eq_of_mem_replicate hr) (by decide)⟩
  have hscalar := scalar_replicate h
  obtain ⟨m, rfl⟩ : ∃ m, n = m + 1 := ⟨n - 1, by omega⟩
  have hstatement : statement ("n = ".toList ++ List.replicate (m + 1) '1') =
      .error (.longInteger (m + 1)) := by
    show (value (2 * (List.replicate (m + 1) '1').length + 1) (List.replicate (m + 1) '1') >>= _) =
      _
    have hvalue : ∀ k, value (k + 1) (List.replicate (m + 1) '1') =
        scalar (List.replicate (m + 1) '1') := fun _ => rfl
    rw [hvalue, hscalar]
    rfl
  have hextend : extend {} ((List.replicate (m + 1) '1').length + 4)
      ("n = ".toList ++ List.replicate (m + 1) '1') = .error (.longInteger (m + 1)) := by
    show (statement ("n = ".toList ++ List.replicate (m + 1) '1') >>= _) = _
    rw [hstatement]
    rfl
  rw [parse, String.toList_ofList, unifyPairs_of_not_mem hpairs]
  show (extend {} ((List.replicate (m + 1) '1').length + 4)
    ("n = ".toList ++ List.replicate (m + 1) '1') >>= _) = _
  rw [hextend]
  rfl

end Toml

namespace Settings

variable {d : Disk} {l : Location} {given : Draft}

/-! ## The nearest project file -/

/-- This is the content of the project file in a directory at or around a place, and there is none
in any directory nearer to it; or there is none at all. -/
def Nearest (d : Disk) (l : Location) : Option ByteArray → Prop
  | some content => ∃ k : Location, k.names <+: l.names ∧
      d.content? (projectPath k) = some content ∧
      ∀ k' : Location, k'.names <+: l.names → k.names.length < k'.names.length →
        d.content? (projectPath k') = none
  | none => ∀ k : Location, k.names <+: l.names → d.content? (projectPath k) = none

theorem Nearest.unique {found found' : Option ByteArray} (h : Nearest d l found)
    (h' : Nearest d l found') : found = found' := by
  cases found with
  | none =>
      cases found' with
      | none => rfl
      | some content =>
          obtain ⟨k, hk, hcontent, -⟩ := h'
          rw [h k hk] at hcontent
          cases hcontent
  | some content =>
      obtain ⟨k, hk, hcontent, hnearest⟩ := h
      cases found' with
      | none =>
          rw [h' k hk] at hcontent
          cases hcontent
      | some content' =>
          obtain ⟨k', hk', hcontent', hnearest'⟩ := h'
          rcases Nat.lt_trichotomy k.names.length k'.names.length with hlt | heq | hlt
          · rw [hnearest k' hk' hlt] at hcontent'
            cases hcontent'
          · obtain ⟨names⟩ := k
            obtain ⟨names'⟩ := k'
            obtain rfl : names = names' :=
              (List.prefix_of_prefix_length_le hk hk' heq.le).eq_of_length heq
            exact hcontent.symm.trans hcontent'
          · rw [hnearest' k hk hlt] at hcontent
            cases hcontent

theorem nearest_find (d : Disk) (l : Location) :
    Nearest d l (l.upward.findSome? fun k => d.content? (projectPath k)) := by
  cases hfind : l.upward.findSome? fun k => d.content? (projectPath k) with
  | none =>
      intro k hk
      exact List.findSome?_eq_none_iff.mp hfind k (Location.mem_upward.mpr hk)
  | some content =>
      obtain ⟨before, k, after, hsplit, hcontent, hbefore⟩ :=
        List.findSome?_eq_some_iff.mp hfind
      have hk : k ∈ l.upward := by simp [hsplit]
      refine ⟨k, Location.mem_upward.mp hk, hcontent, fun k' hk' hlt => ?_⟩
      have hmem := Location.mem_upward.mpr hk'
      have hpairwise := l.pairwise_upward
      rw [hsplit] at hmem hpairwise
      obtain ⟨-, hafter, -⟩ := List.pairwise_append.mp hpairwise
      rcases List.mem_append.mp hmem with h | h
      · exact hbefore k' h
      · rcases List.mem_cons.mp h with rfl | h
        · exact absurd hlt (lt_irrefl _)
        · have := (List.pairwise_cons.mp hafter).1 k' h
          omega

theorem firstFile?_eq : ∀ {ls : List Location}, (∀ k ∈ ls, (projectPath k).IsLegal) →
    firstFile? d ls = .ok (ls.findSome? fun k => d.content? (projectPath k))
  | [], _ => rfl
  | k :: rest, h => by
      obtain ⟨hk, hrest⟩ := List.forall_mem_cons.mp h
      have ih := firstFile?_eq hrest
      cases hread : d.read (projectPath k) with
      | ok content =>
          rw [firstFile?, hread, List.findSome?_cons, Disk.read_eq_ok_iff.mp hread]
      | error f =>
          obtain ⟨error, path⟩ := f
          obtain ⟨hlong, hnull⟩ := Disk.read_of_isLegal hk hread
          have hnone : d.content? (projectPath k) = none := by
            cases hcontent : d.content? (projectPath k) with
            | none => rfl
            | some content =>
                rw [Disk.read_eq_ok_iff.mpr hcontent] at hread
                cases hread
          rw [firstFile?, hread, List.findSome?_cons, hnone, ← ih]
          cases error with
          | nameTooLong => exact absurd rfl hlong
          | nullInName => exact absurd rfl hnull
          | _ => rfl

/-- Every directory at and around a place can be asked for its project file. -/
def Answers (l : Location) : Prop :=
  ∀ k : Location, k.names <+: l.names → (projectPath k).IsLegal

theorem answers_of_upward (h : ∀ k ∈ l.upward, '\x00' ∉ (projectPath k).text.toList ∧
    (projectPath k).text.utf8ByteSize ≤ Disk.pathLimit ∧
    ∀ name ∈ Disk.steps (projectPath k), name.utf8ByteSize ≤ Disk.nameLimit) : Answers l := by
  intro k hk
  obtain ⟨hnull, hsize, hnames⟩ := h k (Location.mem_upward.mpr hk)
  exact ⟨hnull, hsize, hnames⟩

theorem nearest?_eq {found : Option ByteArray} (hl : Answers l) (h : Nearest d l found) :
    nearest? d l = .ok found := by
  rw [nearest?, firstFile?_eq fun k hk => hl k (Location.mem_upward.mp hk)]
  exact congrArg Except.ok ((nearest_find d l).unique h)

/-! ## Layers -/

/-- These are the fields of the section in the nearest project file.  There are none without a
file, in a file that is no document, and in a document without the section. -/
inductive Sets (d : Disk) (l : Location) : List (String × Value) → Prop where
  | noFile : Nearest d l none → Sets d l []
  | noDocument {content : ByteArray} {text : String} : Nearest d l (some content) →
      String.fromUTF8? content = some text → Toml.parse text = .error .malformed → Sets d l []
  | noTools {content : ByteArray} {text : String} {document : List (String × Value)} :
      Nearest d l (some content) → String.fromUTF8? content = some text →
      Toml.parse text = .ok document → Value.field? "tool" document = none → Sets d l []
  | noSection {content : ByteArray} {text : String} {document tools : List (String × Value)} :
      Nearest d l (some content) → String.fromUTF8? content = some text →
      Toml.parse text = .ok document → Value.field? "tool" document = some (.table tools) →
      Value.field? "euclid" tools = none → Sets d l []
  | hasSection {content : ByteArray} {text : String}
      {document tools fields : List (String × Value)} :
      Nearest d l (some content) → String.fromUTF8? content = some text →
      Toml.parse text = .ok document → Value.field? "tool" document = some (.table tools) →
      Value.field? "euclid" tools = some (.table fields) → Sets d l fields

/-- The value of a field: the given one, or else that of the file, or else the usual one. -/
def layered (given : Draft) (fields : List (String × Value)) (f : Field) : Value :=
  ((given.get f).or (Value.field? f.name fields)).getD f.usual

theorem value_completedBy (given : Draft) (fields : List (String × Value)) :
    (given.completedBy (.ofFields fields)).value = layered given fields := by
  funext f
  cases f <;> rfl

/-- The verdict on the values of all fields: the settings that have them, or all issues. -/
def verdict (draft : Draft) : Except LoadError Settings := (ofDraft draft).mapError .refused

theorem load_of_nearest? {directory : Path} {found : Option ByteArray}
    (h : nearest? d (d.place directory) = .ok found) : load given d directory =
      found.elim (.ok []) projectFields >>= fun fields =>
        verdict (given.completedBy (.ofFields fields)) := by
  unfold load verdict
  rw [h]
  cases found with
  | none =>
      simp only [Option.elim, bind, Except.bind]
      cases ofDraft (given.completedBy (.ofFields [])) <;> rfl
  | some content =>
      simp only [Option.elim]
      cases projectFields content with
      | error e => rfl
      | ok fields =>
          simp only [bind, Except.bind]
          cases ofDraft (given.completedBy (.ofFields fields)) <;> rfl

theorem Sets.exists_nearest {fields : List (String × Value)} (h : Sets d l fields) :
    ∃ found, Nearest d l found ∧ found.elim (.ok []) projectFields = .ok fields := by
  cases h with
  | noFile hnearest => exact ⟨none, hnearest, rfl⟩
  | noDocument hnearest htext hparse =>
      refine ⟨_, hnearest, ?_⟩
      simp only [Option.elim, projectFields, htext, hparse]
  | noTools hnearest htext hparse htools =>
      refine ⟨_, hnearest, ?_⟩
      simp only [Option.elim, projectFields, htext, hparse, sectionFields, htools]
  | noSection hnearest htext hparse htools hsection =>
      refine ⟨_, hnearest, ?_⟩
      simp only [Option.elim, projectFields, htext, hparse, sectionFields, htools, hsection]
  | hasSection hnearest htext hparse htools hsection =>
      refine ⟨_, hnearest, ?_⟩
      simp only [Option.elim, projectFields, htext, hparse, sectionFields, htools, hsection]

theorem sets_of_projectFields {content : ByteArray} {fields : List (String × Value)}
    (hnearest : Nearest d l (some content)) (h : projectFields content = .ok fields) :
    Sets d l fields := by
  unfold projectFields at h
  cases htext : String.fromUTF8? content with
  | none =>
      simp only [htext] at h
      cases h
  | some text =>
      simp only [htext] at h
      split at h
      · next document hparse =>
          unfold sectionFields at h
          split at h
          · next htools =>
              cases h
              exact .noTools hnearest htext hparse htools
          · next tools htools =>
              split at h
              · next hsection =>
                  cases h
                  exact .noSection hnearest htext hparse htools hsection
              · next hsection =>
                  cases h
                  exact .hasSection hnearest htext hparse htools hsection
              · cases h
          · cases h
      · cases h
      · next hparse =>
          cases h
          exact .noDocument hnearest htext hparse

theorem load_of_sets {directory : Path} {fields : List (String × Value)}
    (hl : Answers (d.place directory)) (h : Sets d (d.place directory) fields) :
    load given d directory = verdict (given.completedBy (.ofFields fields)) := by
  obtain ⟨found, hnearest, hfields⟩ := h.exists_nearest
  rw [load_of_nearest? (nearest?_eq hl hnearest), hfields]
  rfl

theorem load_of_longInteger {directory : Path} {content : ByteArray} {text : String} {digits : Nat}
    (hl : Answers (d.place directory)) (hnearest : Nearest d (d.place directory) (some content))
    (htext : String.fromUTF8? content = some text)
    (hparse : Toml.parse text = .error (.longInteger digits)) :
    load given d directory = .error (.longInteger digits) := by
  rw [load_of_nearest? (nearest?_eq hl hnearest)]
  simp only [Option.elim, projectFields, htext, hparse]
  rfl

section Layers
variable {directory : Path} {fields : List (String × Value)} {s : Settings} {f : Field}
  (hl : Answers (d.place directory)) (h : Sets d (d.place directory) fields)
include hl h

theorem load_eq_ok_iff : load given d directory = .ok s ↔
    ∀ f : Field, f.read (layered given fields f) = .ok (s.get f) := by
  rw [load_of_sets hl h, ← value_completedBy, ← ofDraft_eq_ok_iff, verdict]
  cases ofDraft (given.completedBy (.ofFields fields)) with
  | ok s' => simp [Except.mapError]
  | error issues => simp [Except.mapError]

theorem load_of_refused (hf : (f.read (layered given fields f)).isOk = false) :
    load given d directory = .error (.refused (issues (layered given fields))) := by
  rw [← value_completedBy] at hf ⊢
  rw [load_of_sets hl h, verdict, ofDraft_of_refused hf]
  rfl

/-- All fields pass, or some field does not. -/
theorem load_cases (given : Draft) :
    (∃ s : Settings, load given d directory = .ok s ∧
      ∀ f : Field, f.read (layered given fields f) = .ok (s.get f)) ∨
    ((∃ f : Field, (f.read (layered given fields f)).isOk = false) ∧
      load given d directory = .error (.refused (issues (layered given fields)))) := by
  have hcases := ofDraft_cases (given.completedBy (.ofFields fields))
  rw [value_completedBy] at hcases
  rcases hcases with ⟨s, -, hs⟩ | ⟨⟨f, hf⟩, -⟩
  · exact .inl ⟨s, (load_eq_ok_iff hl h).mpr hs, hs⟩
  · exact .inr ⟨⟨f, hf⟩, load_of_refused hl h hf⟩

end Layers

theorem layered_congr {fields fields' : List (String × Value)}
    (h : ∀ f : Field, given.get f = none →
      Value.field? f.name fields' = Value.field? f.name fields) :
    layered given fields' = layered given fields := by
  funext f
  unfold layered
  cases hgiven : given.get f with
  | none => rw [h f hgiven]
  | some v => rfl

/-- Settings are layered field by field.  Where the nearest project file sets some fields, settings
can be loaded if and only if the value of each field passes its own check, and then they have what
is read from these values; otherwise there is one issue for each field that does not pass, in the
order of the fields.  Nothing but these values matters: neither other fields of the file nor what
the file has for a field that is given.  The one exception is an integer with too many digits,
anywhere in the nearest file. -/
theorem load_field_by_field (given : Draft) (d : Disk) (directory : Path)
    (hl : Answers (d.place directory)) :
    (∀ fields : List (String × Value), Sets d (d.place directory) fields →
      ((∃ s : Settings, load given d directory = .ok s) ↔
        ∀ f : Field, (f.read (layered given fields f)).isOk = true) ∧
      (∀ s : Settings, load given d directory = .ok s →
        ∀ f : Field, f.read (layered given fields f) = .ok (s.get f)) ∧
      (∀ f : Field, (f.read (layered given fields f)).isOk = false →
        load given d directory = .error (.refused (issues (layered given fields))) ∧
          (issues (layered given fields)).map Issue.field =
            (Field.all.filter fun f => !(f.read (layered given fields f)).isOk).map Field.name) ∧
      (∀ (d' : Disk) (directory' : Path) (fields' : List (String × Value)),
        Answers (d'.place directory') → Sets d' (d'.place directory') fields' →
        (∀ f : Field, given.get f = none →
          Value.field? f.name fields' = Value.field? f.name fields) →
        load given d' directory' = load given d directory)) ∧
    (∀ (content : ByteArray) (text : String) (digits : Nat),
      Nearest d (d.place directory) (some content) → String.fromUTF8? content = some text →
      Toml.parse text = .error (.longInteger digits) →
      load given d directory = .error (.longInteger digits)) := by
  refine ⟨fun fields hfields => ?_, fun content text digits hnearest htext hparse =>
    load_of_longInteger hl hnearest htext hparse⟩
  refine ⟨⟨?_, ?_⟩, fun s hs => (load_eq_ok_iff hl hfields).mp hs, fun f hf =>
    ⟨load_of_refused hl hfields hf, map_field_issues _⟩, ?_⟩
  · rintro ⟨s, hs⟩ f
    rw [(load_eq_ok_iff hl hfields).mp hs f]
    rfl
  · intro hall
    rcases load_cases hl hfields given with ⟨s, hs, -⟩ | ⟨⟨f, hf⟩, -⟩
    · exact ⟨s, hs⟩
    · rw [hall f] at hf
      cases hf
  · intro d' directory' fields' hl' hfields' hsame
    have hlayered := layered_congr hsame
    rcases load_cases hl hfields given with ⟨s, hs, hread⟩ | ⟨⟨f, hf⟩, herror⟩
    · rw [hs, load_eq_ok_iff hl' hfields', hlayered]
      exact hread
    · rw [← hlayered] at hf herror
      rw [herror, load_of_refused hl' hfields' hf]

/-- The file is in the directory around the working one.  What it has for a field that is given is
no issue, nor is a field that there is not. -/
theorem load_field_by_field_overridden : ∃ (d : Disk) (fields : List (String × Value)),
    Answers (d.place (.ofString "")) ∧ Sets d (d.place (.ofString "")) fields ∧
      fields.map Prod.fst = ["mixed", "verbose", "colour"] ∧
      ∃ issues : List Issue,
        load { mixed := some (.boolean false) } d (.ofString "") = .error (.refused issues) ∧
          issues.map Issue.field = ["verbose"] := by
  let content := "[tool.euclid]\nmixed = 'perhaps'\nverbose = 3\ncolour = 1".toUTF8
  let d : Disk := ⟨⟨["w"]⟩, [(⟨["pyproject.toml"]⟩, .file content 0)], 1⟩
  let given : Draft := { mixed := some (.boolean false) }
  have hl : Answers (d.place (.ofString "")) := answers_of_upward (by decide +kernel)
  have hfile : ∀ bytes : ByteArray, Nearest
      ⟨⟨["w"]⟩, [(⟨["pyproject.toml"]⟩, .file bytes 0)], 1⟩ ⟨["w"]⟩ (some bytes) :=
    fun _ => nearest_find _ _
  have hcheck : (projectFields content).toOption.map (fun fields =>
      (fields.map Prod.fst, (Field.verbose.read (layered given fields .verbose)).isOk,
        (Field.all.filter fun f => !(f.read (layered given fields f)).isOk).map Field.name)) =
      some (["mixed", "verbose", "colour"], false, ["verbose"]) := by
    decide +kernel
  obtain ⟨fields, hoption, hfields⟩ := Option.map_eq_some_iff.mp hcheck
  obtain ⟨hkeys, hverbose, hnames⟩ : _ ∧ _ ∧ _ := by simpa only [Prod.mk.injEq] using hfields
  have hproject : projectFields content = .ok fields := by
    cases hresult : projectFields content with
    | error e =>
        rw [hresult] at hoption
        cases hoption
    | ok fields' =>
        rw [hresult] at hoption
        exact congrArg Except.ok (Option.some.inj hoption)
  have hsets : Sets d (d.place (.ofString "")) fields :=
    sets_of_projectFields (hfile content) hproject
  obtain ⟨-, -, hrefused, -⟩ := (load_field_by_field given d (.ofString "") hl).1 fields hsets
  obtain ⟨hload, hissues⟩ := hrefused .verbose hverbose
  exact ⟨d, fields, hl, hsets, hkeys, _, hload, hissues.trans hnames⟩

/-- A file without a section for this tool keeps settings from being loaded. -/
theorem load_of_unrelated_longInteger :
    load {} ⟨⟨["w"]⟩, [(⟨["w", "pyproject.toml"]⟩,
      .file (String.ofList ("n = ".toList ++ List.replicate 4301 '1')).toUTF8 0)], 1⟩
      (.ofString "") = .error (.longInteger 4301) := by
  have hfile : ∀ content : ByteArray, Nearest
      ⟨⟨["w"]⟩, [(⟨["w", "pyproject.toml"]⟩, .file content 0)], 1⟩ ⟨["w"]⟩ (some content) :=
    fun _ => nearest_find _ _
  -- with the text itself in view, the digits would be computed
  have hload : ∀ (text : String) (digits : Nat), Toml.parse text = .error (.longInteger digits) →
      load {} ⟨⟨["w"]⟩, [(⟨["w", "pyproject.toml"]⟩, .file text.toUTF8 0)], 1⟩ (.ofString "") =
        .error (.longInteger digits) := by
    intro text digits hparse
    have hl : Answers ⟨["w"]⟩ := answers_of_upward (by decide +kernel)
    exact load_of_longInteger hl (hfile text.toUTF8) (dif_pos text.isValidUTF8) hparse
  exact hload _ 4301 (Toml.parse_longInteger (by decide))

end Settings

end PlainMath
