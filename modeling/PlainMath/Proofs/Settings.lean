/-
# `Proofs.Settings` — settings are checked field by field

The five settings as one family: each field has a name, a reader and a usual value, and what is
true of every field is said once.

    the usual value of a field passes its own check        (`Field.read_usual`)
    an issue names the field that it is about              (`Field.field_of_read`)
    a draft is accepted if each of its fields is           (`ofDraft_eq_ok_iff`)
    and otherwise every refused field has its issue        (`ofDraft_of_refused`)
-/
import PlainMath.Settings

namespace PlainMath.Settings

/-- The settings, in the order in which they are checked. -/
inductive Field where
  | mode
  | mixed
  | verbose
  | interval
  | suffix
  deriving DecidableEq

namespace Field

def all : List Field := [.mode, .mixed, .verbose, .interval, .suffix]

/-- The name of a field in a file. -/
def name : Field → String
  | .mode => "math_mode"
  | .mixed => "mixed"
  | .verbose => "verbose"
  | .interval => "watch_interval"
  | .suffix => "output_suffix"

/-- What a field holds. -/
def Content : Field → Type
  | .mode => Mode
  | .mixed | .verbose => Bool
  | .interval => Binary64
  | .suffix => String

/-- Reads the value of a field. -/
def read : (f : Field) → Value → Except Issue f.Content
  | .mode => readMode (name .mode)
  | .mixed => readFlag (name .mixed)
  | .verbose => readFlag (name .verbose)
  | .interval => readInterval (name .interval)
  | .suffix => readSuffix (name .suffix)

/-- The value of a field that nobody sets. -/
def usual : Field → Value
  | .mode => .string "none"
  | .mixed | .verbose => .boolean false
  | .interval => .number .one
  | .suffix => .string ".md"

end Field

/-- What the settings have in a field. -/
def get (s : Settings) : (f : Field) → f.Content
  | .mode => s.mode
  | .mixed => s.mixed
  | .verbose => s.verbose
  | .interval => s.interval
  | .suffix => s.suffix

namespace Draft

/-- What a draft has in a field, if anything. -/
def get (d : Draft) : Field → Option Value
  | .mode => d.mode
  | .mixed => d.mixed
  | .verbose => d.verbose
  | .interval => d.interval
  | .suffix => d.suffix

/-- The value of a field: that of the draft, or else the usual one. -/
def value (d : Draft) (f : Field) : Value := (d.get f).getD f.usual

end Draft

variable {d : Draft} {s : Settings} {f : Field} {v : Value}

/-! ## One field -/

/-- The usual value of every field is read as what the settings have there by default. -/
theorem Field.read_usual (f : Field) : f.read f.usual = .ok (({} : Settings).get f) := by
  cases f <;> rfl

theorem field_of_flagOfInt {name : String} {i : Int} {issue : Issue}
    (h : flagOfInt name i = .error issue) : issue.field = name := by
  unfold flagOfInt at h
  split at h
  · cases h
  · split at h
    · cases h
    · split at h <;> cases h <;> rfl

theorem field_of_readMode {name : String} {issue : Issue} (h : readMode name v = .error issue) :
    issue.field = name := by
  unfold readMode at h
  split at h
  · simp only at h
    split at h <;> cases h
    rfl
  · cases h
    rfl

theorem field_of_readFlag {name : String} {issue : Issue} (h : readFlag name v = .error issue) :
    issue.field = name := by
  unfold readFlag at h
  split at h
  · cases h
  · exact field_of_flagOfInt h
  · split at h
    · split at h
      · exact field_of_flagOfInt h
      · cases h
        rfl
    · cases h
      rfl
  · simp only at h
    split at h
    · cases h
    · split at h <;> cases h
      rfl
  · cases h
    rfl

theorem field_of_readNumber {name : String} {issue : Issue}
    (h : readNumber name v = .error issue) : issue.field = name := by
  unfold readNumber at h
  split at h
  · cases h
  · split at h <;> cases h
    rfl
  · cases h
  · split at h <;> cases h
    rfl
  · cases h
    rfl

theorem field_of_readInterval {name : String} {issue : Issue}
    (h : readInterval name v = .error issue) : issue.field = name := by
  unfold readInterval at h
  cases hnumber : readNumber name v with
  | error e =>
      rw [hnumber] at h
      cases h
      exact field_of_readNumber hnumber
  | ok x =>
      rw [hnumber] at h
      simp only [bind, Except.bind] at h
      split at h <;> cases h
      rfl

/-- An issue names the field that it is about. -/
theorem Field.field_of_read {issue : Issue} (h : f.read v = .error issue) :
    issue.field = f.name := by
  cases f with
  | mode => exact field_of_readMode h
  | mixed => exact field_of_readFlag h
  | verbose => exact field_of_readFlag h
  | interval => exact field_of_readInterval h
  | suffix =>
      cases v with
      | string s => cases h
      | _ =>
          cases h
          rfl

/-- A field that is absent has its usual value. -/
theorem readField_eq (d : Draft) (f : Field) :
    readField f.read (({} : Settings).get f) (d.get f) = f.read (d.value f) := by
  unfold readField Draft.value
  cases d.get f with
  | none => exact f.read_usual.symm
  | some v => rfl

/-! ## A draft -/

/-- The issues of all fields that are refused, in the order of the fields. -/
def issues (values : Field → Value) : List Issue :=
  Field.all.flatMap fun f => Issue.ofResult (f.read (values f))

theorem map_field_ofResult (f : Field) (v : Value) :
    (Issue.ofResult (f.read v)).map Issue.field =
      if (f.read v).isOk = true then [] else [f.name] := by
  cases h : f.read v with
  | ok x => rfl
  | error issue => exact congrArg ([·]) (Field.field_of_read h)

/-- There is one issue for each refused field, and it is about that field. -/
theorem map_field_issues (values : Field → Value) :
    (issues values).map Issue.field =
      (Field.all.filter fun f => !(f.read (values f)).isOk).map Field.name := by
  unfold issues
  induction Field.all with
  | nil => rfl
  | cons f fs ih =>
      rw [List.flatMap_cons, List.map_append, ih, map_field_ofResult]
      by_cases hok : (f.read (values f)).isOk = true
      · simp [hok]
      · simp [Bool.eq_false_iff.mpr hok]

theorem exists_of_isOk {ε α : Type} {x : Except ε α} (h : x.isOk = true) : ∃ a, x = .ok a := by
  cases x with
  | ok a => exact ⟨a, rfl⟩
  | error e => cases h

/-- A draft is accepted with all its fields, or refused with all its issues. -/
theorem ofDraft_cases (d : Draft) :
    (∃ s : Settings, ofDraft d = .ok s ∧ ∀ f : Field, f.read (d.value f) = .ok (s.get f)) ∨
      ((∃ f : Field, (f.read (d.value f)).isOk = false) ∧
        ofDraft d = .error (issues d.value)) := by
  have hread := readField_eq d
  unfold ofDraft
  simp only
  split
  · next mode mixed verbose interval suffix hmode hmixed hverbose hinterval hsuffix =>
      refine .inl ⟨⟨mode, mixed, verbose, interval, suffix⟩, rfl, fun f => ?_⟩
      rw [← hread f]
      cases f with
      | mode => exact hmode
      | mixed => exact hmixed
      | verbose => exact hverbose
      | interval => exact hinterval
      | suffix => exact hsuffix
  · next hnone =>
      refine .inr ⟨?_, ?_⟩
      · refine Classical.byContradiction fun hall => ?_
        have hok : ∀ f : Field, ∃ x,
            readField f.read (({} : Settings).get f) (d.get f) = .ok x := by
          intro f
          rw [hread f]
          exact exists_of_isOk (Bool.of_not_eq_false fun hf => hall ⟨f, hf⟩)
        obtain ⟨mode, hmode⟩ := hok .mode
        obtain ⟨mixed, hmixed⟩ := hok .mixed
        obtain ⟨verbose, hverbose⟩ := hok .verbose
        obtain ⟨interval, hinterval⟩ := hok .interval
        obtain ⟨suffix, hsuffix⟩ := hok .suffix
        exact hnone mode mixed verbose interval suffix hmode hmixed hverbose hinterval hsuffix
      · simp only [issues, Field.all, List.flatMap_cons, List.flatMap_nil, List.append_nil,
          ← hread, List.append_assoc]
        rfl

theorem ofDraft_eq_ok_iff :
    ofDraft d = .ok s ↔ ∀ f : Field, f.read (d.value f) = .ok (s.get f) := by
  rcases ofDraft_cases d with ⟨s', hdraft, hfields⟩ | ⟨⟨f, hf⟩, hdraft⟩
  · rw [hdraft]
    constructor
    · rintro h f
      cases h
      exact hfields f
    · intro h
      have hget : ∀ f : Field, s'.get f = s.get f := fun f =>
        Except.ok.inj ((hfields f).symm.trans (h f))
      obtain ⟨mode, mixed, verbose, interval, suffix⟩ := s
      obtain ⟨mode', mixed', verbose', interval', suffix'⟩ := s'
      obtain rfl : mode' = mode := hget .mode
      obtain rfl : mixed' = mixed := hget .mixed
      obtain rfl : verbose' = verbose := hget .verbose
      obtain rfl : interval' = interval := hget .interval
      obtain rfl : suffix' = suffix := hget .suffix
      rfl
  · rw [hdraft]
    constructor
    · intro h
      cases h
    · intro h
      rw [h f] at hf
      cases hf

theorem ofDraft_of_refused (h : (f.read (d.value f)).isOk = false) :
    ofDraft d = .error (issues d.value) := by
  rcases ofDraft_cases d with ⟨s, -, hfields⟩ | ⟨-, hdraft⟩
  · rw [hfields f] at h
    cases h
  · exact hdraft

end PlainMath.Settings
