/-
# `Proofs.Conversion` — what becomes of a content

A conversion judges the content of its input before it touches the disk: there is LaTeX to be
written, or nothing to be written, or the conversion is aborted (`judge`).  What it does to the
disk depends on the verdict alone (`convert_disk`).  A text is aborted only because a message
cannot be shown, and that happens only if messages for debugging are shown and the text is prose
(`abort?_of_text`).
-/
import PlainMath.Conversion
import PlainMath.Proofs.Disk
import PlainMath.Proofs.Messages

namespace PlainMath

theorem Event.delivered_eq {threshold : Int} {events : List Event}
    (h : ∀ e ∈ events, isShown threshold e = true → e.fault? = none) :
    delivered threshold events = (events, none) := by
  induction events with
  | nil => rfl
  | cons e rest ih =>
      rw [List.forall_mem_cons] at h
      have hfault : (if isShown threshold e = true then e.fault? else none) = none := by
        split
        · next hshown => exact h.1 hshown
        · rfl
      rw [delivered, hfault, ih h.2]

/-- What was written as a text is read as one. -/
theorem Text.ofBytes?_toUTF8 (s : String) :
    ofBytes? s.toUTF8 = some (String.ofList (unifyLineEnds s.toList)) := by
  have hdecodes : String.fromUTF8? s.toUTF8 = some s := dif_pos s.isValidUTF8
  rw [ofBytes?, hdecodes]
  rfl

namespace Conversion

variable {threshold : Int} {c : Conversion} {d : Disk} {content : ByteArray}

/-! ## Verdicts -/

/-- What is decided about a content, and what is shown on the way: the LaTeX that is to be written,
if there is any, or an abort. -/
def judge (threshold : Int) (c : Conversion) (content : ByteArray) :
    Except Abort (Option String) × List Event :=
  match Text.ofBytes? content with
  | none => (.error .undecodable, [])
  | some source =>
    match c.typeset source with
    | .error e => (.error (.defect e), [])
    | .ok ⟨result, events⟩ =>
      match Event.delivered threshold events with
      | (events, some f) => (.error (.defect (.markup f)), events)
      | (events, none) => (.ok result, events)

/-- Why a content aborts its conversion, if it does. -/
def abort? (threshold : Int) (c : Conversion) (content : ByteArray) : Option Abort :=
  match (c.judge threshold content).1 with
  | .ok _ => none
  | .error e => some e

/-- The LaTeX of a content. -/
def result? (threshold : Int) (c : Conversion) (content : ByteArray) : Option String :=
  match (c.judge threshold content).1 with
  | .ok result => result
  | .error _ => none

/-- What is shown about a content. -/
def told (threshold : Int) (c : Conversion) (content : ByteArray) : List Event :=
  (c.judge threshold content).2 ++ (c.result? threshold content).toList.map fun _ => c.succeeded

/-- The disk after a content was converted. -/
def after (threshold : Int) (c : Conversion) (content : ByteArray) (d : Disk) : Disk :=
  match c.result? threshold content with
  | some latex => (d.publish c.output latex.toUTF8).1
  | none => d

/-! ## Converting -/

theorem convert_eq (threshold : Int) (c : Conversion) (d : Disk) (content : ByteArray) :
    c.convert threshold d content =
      match c.judge threshold content with
      | (.error e, events) => ⟨.error e, d, events⟩
      | (.ok none, events) => ⟨.ok false, d, events⟩
      | (.ok (some latex), events) =>
        { c.write d latex with events := events ++ (c.write d latex).events } := by
  unfold convert judge
  cases Text.ofBytes? content with
  | none => rfl
  | some source =>
      cases htypeset : c.typeset source with
      | error e => simp only [htypeset]
      | ok t =>
          obtain ⟨result, events⟩ := t
          simp only [htypeset]
          rcases Event.delivered threshold events with ⟨shown, _ | f⟩ <;> cases result <;> rfl

theorem write_disk (c : Conversion) (d : Disk) (latex : String) :
    (c.write d latex).disk = (d.publish c.output latex.toUTF8).1 := by
  unfold write
  split
  · next h => rw [h]
  · next h =>
      rw [h, refused]
      split <;> rfl

theorem write_of_publish {latex : String} (h : (d.publish c.output latex.toUTF8).2 = none) :
    (c.write d latex).written = .ok true ∧ (c.write d latex).events = [c.succeeded] := by
  unfold write
  split
  · exact ⟨rfl, rfl⟩
  · next hpublish =>
      rw [hpublish] at h
      cases h

/-- The disk is changed by the LaTeX, if there is any, and otherwise not at all. -/
theorem convert_disk (threshold : Int) (c : Conversion) (d : Disk) (content : ByteArray) :
    (c.convert threshold d content).disk = c.after threshold content d := by
  rw [convert_eq, after, result?]
  rcases c.judge threshold content with ⟨e | _ | latex, events⟩
  · rfl
  · rfl
  · exact write_disk c d latex

theorem convert_of_abort? {e : Abort} (h : c.abort? threshold content = some e) (d : Disk) :
    c.convert threshold d content = ⟨.error e, d, (c.judge threshold content).2⟩ := by
  rw [abort?] at h
  rw [convert_eq]
  rcases hjudge : c.judge threshold content with ⟨e' | result, events⟩
  · rw [hjudge] at h
    cases h
    rfl
  · rw [hjudge] at h
    cases h

/-- If the output can be written, a content that does not abort is converted to the end. -/
theorem convert_of_abort?_none (h : c.abort? threshold content = none)
    (hwritable : ∀ bytes, (d.publish c.output bytes).2 = none) :
    (∃ written, (c.convert threshold d content).written = .ok written) ∧
      (c.convert threshold d content).events = c.told threshold content := by
  rw [abort?] at h
  rw [convert_eq, told, result?]
  rcases hjudge : c.judge threshold content with ⟨e | _ | latex, events⟩
  · rw [hjudge] at h
    cases h
  · exact ⟨⟨false, rfl⟩, (List.append_nil _).symm⟩
  · obtain ⟨hwritten, hevents⟩ := write_of_publish (hwritable latex.toUTF8)
    exact ⟨⟨true, hwritten⟩, congrArg (events ++ ·) hevents⟩

/-- Every other file stays as it is. -/
theorem file?_after {p : Path} {f : ByteArray × Nat} (hplace : d.place p ≠ d.place c.output)
    (h : d.file? p = some f) (threshold : Int) (content : ByteArray) :
    (c.after threshold content d).file? p = some f := by
  unfold after
  split
  · exact Disk.file?_publish_of_ne hplace h _
  · exact h

theorem reaches_after {edits : List Disk.Edit} {d' : Disk}
    (h : Disk.Reaches c.input c.output edits d d') :
    Disk.Reaches c.input c.output edits d (c.after threshold content d') := by
  unfold after
  split
  · exact h.publish _
  · exact h

/-- The output holds the LaTeX, if there is any, and otherwise what it held before. -/
theorem content?_after (hwritable : ∀ bytes, (d.publish c.output bytes).2 = none) :
    (c.after threshold content d).content? c.output =
      ((c.result? threshold content).map String.toUTF8).or (d.content? c.output) := by
  unfold after
  cases c.result? threshold content with
  | none => rfl
  | some latex => exact Disk.content?_publish (hwritable latex.toUTF8)

/-! ## Aborts -/

/-- A message about a path can be shown, whatever the path is. -/
theorem fault?_said_path (severity : Severity) {before after : String}
    (hbefore : '[' ∉ before.toList) (hbackslash : '\\' ∉ before.toList)
    (hafter : '[' ∉ after.toList) (p : Path) :
    (Event.said severity (before ++ shownPath p ++ after)).fault? = none := by
  have hsign : '[' ∉ (Event.sign severity).toList ∧ '\\' ∉ (Event.sign severity).toList := by
    cases severity <;> decide
  have hfront : '[' ∉ (Event.sign severity ++ before).toList := by simp [hsign.1, hbefore]
  have hfront' : '\\' ∉ (Event.sign severity ++ before).toList := by simp [hsign.2, hbackslash]
  show Text.Markup.fault? (Event.sign severity ++ (before ++ shownPath p ++ after)) = none
  rw [← String.append_assoc, ← String.append_assoc]
  exact Text.fault?_path hfront hfront' hafter p.text

theorem fault?_failed (c : Conversion) : c.failed.fault? = none :=
  fault?_said_path .error (by decide) (by decide) (by decide) c.input

theorem fault?_dumps (o : Typesetting.Outcome) : ∀ e ∈ dumps o, e.fault? = none := by
  intro e he
  simp only [dumps, List.mem_append, List.mem_map, List.mem_singleton] at he
  rcases he with ((rfl | ⟨line, -, rfl⟩) | rfl) | htree
  · rfl
  · rfl
  · rfl
  · split at htree
    · cases htree
    · rcases List.mem_cons.mp htree with rfl | htree
      · rfl
      · obtain ⟨line, -, rfl⟩ := List.mem_map.mp htree
        rfl

/-- Prose has a result, and everything that is said to everybody can be shown. -/
theorem exists_typeset_mixed {source : String} (hmixed : c.settings.mixed = true)
    (hquiet : Severity.debug.rank < threshold) :
    ∃ t, c.typeset source = .ok t ∧
      ∀ e ∈ t.events, Event.isShown threshold e = true → e.fault? = none := by
  obtain ⟨logged, hdocument, hlog⟩ := Prose.exists_document (proseMode c.settings.mode) source
  refine ⟨⟨some logged.value, logged.log.map .message⟩, ?_, ?_⟩
  · simp [typeset, hmixed, hdocument, bind, Except.bind, pure, Except.pure]
  · intro e he hshown
    obtain ⟨entry, hentry, rfl⟩ := List.mem_map.mp he
    rcases hlog entry hentry with hdebug | hharmless
    · have hrank : threshold ≤ entry.severity.rank := of_decide_eq_true hshown
      rw [hdebug] at hrank
      omega
    · exact Text.fault?_of_harmless hharmless

/-- A source has a result or a report, and everything that is said can be shown. -/
theorem exists_typeset {source : String} (hmixed : c.settings.mixed = false) :
    ∃ t, c.typeset source = .ok t ∧ ∀ e ∈ t.events, e.fault? = none := by
  obtain ⟨logged, hrun, hlog⟩ :=
    Typesetting.exists_run ⟨c.settings.mode, c.settings.verbose⟩ source
  have hbefore : ∀ e ∈ logged.log.map Event.message ++
      (if c.settings.verbose = true then dumps logged.value else []), e.fault? = none := by
    refine List.forall_mem_append.mpr ⟨fun e he => ?_, fun e he => ?_⟩
    · obtain ⟨entry, hentry, rfl⟩ := List.mem_map.mp he
      exact Text.fault?_of_harmless (hlog entry hentry)
    · split at he
      · exact fault?_dumps _ e he
      · cases he
  cases hresult : logged.value.result with
  | ok latex =>
      refine ⟨⟨some latex, _⟩, ?_, hbefore⟩
      simp [typeset, hmixed, hrun, hresult, bind, Except.bind, pure, Except.pure]
  | error report =>
      refine ⟨⟨none, _ ++ [.report report, c.failed]⟩, ?_,
        List.forall_mem_append.mpr ⟨hbefore, ?_⟩⟩
      · simp [typeset, hmixed, hrun, hresult, bind, Except.bind, pure, Except.pure]
      · intro e he
        rcases List.mem_pair.mp he with rfl | rfl
        · rfl
        · exact fault?_failed c

/-- A text aborts its conversion only if it is prose and messages for debugging are shown. -/
theorem abort?_of_text {source : String} (hsource : Text.ofBytes? content = some source)
    (hquiet : c.settings.mixed = false ∨ Severity.debug.rank < threshold) :
    c.abort? threshold content = none := by
  have htypeset : ∃ t, c.typeset source = .ok t ∧
      ∀ e ∈ t.events, Event.isShown threshold e = true → e.fault? = none := by
    cases hmixed : c.settings.mixed with
    | false =>
        obtain ⟨t, ht, hevents⟩ := exists_typeset hmixed
        exact ⟨t, ht, fun e he _ => hevents e he⟩
    | true => exact exists_typeset_mixed hmixed (hquiet.resolve_left (by simp [hmixed]))
  obtain ⟨⟨result, events⟩, ht, hevents⟩ := htypeset
  rw [abort?, judge, hsource]
  simp only [ht, Event.delivered_eq hevents]

end Conversion

end PlainMath
