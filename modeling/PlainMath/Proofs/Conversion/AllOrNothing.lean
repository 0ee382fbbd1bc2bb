/-
# `Proofs.Conversion.AllOrNothing` — a conversion writes its output or changes no file

Between reading the input and writing the output, a conversion makes directories, and it can end
in many ways: the input cannot be read, it is no text, it has no LaTeX, a message cannot be shown,
a directory cannot be made, the output cannot be written.  In none of these cases a file was
touched, since directories come up only where nothing was.

    making directories changes no file                 (`regular?_ensureDirectory`)
    writing changes one file, or none                  (`regular?_publish`)
    what is written is the LaTeX of the input          (`converts_of_judge`)
    after that nothing can go wrong                    (`fault?_succeeded`)
-/
import PlainMath.Proofs.Conversion
import PlainMath.Proofs.Lines

namespace PlainMath

/-! ## Regular files -/

namespace Disk

variable {d d' : Disk} {p : Path} {l : Location}

/-- The content and the stamp of the regular file at a location. -/
def regular? (d : Disk) (l : Location) : Option (ByteArray × Nat) :=
  match d.find? l with
  | some (.file content stamp) => some (content, stamp)
  | _ => none

theorem regular?_congr (h : d'.find? l = d.find? l) : d'.regular? l = d.regular? l := by
  rw [regular?, regular?, h]

/-- No file comes or goes when directories are made, however far that gets. -/
theorem regular?_ensureDirectory (d : Disk) (p : Path) (k : Location) :
    (d.ensureDirectory p).1.regular? k = d.regular? k := by
  refine ensureDirectory_induction (R := fun d d' => d'.regular? k = d.regular? k)
    (fun _ => rfl) (fun h h' => h'.trans h) ?_ d p
  intro d l hentry
  by_cases hk : k = l
  · have hfree : d.find? l ≠ some .directory := by simp [hentry]
    rw [hk, regular?, find?_put_self hfree, regular?, hentry]
  · exact regular?_congr (find?_put_of_ne hk _)

/-- Just one file of the second disk is written: the one at this path, with this content. -/
def WritesOnly (p : Path) (content : ByteArray) (d d' : Disk) : Prop :=
  ∃ (l : Location) (stamp : Nat), d'.locate p = .ok l ∧ d'.regular? l = some (content, stamp) ∧
    ∀ k, k ≠ l → d'.regular? k = d.regular? k

theorem regular?_publish (d : Disk) (p : Path) (content : ByteArray) :
    (d.publish p content).2 = none ∧ WritesOnly p content d (d.publish p content).1 ∨
      (∃ f, (d.publish p content).2 = some f) ∧
        ∀ k, (d.publish p content).1.regular? k = d.regular? k := by
  have hmade := regular?_ensureDirectory d p.parent
  obtain ⟨between, rfl, -, ⟨heq, hfailure⟩ | ⟨hnone, hwrite⟩⟩ := publish_cases d p content
  · refine .inr ⟨hfailure, ?_⟩
    rw [heq]
    exact hmade
  · obtain ⟨l, hlocate, hsame, hfind⟩ := write_eq_ok hwrite
    have hlocate' := hsame.keepsDirectories.locate hlocate
    refine .inl ⟨hnone, l, (d.ensureDirectory p.parent).1.clock, hlocate', ?_, ?_⟩
    · rw [regular?, hfind]
    · intro k hk
      rw [regular?_congr (hsame.find? k hk)]
      exact hmade k

end Disk

namespace Conversion

variable {threshold : Int} {c : Conversion} {d : Disk} {content : ByteArray} {latex : String}

/-! ## What is written -/

/-- A text has this LaTeX: that of all its fragments, if it is prose, and its own otherwise. -/
def Converts (s : Settings) (source latex : String) : Prop :=
  if s.mixed then ∃ log, Prose.document (proseMode s.mode) source = .ok ⟨latex, log⟩
  else Typesetting.Typesets ⟨s.mode, s.verbose⟩ source latex

theorem converts_of_typeset {source : String} {events : List Event}
    (h : c.typeset source = .ok ⟨some latex, events⟩) : Converts c.settings source latex := by
  unfold Converts
  split
  · next hmixed =>
      simp only [typeset, hmixed, if_true] at h
      obtain ⟨logged, hdocument, h⟩ := bind_eq_ok_iff.mp h
      cases h
      exact ⟨logged.log, hdocument⟩
  · next hmixed =>
      simp only [typeset, if_neg hmixed] at h
      obtain ⟨outcome, hrun, h⟩ := bind_eq_ok_iff.mp h
      cases hresult : outcome.value.result with
      | ok latex' =>
          simp only [hresult, pure, Except.pure, Except.ok.injEq, Typeset.mk.injEq,
            Option.some.injEq] at h
          obtain ⟨rfl, -⟩ := h
          exact ⟨outcome, hrun, hresult⟩
      | error report =>
          simp only [hresult, pure, Except.pure, Except.ok.injEq, Typeset.mk.injEq, reduceCtorEq,
            false_and] at h

/-- The content of a file, read as UTF-8 and with line feeds for all its line ends, has this
LaTeX. -/
def ConvertsBytes (s : Settings) (content : ByteArray) (latex : String) : Prop :=
  ∃ raw, String.fromUTF8? content = some raw ∧
    Converts s (String.ofList (Text.unifyLineEnds raw.toList)) latex

theorem converts_of_judge (h : (c.judge threshold content).1 = .ok (some latex)) :
    ConvertsBytes c.settings content latex := by
  unfold judge at h
  cases hsource : Text.ofBytes? content with
  | none =>
      simp only [hsource] at h
      cases h
  | some source =>
      obtain ⟨raw, hraw, rfl⟩ := Option.map_eq_some_iff.mp hsource
      refine ⟨raw, hraw, ?_⟩
      rw [hsource] at h
      cases htypeset : c.typeset (String.ofList (Text.unifyLineEnds raw.toList)) with
      | error e =>
          simp only [htypeset] at h
          cases h
      | ok t =>
          obtain ⟨result, events⟩ := t
          simp only [htypeset] at h
          split at h
          · cases h
          · cases h
            exact converts_of_typeset htypeset

/-! ## The end of a conversion -/

theorem refused_eq (d : Disk) (f : DiskFailure) (e : Event) :
    (refused d f e).written ≠ .ok true ∧ (refused d f e).disk = d := by
  unfold refused
  split
  · exact ⟨by simp, rfl⟩
  · exact ⟨by simp, rfl⟩

theorem write_of_refused {f : DiskFailure} (h : (d.publish c.output latex.toUTF8).2 = some f) :
    (c.write d latex).written ≠ .ok true := by
  unfold write
  split
  · next hpublish =>
      rw [hpublish] at h
      cases h
  · exact (refused_eq _ _ _).1

/-- The message about an output can be shown, whatever the paths are. -/
theorem fault?_succeeded (c : Conversion) : c.succeeded.fault? = none := by
  have hbefore : '[' ∉ ("✅ " ++ "Translated ").toList := by decide
  have hbackslash : '\\' ∉ ("✅ " ++ "Translated ").toList := by decide
  have hbetween : '[' ∉ " -> ".toList := by decide
  have hbackslash' : '\\' ∉ " -> ".toList := by decide
  have hpaths := Text.fault?_paths hbefore hbackslash hbetween hbackslash' c.input.text
    c.output.text
  show Text.Markup.fault? ("✅ " ++ ("Translated " ++ shownPath c.input ++ " -> " ++
    shownPath c.output)) = none
  rw [← String.append_assoc, ← String.append_assoc, ← String.append_assoc]
  exact hpaths

/-- A conversion does everything or nothing.  If it says that it wrote, then its output holds the
LaTeX of what its input held, no other file is changed, and what it says can be shown.  If it ends
in any other way, there was nothing to be written or the disk refused it, and no file is changed. -/
theorem run_all_or_nothing (threshold : Int) (c : Conversion) (d : Disk) :
    ((c.run threshold d).written = .ok true ∧ c.succeeded.fault? = none ∧
      ∃ (content : ByteArray) (latex : String), d.read c.input = .ok content ∧
        ConvertsBytes c.settings content latex ∧
        Disk.WritesOnly c.output latex.toUTF8 d (c.run threshold d).disk) ∨
    ((c.run threshold d).written ≠ .ok true ∧
      (∀ content latex, d.read c.input = .ok content → c.result? threshold content = some latex →
        (d.publish c.output latex.toUTF8).2 ≠ none) ∧
      ∀ l, (c.run threshold d).disk.regular? l = d.regular? l) := by
  unfold run
  cases hread : d.read c.input with
  | error f =>
      obtain ⟨hwritten, hdisk⟩ := refused_eq d f (c.unreadable f)
      refine .inr ⟨hwritten, by simp, fun l => ?_⟩
      rw [hdisk]
  | ok content =>
      -- a verdict without LaTeX leaves the disk alone
      have hnone : c.result? threshold content = none →
          ∀ content' latex, .ok content = (.ok content' : Except DiskFailure ByteArray) →
            c.result? threshold content' = some latex →
            (d.publish c.output latex.toUTF8).2 ≠ none := by
        rintro hresult content' latex hcontent hlatex
        cases hcontent
        rw [hresult] at hlatex
        cases hlatex
      simp only
      rw [convert_eq]
      rcases hjudge : c.judge threshold content with ⟨e | _ | latex, events⟩
      · exact .inr ⟨by simp, hnone (by rw [result?, hjudge]), fun _ => rfl⟩
      · exact .inr ⟨by simp, hnone (by rw [result?, hjudge]), fun _ => rfl⟩
      · have hresult : c.result? threshold content = some latex := by rw [result?, hjudge]
        have hconverts : ConvertsBytes c.settings content latex :=
          converts_of_judge (congrArg Prod.fst hjudge)
        simp only [write_disk]
        rcases Disk.regular?_publish d c.output latex.toUTF8 with
          ⟨hpublish, honly⟩ | ⟨⟨f, hpublish⟩, hsame⟩
        · exact .inl ⟨(write_of_publish hpublish).1, fault?_succeeded c, content, latex, rfl,
            hconverts, honly⟩
        · refine .inr ⟨write_of_refused hpublish, ?_, hsame⟩
          rintro content' latex' hcontent hlatex
          cases hcontent
          rw [hresult] at hlatex
          cases hlatex
          rw [hpublish]
          exact Option.some_ne_none f

end Conversion

end PlainMath
