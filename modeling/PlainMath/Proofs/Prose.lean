/-
# `Proofs.Prose` — prose is converted line by line

Lines are converted one by one and put together again.  That cutting the result at its line ends
gives back the converted lines depends on each of them being one line still, and so on the
fragments: a fragment goes through the whole work of typesetting, and what comes out must hold no
line end.

    without delimiters, no LaTeX holds a line end        (`Typesetting.newline_not_mem`)
    the segments of a line are the line                  (`flatMap_chars_segments`)
    a converted line is one line                         (`newline_not_mem_line`)
-/
import PlainMath.Proofs.Composition
import PlainMath.Proofs.Messages
import PlainMath.Proofs.Regions

namespace PlainMath

/-! ## LaTeX without line ends -/

theorem Func.newline_not_mem_environment {f : Func} {name : String}
    (h : f.form = .environment name) : '\n' ∉ name.toList := by
  cases f <;> cases h <;> decide

namespace Node

theorem newline_not_mem_templates : ∀ t ∈ templates, '\n' ∉ (t.fill []).toList := by
  decide

theorem isLeafChar_newline : isLeafChar '\n' = false := by decide

/-- The LaTeX of a proper tree holds no line end. -/
theorem Proper.newline_not_mem {mode : Mode} {n : Node} (hn : n.Proper) {s : String}
    (h : n.latex mode = .ok s) : '\n' ∉ s.toList := by
  have hall : ∀ {ns : List Node} {parts : List String},
      List.Forall₂ (fun _ s => '\n' ∉ s.toList) ns parts → ∀ s ∈ parts, '\n' ∉ s.toList := by
    intro ns parts h s hs
    obtain ⟨-, -, hnewline⟩ := exists_of_mem_forall₂ h hs
    exact hnewline
  refine hn.latex_induction (P := fun _ s => '\n' ∉ s.toList) ?_ ?_ ?_ ?_ h
  · intro n s hleaf hmem
    have hchar := hleaf.chars '\n' hmem
    rw [isLeafChar_newline] at hchar
    cases hchar
  · intro c hc hmem
    obtain rfl : '\n' = c := by simpa using hmem
    exact absurd hc (by decide)
  · intro n t parts ht hparts hmem
    exact newline_not_mem_templates t (template?_mem ht) (Template.mem_fill (hall hparts) hmem)
  · intro f word name args parts hform hparts
    have hname := Func.newline_not_mem_environment hform
    have hrows : '\n' ∉ (" \\\\ ".intercalate parts).toList :=
      Text.not_mem_intercalate (by decide) (hall hparts)
    rw [Func.environmentLatex_eq]
    generalize " \\\\ ".intercalate parts = rows at hrows
    simp [hname, hrows]

/-- Without delimiters nothing is put between the parts of a document. -/
theorem newline_not_mem_assemble : ∀ {wrapped : Bool} {parts : List (Bool × String)},
    (∀ p ∈ parts, '\n' ∉ p.2.toList) → '\n' ∉ (assemble .plain wrapped parts).toList
  | _, [], _ => by simp [assemble]
  | wrapped, (verbatim, s) :: parts, h => by
      obtain ⟨hs, hparts⟩ := List.forall_mem_cons.mp h
      have hrest : ∀ wrapped, '\n' ∉ (assemble .plain wrapped parts).toList :=
        fun _ => newline_not_mem_assemble hparts
      cases verbatim with
      | true => simp [assemble, hs, hrest]
      | false => simp [assemble, Mode.wrap, hs, hrest]

end Node

namespace Typesetting

/-- What is typeset without delimiters holds no line end, however many lines the source has. -/
theorem newline_not_mem {options : Options} {source latex : String}
    (hmode : options.mode = .plain) (h : Typesets options source latex) :
    '\n' ∉ latex.toList := by
  obtain ⟨parts, hparts, rfl⟩ := exists_parts h
  rw [hmode]
  refine Node.newline_not_mem_assemble fun p hp => ?_
  obtain ⟨n, -, hn, hs⟩ := exists_of_mem_forall₂ hparts (List.of_mem_zip hp).2
  exact hn.newline_not_mem hs

end Typesetting

namespace Prose

/-! ## The segments of a line -/

/-- The characters of a segment. -/
def Segment.chars : Segment → List Char
  | .prose c => [c]
  | .fragment cs => cs

theorem flatMap_chars_cut : ∀ (before : Option Char) (skip : Nat) (cs : List Char),
    (cut before skip cs).flatMap Segment.chars = cs.drop skip
  | _, skip, [] => by simp [cut]
  | before, skip + 1, c :: cs => by
      rw [cut, flatMap_chars_cut, List.drop_succ_cons]
  | before, 0, c :: cs => by
      rw [cut]
      split
      · next n _ =>
          rw [List.flatMap_cons, flatMap_chars_cut, Segment.chars, List.cons_append,
            List.take_append_drop, List.drop_zero]
      · rw [List.flatMap_cons, flatMap_chars_cut, Segment.chars, List.drop_zero,
          List.singleton_append, List.drop_zero]

/-- The segments of a line put together are the line. -/
theorem flatMap_chars_segments (cs : List Char) :
    (segments cs).flatMap Segment.chars = cs := flatMap_chars_cut none 0 cs

/-! ## One line -/

variable {mode : Mode}

theorem newline_not_mem_wrap (mode : Mode) {s : String} (h : '\n' ∉ s.toList) :
    '\n' ∉ (mode.wrap s).toList := by
  cases mode <;> simp [Mode.wrap, h]

theorem newline_not_mem_replace {fragment : String} {logged : Logged String}
    (hfragment : '\n' ∉ fragment.toList) (h : replace mode fragment = .ok logged) :
    '\n' ∉ logged.value.toList := by
  obtain ⟨outcome, hrun, h⟩ := bind_eq_ok_iff.mp h
  cases hresult : outcome.value.result with
  | ok latex =>
      simp only [hresult, pure, Except.pure, Except.ok.injEq] at h
      subst h
      exact newline_not_mem_wrap mode (Typesetting.newline_not_mem rfl ⟨outcome, hrun, hresult⟩)
  | error report =>
      simp only [hresult, pure, Except.pure, Except.ok.injEq] at h
      subst h
      exact hfragment

theorem newline_not_mem_replaceAll : ∀ {segments : List Segment} {logged : Logged String},
    '\n' ∉ segments.flatMap Segment.chars → replaceAll mode segments = .ok logged →
    '\n' ∉ logged.value.toList
  | [], logged, _, h => by
      cases h
      simp
  | .prose c :: rest, logged, hchars, h => by
      rw [List.flatMap_cons, List.mem_append, not_or] at hchars
      obtain ⟨after, hafter, h⟩ := bind_eq_ok_iff.mp h
      cases h
      have hrest := newline_not_mem_replaceAll hchars.2 hafter
      have hc : '\n' ≠ c := fun hc => hchars.1 (hc ▸ List.mem_singleton_self c)
      simp [hrest, hc]
  | .fragment cs :: rest, logged, hchars, h => by
      rw [List.flatMap_cons, List.mem_append, not_or] at hchars
      obtain ⟨here, hhere, h⟩ := bind_eq_ok_iff.mp h
      obtain ⟨after, hafter, h⟩ := bind_eq_ok_iff.mp h
      cases h
      have hrest := newline_not_mem_replaceAll hchars.2 hafter
      have hfirst := newline_not_mem_replace (by simpa [Segment.chars] using hchars.1) hhere
      simp [hrest, hfirst]

/-- A line is one line after it was converted. -/
theorem newline_not_mem_line {l : String} {logged : Logged String} (hl : '\n' ∉ l.toList)
    (h : line mode l = .ok logged) : '\n' ∉ logged.value.toList := by
  unfold line at h
  split at h
  · cases h
    exact hl
  · refine newline_not_mem_replaceAll ?_ h
    rwa [flatMap_chars_segments]

/-! ## All lines -/

/-- The line is converted to this text. -/
def Becomes (mode : Mode) (l l' : String) : Prop := ∃ log, line mode l = .ok ⟨l', log⟩

theorem becomes_of_lines : ∀ {ls : List String} {logged : Logged (List String)},
    lines mode ls = .ok logged → List.Forall₂ (Becomes mode) ls logged.value
  | [], logged, h => by
      cases h
      exact .nil
  | l :: rest, logged, h => by
      obtain ⟨here, hhere, h⟩ := bind_eq_ok_iff.mp h
      obtain ⟨after, hafter, h⟩ := bind_eq_ok_iff.mp h
      cases h
      exact .cons ⟨here.log, hhere⟩ (becomes_of_lines hafter)

theorem isUntouched_iff {l : String} : isUntouched l = true ↔
    Text.strip l.toList = [] ∨ (Text.strip l.toList).head? = some '#' := by
  unfold isUntouched
  cases Text.strip l.toList with
  | nil => simp
  | cons c cs => simp

/-- Prose is converted line by line: the lines of the result are the lines of the text, each
converted by itself, so there are as many line ends as before, and a line that is blank or a
heading stays where it is as it is. -/
theorem document_line_by_line (mode : Mode) (content : String) :
    ∃ logged, document mode content = .ok logged ∧
      List.Forall₂ (Becomes mode) (Text.lines content) (Text.lines logged.value) ∧
      logged.value.toList.count '\n' = content.toList.count '\n' ∧
      ∀ (i : Nat) (l : String), (Text.lines content)[i]? = some l →
        Text.strip l.toList = [] ∨ (Text.strip l.toList).head? = some '#' →
        (Text.lines logged.value)[i]? = some l := by
  obtain ⟨ls, hls, -⟩ := exists_lines mode (Text.lines content)
  have hbecomes := becomes_of_lines hls
  have hlines : Text.lines (Text.unlines ls.value) = ls.value := by
    refine Text.lines_intercalate (fun hnil => ?_) fun l' hl' => ?_
    · have hlength := hbecomes.length_eq
      rw [hnil, Text.length_lines] at hlength
      cases hlength
    · obtain ⟨l, hl, log, hline⟩ := exists_of_mem_forall₂ hbecomes hl'
      exact newline_not_mem_line (Text.newline_not_mem_of_mem_lines hl) hline
  refine ⟨⟨Text.unlines ls.value, ls.log⟩, ?_, ?_, ?_, ?_⟩
  · rw [document, hls]
    rfl
  · rwa [hlines]
  · have hlength := hbecomes.length_eq
    rw [← hlines, Text.length_lines, Text.length_lines] at hlength
    exact (Nat.succ.inj hlength).symm
  · intro i l hl huntouched
    rw [hlines]
    obtain ⟨hi, rfl⟩ := List.getElem?_eq_some_iff.mp hl
    obtain ⟨log, hline⟩ := hbecomes.get hi (hbecomes.length_eq ▸ hi)
    rw [List.get_eq_getElem, line, if_pos (isUntouched_iff.mpr huntouched)] at hline
    exact List.getElem?_eq_some_iff.mpr ⟨_, (congrArg Logged.value (Except.ok.inj hline)).symm⟩

end Prose

end PlainMath
