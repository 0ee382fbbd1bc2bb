/-
# `Proofs.Typesetting` — typesetting never breaks down

Three things could go wrong inside the program: a tree has no LaTeX, a report is refused
because of its position, or the two ways to ask for LaTeX disagree.  None of them happens.

    a document that is read was spelt by the grammar, so it has LaTeX   (`hasLatex_of_parse`)
    a fault is on a token of the source, so its report is good          (`one_le_position_located`)
    both ways give the same LaTeX, or the same facts about the fault    (`typesetting_total`)
-/
import PlainMath.Proofs.Parser.Move
import PlainMath.Proofs.Rendering
import PlainMath.Proofs.Tokens
import PlainMath.Typesetting

namespace PlainMath

/-! ## Reports -/

theorem Fault.diagnostic_position (fault : Fault) :
    fault.diagnostic.position = fault.token.position := by
  cases fault with
  | unexpected t =>
      simp only [Fault.diagnostic]
      split <;> rfl
  | _ => rfl

/-- The diagnostic of a moved fault is at the moved place, and otherwise the same. -/
theorem Fault.diagnostic_move (g : Position → Position) (fault : Fault) :
    (fault.move g).diagnostic =
      { fault.diagnostic with position := g fault.diagnostic.position } := by
  cases fault with
  | unexpected t =>
      simp only [Fault.move, Fault.diagnostic, Token.move_kind]
      split <;> rfl
  | _ => rfl

/-- The facts of a diagnostic as a report has them. -/
def Diagnostic.facts (d : Diagnostic) : Report :=
  ⟨d.category.name, d.message, d.position, d.sourceLine, d.suggestion⟩

theorem Report.ofDiagnostic_eq {d : Diagnostic} (hline : 1 ≤ d.position.line)
    (hcolumn : 1 ≤ d.position.column) : Report.ofDiagnostic d = .ok d.facts := by
  simp [Report.ofDiagnostic, Report.ofDraft, Report.Draft.issues, Report.textIssues,
    Report.countIssues, Diagnostic.facts, Int.not_lt.mpr hline, Int.not_lt.mpr hcolumn]

namespace Typesetting

theorem one_le_position_located {source : String} {fault : Fault}
    (h : Parser.parse (.ofSource source) = .error fault) :
    1 ≤ (located source fault).position.line ∧ 1 ≤ (located source fault).position.column := by
  obtain ⟨t, ht, hposition⟩ := List.mem_map.mp (Parser.position_mem_of_parse_error h)
  have hlocated : (located source fault).position = t.position := by
    rw [hposition]
    exact fault.diagnostic_position
  rw [hlocated]
  exact Token.one_le_position ht

end Typesetting

/-! ## Trees -/

namespace Parser

/-- A document that is read has LaTeX, whatever stands behind it. -/
theorem hasLatex_of_parse {s : Stream} {n : Node} (h : parse s = .ok n) (mode : Mode) :
    n.HasLatex mode := by
  obtain ⟨w, ns, rest, -, -, rfl, hdoc⟩ := document_of_run (run_of_parse h)
  exact hdoc.hasLatex

end Parser

/-! ## The whole -/

namespace Typesetting

/-- Whatever the tokens are, a document that is read can be typeset in every mode.  So every
source gives LaTeX or a report: the same LaTeX, or the same facts, that are given without a
report. -/
theorem typesetting_total :
    (∀ s : Stream, (∃ fault, Parser.parse s = .error fault) ∨
      ∃ n, Parser.parse s = .ok n ∧ ∀ mode, ∃ tex, n.latex mode = .ok tex) ∧
    ∀ (options : Options) (source : String), ∃ logged, run options source = .ok logged ∧
      ((∃ tex, logged.value.result = .ok tex ∧ latex options.mode source = .ok tex) ∨
        ∃ report d, logged.value.result = .error report ∧ 1 ≤ report.position.line ∧
          1 ≤ report.position.column ∧ latex options.mode source = .error (.diagnostic d) ∧
          report.kind = d.category.name ∧ report.message = d.message ∧
          report.position = d.position ∧ report.sourceLine = d.sourceLine ∧
          report.suggestion = d.suggestion) := by
  constructor
  · intro s
    cases h : Parser.parse s with
    | error fault => exact .inl ⟨fault, rfl⟩
    | ok n => exact .inr ⟨n, rfl, Parser.hasLatex_of_parse h⟩
  · intro options source
    cases h : Parser.parse (.ofSource source) with
    | error fault =>
        obtain ⟨hline, hcolumn⟩ := one_le_position_located h
        have hreport := Report.ofDiagnostic_eq hline hcolumn
        simp only [run, latex, h, hreport]
        exact ⟨_, rfl, .inr ⟨_, _, rfl, hline, hcolumn, rfl, rfl, rfl, rfl, rfl, rfl⟩⟩
    | ok n =>
        obtain ⟨tex, htex⟩ := Parser.hasLatex_of_parse h options.mode
        simp only [run, latex, h, htex]
        exact ⟨_, rfl, .inl ⟨tex, rfl, rfl⟩⟩

end Typesetting

end PlainMath
