/-
# `Proofs.Messages` — what is logged while typesetting can be shown

Messages quote the source, and they are read as markup.  The messages of typesetting quote tokens
only, and a bracket is a token by itself, so that a quote follows it (`Token.harmless`); whatever
the source is, they can be shown (`Typesetting.exists_run`).  In prose a fragment that has no LaTeX
is quoted as a whole, in a message that is shown to those who debug only (`Prose.exists_document`).
-/
import PlainMath.Proofs.Reports
import PlainMath.Proofs.Suggestion
import PlainMath.Proofs.Text.Markup
import PlainMath.Prose

namespace PlainMath

open Text

theorem harmless_literal (s : String) (h : '[' ∉ s.toList) : Harmless s.toList :=
  harmless_of_not_mem h

theorem harmless_append {s t : String} (hs : Harmless s.toList) (ht : Harmless t.toList) :
    Harmless (s ++ t).toList := by
  rw [String.toList_append]
  exact hs.append ht

/-- A bracket between quotes. -/
theorem harmless_bracket : Harmless (Fault.inQuotes "[").toList := by
  show Harmless ['\'', '[', '\'']
  simp only [harmless_cons]
  exact ⟨by decide, by decide, by decide, harmless_of_not_mem List.not_mem_nil⟩

theorem harmless_toString (n : Int) : Harmless (toString n).toList :=
  harmless_of_not_mem (not_mem_toString (by decide) (by decide) n)

/-! ## Tokens -/

namespace Token

/-- A bracket stands in a token by itself. -/
theorem MadeOf.bracket {t : Token} {c : Char} {cs : List Char}
    (h : t.MadeOf (Lexeme.first c cs)) : t.text.toList = ['['] ∨ '[' ∉ t.text.toList := by
  obtain ⟨hkind, htext, -⟩ := h
  rw [htext]
  cases hform : (Lexeme.first c cs).form with
  | comment | blanks => simp [Lexeme.kind?, hform] at hkind
  | newline | dollar =>
      obtain ⟨rfl, hlength⟩ := Lexeme.says_of_form hform
      exact .inr (by simp [Lexeme.first, hlength])
  | fraction | doubleDollar =>
      obtain ⟨⟨rfl, hcs⟩, hlength⟩ := Lexeme.says_of_form hform
      obtain ⟨rest, rfl⟩ := List.head?_eq_some_iff.mp hcs
      exact .inr (by simp [Lexeme.first, hlength])
  | number =>
      obtain ⟨d, hd⟩ := spells_of_form hform
      exact .inr fun hmem => absurd (hd.chars '[' hmem) (by decide)
  | word =>
      obtain ⟨d, rest, hchars, hd, hrest⟩ := isWord_iff.mp (isWord_of_form hform)
      rw [hchars]
      refine .inr fun hmem => ?_
      rcases List.mem_cons.mp hmem with rfl | hmem
      · exact absurd hd (by decide)
      · exact absurd (hrest '[' hmem) (by decide)
  | symbol | other =>
      obtain ⟨-, hlength⟩ := Lexeme.says_of_form hform
      by_cases hc : c = '['
      · exact .inl (by simpa [Lexeme.first, hlength] using hc)
      · exact .inr (by simpa [Lexeme.first, hlength] using Ne.symm hc)

/-- A token can be quoted. -/
theorem harmless {source : String} {t : Token} (ht : t ∈ Token.ofSource source) :
    Harmless (Fault.inQuotes t.text).toList := by
  have htext : t.text.toList = ['['] ∨ '[' ∉ t.text.toList := by
    rcases List.mem_append.mp ht with hbody | hlast
    · obtain ⟨c, cs, h⟩ := exists_lexeme_of_mem_place source.toList .start hbody
      exact h.bracket
    · obtain rfl := List.mem_singleton.mp hlast
      exact .inr List.not_mem_nil
  rcases htext with htext | htext
  · rw [show t.text = "[" from String.toList_inj.mp htext]
    exact harmless_bracket
  · exact harmless_of_not_mem (by simp [Fault.inQuotes, htext])

end Token

/-! ## Faults -/

section Faults
variable {P : Token → Prop} (hP : ∀ t, P t → Harmless (Fault.inQuotes t.text).toList)
include hP

theorem Token.harmless_describe {t : Token} (ht : P t) : Harmless t.describe.toList := by
  unfold Token.describe
  split
  · exact harmless_of_not_mem (by simp)
  · exact harmless_of_not_mem (by simp)
  · exact hP t ht

theorem Fault.Blames.harmless_expectation {what : Expectation} {t : Token}
    (h : (Fault.missing what t).Blames P) : Harmless what.message.toList := by
  cases what with
  | groupEnd | inlineEnd | displayEnd => exact harmless_of_not_mem (by decide)
  | argumentsEnd name =>
      obtain ⟨-, f, hf, rfl⟩ := h
      have hquoted := hP f hf.1
      rw [Fault.inQuotes, String.append_assoc, String.toList_append] at hquoted
      have hfront : Harmless "Expected ')' after arguments of '".toList :=
        harmless_of_not_mem (by simp)
      show Harmless ("Expected ')' after arguments of '" ++ f.text ++ "'").toList
      rw [String.append_assoc]
      exact harmless_append hfront hquoted.of_append
  | stated message => exact h.2.elim

theorem Fault.Blames.harmless_message {fault : Fault} (h : fault.Blames P) :
    Harmless fault.diagnostic.message.toList := by
  cases fault with
  | unmatched b t =>
      simp only [Fault.diagnostic, Diagnostic.onToken]
      cases b <;> exact harmless_literal _ (by simp [inQuotes, Bracket.noun, Bracket.closeChar])
  | unclosed b t =>
      have hnoun : '[' ∉ b.noun.toList := by cases b <;> simp [Bracket.noun]
      have hopen : Harmless (inQuotes (String.singleton b.openChar)).toList := by
        cases b with
        | square => exact harmless_bracket
        | paren | brace => exact harmless_literal _ (by simp [inQuotes, Bracket.openChar])
      have hclose : '[' ∉ (inQuotes (String.singleton b.closeChar)).toList := by
        cases b <;> simp [inQuotes, Bracket.closeChar]
      have hfront := harmless_append (harmless_literal "Unclosed " (by simp))
        (harmless_literal _ hnoun)
      have hbracket := harmless_append
        (harmless_append hfront (harmless_literal " " (by simp))) hopen
      exact harmless_append (harmless_append hbracket (harmless_literal _ (by simp)))
        (harmless_literal _ hclose)
  | unexpected t =>
      have hdescribe := Token.harmless_describe hP h
      simp only [Fault.diagnostic]
      split
      · exact harmless_append (harmless_append (harmless_literal _ (by simp)) hdescribe)
          (harmless_literal _ (by simp))
      · exact harmless_append (harmless_append (harmless_literal _ (by simp)) hdescribe)
          (harmless_literal _ (by simp))
      all_goals exact harmless_append (harmless_literal _ (by simp)) hdescribe
  | noArguments t => exact harmless_append (harmless_literal _ (by simp)) (hP t h.1)
  | missing what t =>
      have hdescribe := Token.harmless_describe hP h.1
      exact harmless_append
        (harmless_append (h.harmless_expectation hP) (harmless_literal _ (by simp))) hdescribe
  | arity t accepted count =>
      have hdescribe : '[' ∉ accepted.describe.toList :=
        accepted.not_mem_describe (by decide) (by decide) (by decide)
      have hname := harmless_append (harmless_literal "Function " (by simp)) (hP t h.1)
      have hexpects := harmless_append hname (harmless_literal " expects " (by simp))
      have hcounts := harmless_append hexpects (harmless_literal _ hdescribe)
      have hgot := harmless_append hcounts (harmless_literal ", but got " (by simp))
      exact harmless_append hgot (harmless_toString count)

end Faults

/-! ## Hints -/

namespace Suggestion

theorem bracket_not_mem_question {proposals : List String} {question : String}
    (hproposals : ∀ p ∈ proposals, '[' ∉ p.toList) (h : question? proposals = some question) :
    '[' ∉ question.toList := by
  unfold question? at h
  split at h
  · cases h
  · cases h
    have hlist : '[' ∉ (", ".intercalate
        ((proposals.take 3).map fun p => "'" ++ p ++ "'")).toList := by
      refine Text.not_mem_intercalate (by simp) fun s hs => ?_
      obtain ⟨p, hp, rfl⟩ := List.mem_map.mp hs
      simp [hproposals p (List.mem_of_mem_take hp)]
    simp only [String.toList_append, List.mem_append, not_or]
    exact ⟨⟨by simp, hlist⟩, by simp⟩

/-- Hints name keywords only. -/
theorem bracket_not_mem_hint {name hint : String} (h : hint? name = some hint) :
    '[' ∉ hint.toList := by
  have hwords : ∀ w ∈ Keyword.words, '[' ∉ w.toList := by decide
  rw [hint?_eq_question?] at h
  exact bracket_not_mem_question (fun p hp => hwords p (mem_words_of_mem_hinted hp)) h

end Suggestion

/-! ## Typesetting -/

namespace Typesetting

theorem harmless_misspelling {word next : Token} {entry : LogEntry}
    (hword : Harmless (Fault.inQuotes word.text).toList)
    (h : misspelling? word next = some entry) : Harmless entry.message.toList := by
  unfold misspelling? at h
  split at h
  · obtain ⟨hint, hhint, rfl⟩ := Option.map_eq_some_iff.mp h
    have hquoted : "'" ++ word.text ++ "' at line " = Fault.inQuotes word.text ++ " at line " := by
      rw [show "' at line " = "'" ++ " at line " from rfl, ← String.append_assoc]
      rfl
    have hbracket := Suggestion.bracket_not_mem_hint hhint
    show Harmless ("'" ++ word.text ++ "' at line " ++ toString word.position.line ++
      ", column " ++ toString word.position.column ++ " is not a known function. " ++ hint).toList
    rw [hquoted]
    have hline := harmless_append hword (harmless_literal " at line " (by simp))
    have hnumber := harmless_append hline (harmless_toString word.position.line)
    have hcolumn := harmless_append hnumber
      (harmless_literal ", column " (by simp))
    have hplace := harmless_append hcolumn (harmless_toString word.position.column)
    have hunknown := harmless_append hplace
      (harmless_literal " is not a known function. " (by simp))
    exact harmless_append hunknown (harmless_of_not_mem hbracket)
  · cases h

theorem harmless_misspellings {ts : List Token}
    (h : ∀ t ∈ ts, Harmless (Fault.inQuotes t.text).toList) :
    ∀ e ∈ misspellings ts, Harmless e.message.toList := by
  fun_induction misspellings ts with
  | case1 t u rest ih =>
      intro e he
      rw [List.forall_mem_cons] at h
      rcases List.mem_append.mp he with he | he
      · exact harmless_misspelling h.1 (Option.mem_toList.mp he)
      · exact ih h.2 e he
  | case2 ts hts => exact fun e he => absurd he List.not_mem_nil

theorem harmless_parsedEntry (document : Node) :
    Harmless (parsedEntry document).message.toList := by
  have hcount : Harmless (toString (expressionCount document)).toList :=
    harmless_toString (Int.ofNat (expressionCount document))
  have hfront := harmless_append (harmless_literal "Parsed " (by simp)) hcount
  exact harmless_append hfront (harmless_of_not_mem (by simp))

theorem harmless_failedEntry {d : Diagnostic} (h : Harmless d.message.toList) :
    Harmless (failedEntry d).message.toList := by
  have hline := harmless_append h (harmless_literal " (line " (by simp))
  have hnumber := harmless_append hline (harmless_toString d.position.line)
  have hcolumn := harmless_append hnumber (harmless_literal ", column " (by simp))
  have hplace := harmless_append hcolumn (harmless_toString d.position.column)
  have htext := harmless_append hplace (harmless_literal ")" (by simp))
  exact harmless_append (harmless_literal "Translation failed: " (by simp)) htext

/-- Typesetting comes to an end, and its messages can be shown. -/
theorem exists_run (options : Options) (source : String) :
    ∃ logged, run options source = .ok logged ∧
      ∀ e ∈ logged.log, Harmless e.message.toList := by
  have hwarnings : ∀ e ∈ misspellings (Stream.ofSource source).tokens,
      Harmless e.message.toList := harmless_misspellings fun t => Token.harmless
  cases h : Parser.parse (.ofSource source) with
  | error fault =>
      obtain ⟨hline, hcolumn⟩ := one_le_position_located h
      have hfault := (Parser.parse_blames h).harmless_message fun t => Token.harmless
      simp only [run, h, Report.ofDiagnostic_eq hline hcolumn]
      refine ⟨_, rfl, List.forall_mem_append.mpr ⟨hwarnings, ?_⟩⟩
      exact List.forall_mem_singleton.mpr (harmless_failedEntry hfault)
  | ok document =>
      obtain ⟨tex, htex⟩ := Parser.hasLatex_of_parse h options.mode
      simp only [run, h, htex]
      refine ⟨_, rfl, List.forall_mem_append.mpr ⟨hwarnings, ?_⟩⟩
      exact List.forall_mem_singleton.mpr (harmless_parsedEntry document)

end Typesetting

/-! ## Prose -/

namespace Prose

/-- Messages of prose can be shown, those for debugging apart. -/
def Shows (log : List LogEntry) : Prop :=
  ∀ e ∈ log, e.severity = .debug ∨ Harmless e.message.toList

theorem exists_replace (mode : Mode) (fragment : String) :
    ∃ logged, replace mode fragment = .ok logged ∧ Shows logged.log := by
  obtain ⟨logged, hrun, hlog⟩ := Typesetting.exists_run {} fragment
  cases hresult : logged.value.result with
  | ok latex =>
      refine ⟨⟨mode.wrap latex, logged.log⟩, ?_, fun e he => .inr (hlog e he)⟩
      simp [replace, hrun, hresult, bind, Except.bind, pure, Except.pure]
  | error report =>
      refine ⟨⟨fragment, logged.log ++ [keptEntry fragment report]⟩, ?_, ?_⟩
      · simp [replace, hrun, hresult, bind, Except.bind, pure, Except.pure]
      · intro e he
        rcases List.mem_append.mp he with he | he
        · exact .inr (hlog e he)
        · obtain rfl := List.mem_singleton.mp he
          exact .inl rfl

theorem exists_replaceAll (mode : Mode) : ∀ segments : List Segment,
    ∃ logged, replaceAll mode segments = .ok logged ∧ Shows logged.log
  | [] => ⟨_, rfl, fun e he => absurd he List.not_mem_nil⟩
  | .prose c :: rest => by
      obtain ⟨after, hafter, hlog⟩ := exists_replaceAll mode rest
      refine ⟨⟨String.singleton c ++ after.value, after.log⟩, ?_, hlog⟩
      simp [replaceAll, hafter, bind, Except.bind, pure, Except.pure]
  | .fragment cs :: rest => by
      obtain ⟨here, hhere, hlogHere⟩ := exists_replace mode (String.ofList cs)
      obtain ⟨after, hafter, hlog⟩ := exists_replaceAll mode rest
      refine ⟨⟨here.value ++ after.value, here.log ++ after.log⟩, ?_,
        List.forall_mem_append.mpr ⟨hlogHere, hlog⟩⟩
      simp [replaceAll, hhere, hafter, bind, Except.bind, pure, Except.pure]

theorem exists_lines (mode : Mode) : ∀ ls : List String,
    ∃ logged, lines mode ls = .ok logged ∧ Shows logged.log
  | [] => ⟨_, rfl, fun e he => absurd he List.not_mem_nil⟩
  | l :: rest => by
      have hline : ∃ logged, line mode l = .ok logged ∧ Shows logged.log := by
        unfold line
        split
        · exact ⟨_, rfl, fun e he => absurd he List.not_mem_nil⟩
        · exact exists_replaceAll mode _
      obtain ⟨here, hhere, hlogHere⟩ := hline
      obtain ⟨after, hafter, hlog⟩ := exists_lines mode rest
      refine ⟨⟨here.value :: after.value, here.log ++ after.log⟩, ?_,
        List.forall_mem_append.mpr ⟨hlogHere, hlog⟩⟩
      simp [lines, hhere, hafter, bind, Except.bind, pure, Except.pure]

/-- Every text is converted, and what is said to everybody can be shown. -/
theorem exists_document (mode : Mode) (content : String) :
    ∃ logged, document mode content = .ok logged ∧ Shows logged.log := by
  obtain ⟨ls, hls, hlog⟩ := exists_lines mode (Text.lines content)
  refine ⟨⟨Text.unlines ls.value, ls.log⟩, ?_, hlog⟩
  simp [document, hls, bind, Except.bind, pure, Except.pure]

end Prose

end PlainMath
