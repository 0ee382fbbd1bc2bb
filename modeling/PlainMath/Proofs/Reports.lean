/-
# `Proofs.Reports` — a report points at the token that is blamed

A report has a position, the line of the source with that number, and a caret under the column.
The tokens know their position from counting while the source is cut into lexemes; the line is
found afterwards by cutting the source at its line ends, and loses the carriage returns at its
end.  The two agree: no token but a line end holds a line end, and none a carriage return.

    a token stands somewhere in the source              (`Token.exists_stands`)
    and at its column in the line of its number         (`Token.Stands.exists_line`)
    nothing that a report says holds a line end         (`Fault.Blames.oneLine_message`)
    so the caret stands under the token that is blamed  (`report_pointsAt_token`)
-/
import PlainMath.Proofs.Parser.Blame
import PlainMath.Proofs.Spelling
import PlainMath.Proofs.Text.Lines
import PlainMath.Proofs.Typesetting

namespace PlainMath

/-! ## Where a token stands -/

namespace Token

/-- The token ends a line or the whole input: there is nothing to point at. -/
def IsEnd (t : Token) : Prop := t.kind = .newline ∨ t.kind = .eof

/-- The token stands in the characters `cs`, behind `front` and before `rest`. -/
structure Stands (cs : List Char) (t : Token) (front rest : List Char) : Prop where
  chars : cs = front ++ (t.text.toList ++ rest)
  position : t.position = positionBehind front
  eof : t.kind = .eof → t.text.toList = [] ∧ rest = []
  newline : t.kind = .newline → t.text.toList = ['\n']
  inLine : ¬t.IsEnd → t.text.toList ≠ [] ∧ '\n' ∉ t.text.toList

theorem Laid.exists_stands {before cs : List Char} {ss : List Span} (h : Laid before cs ss) :
    ∀ s ∈ ss, ∃ front rest, Stands (before ++ cs) s.token front rest := by
  induction h with
  | @last before gap hgap =>
      intro s hs
      obtain rfl := List.mem_singleton.mp hs
      refine ⟨before ++ gap, [], by simp, rfl, fun _ => ⟨rfl, rfl⟩, fun h => ?_, fun h => ?_⟩
      · cases h
      · exact absurd (.inr rfl) h
  | @token before gap rest t ss _ heof hposition htext hnewline _ ih =>
      intro s hs
      rcases List.mem_cons.mp hs with rfl | hs
      · refine ⟨before ++ gap, rest, by simp, hposition, fun h => absurd h heof, ?_, ?_⟩
        · intro hkind
          rcases hnewline with ⟨-, hchars⟩ | ⟨hne, -⟩
          · exact hchars
          · exact absurd hkind hne
        · intro hend
          rcases hnewline with ⟨hkind, -⟩ | ⟨-, hchars⟩
          · exact absurd (.inl hkind) hend
          · exact ⟨htext, hchars⟩
      · simpa [List.append_assoc] using ih s hs

theorem exists_stands {source : String} {t : Token} (ht : t ∈ Token.ofSource source) :
    ∃ front rest, Stands source.toList t front rest := by
  have htokens : Token.ofSource source = (spans source).map Span.token :=
    (map_token_spansFrom _ _ _).symm
  rw [htokens] at ht
  obtain ⟨span, hspan, rfl⟩ := List.mem_map.mp ht
  exact (laid_spans source).exists_stands span hspan

/-- The position behind whole lines and the front of the next one. -/
theorem positionBehind_inner {before inner : List Char}
    (hbefore : before = [] ∨ before.getLast? = some '\n') (hinner : '\n' ∉ inner) :
    positionBehind (before ++ inner) = ⟨1 + before.count '\n', inner.length + 1⟩ := by
  have hcolumn : (positionBehind before).column = 1 := by
    rcases hbefore with rfl | hlast
    · rfl
    · obtain ⟨front, rfl⟩ := List.getLast?_eq_some_iff.mp hlast
      rw [positionBehind_newline]
      rfl
  rw [positionBehind_inLine before hinner, Position.advance, hcolumn, Int.add_comm 1]
  rfl

/-! ## Blanks -/

theorem MadeOf.gap_not_mem {t : Token} {c : Char} {cs : List Char}
    (h : t.MadeOf (Lexeme.first c cs)) {x : Char} (hx : Lexeme.isGap x = true) :
    x ∉ t.text.toList := by
  obtain ⟨hkind, htext, -⟩ := h
  have hgap : x = ' ' ∨ x = '\t' ∨ x = '\r' := by simpa [Lexeme.isGap, or_assoc] using hx
  rw [htext]
  cases hform : (Lexeme.first c cs).form with
  | comment | blanks => simp [Lexeme.kind?, hform] at hkind
  | newline | dollar =>
      obtain ⟨rfl, hlength⟩ := Lexeme.says_of_form hform
      rcases hgap with rfl | rfl | rfl <;> simp [Lexeme.first, hlength]
  | fraction | doubleDollar =>
      obtain ⟨⟨rfl, hcs⟩, hlength⟩ := Lexeme.says_of_form hform
      obtain ⟨rest, rfl⟩ := List.head?_eq_some_iff.mp hcs
      rcases hgap with rfl | rfl | rfl <;> simp [Lexeme.first, hlength]
  | number =>
      obtain ⟨d, hd⟩ := spells_of_form hform
      intro hmem
      have hchar := hd.chars x hmem
      rcases hgap with rfl | rfl | rfl <;> exact absurd hchar (by decide)
  | word =>
      obtain ⟨d, rest, hchars, hd, hrest⟩ := isWord_iff.mp (isWord_of_form hform)
      rw [hchars]
      intro hmem
      rcases List.mem_cons.mp hmem with rfl | hmem
      · rcases hgap with rfl | rfl | rfl <;> exact absurd hd (by decide)
      · have hchar := hrest x hmem
        rcases hgap with rfl | rfl | rfl <;> exact absurd hchar (by decide)
  | symbol | other =>
      obtain ⟨hc, hlength⟩ := Lexeme.says_of_form hform
      intro hmem
      obtain rfl : x = c := by simpa [Lexeme.first, hlength] using hmem
      rcases hgap with rfl | rfl | rfl <;> exact absurd hc (by decide)

theorem gap_not_mem {source : String} {t : Token} (ht : t ∈ Token.ofSource source) {x : Char}
    (hx : Lexeme.isGap x = true) : x ∉ t.text.toList := by
  rcases List.mem_append.mp ht with hbody | hlast
  · obtain ⟨c, cs, h⟩ := exists_lexeme_of_mem_place source.toList .start hbody
    exact h.gap_not_mem hx
  · obtain rfl := List.mem_singleton.mp hlast
    exact List.not_mem_nil

/-! ## The line of a token -/

/-- The token in its line: its text starts at its column, or it stands behind the line. -/
structure LiesIn (t : Token) (line : String) : Prop where
  text : ¬t.IsEnd → t.text ≠ "" ∧
    (line.toList.drop (t.position.column - 1).toNat).take t.text.length = t.text.toList
  behind : t.IsEnd → (line.length : Int) ≤ t.position.column - 1

open Text in
/-- The line that is found by the number of a token's line is the one the token stands in. -/
theorem Stands.exists_line {source : String} {t : Token} {front rest : List Char}
    (h : Stands source.toList t front rest) (hreturn : '\r' ∉ t.text.toList) :
    ∃ line, line? source t.position.line = some line ∧ IsLine source t.position.line line ∧
      t.LiesIn line := by
  obtain ⟨before, inner, rfl, hbefore, hinner⟩ := exists_line_front front
  have hposition := h.position
  rw [positionBehind_inner hbefore hinner] at hposition
  by_cases hend : t.IsEnd
  · have hafter : t.text.toList ++ rest = [] ∨ (t.text.toList ++ rest).head? = some '\n' := by
      rcases hend with hkind | hkind
      · exact .inr (by simp [h.newline hkind])
      · exact .inl (by simp [h.eof hkind])
    have hline : LineBetween before inner (t.text.toList ++ rest) := ⟨hbefore, hinner, hafter⟩
    have hsource : source.toList = before ++ (inner ++ (t.text.toList ++ rest)) := by
      rw [h.chars, List.append_assoc]
    rw [hposition]
    refine ⟨_, hline.line?_eq hsource, hline.isLine hsource, fun hne => absurd hend hne, ?_⟩
    intro _
    have hle : (dropTrailing (· == '\r') inner).length ≤ inner.length :=
      (List.rdropWhile_prefix (· == '\r') inner).length_le
    simp only [hposition, String.length_ofList]
    omega
  · obtain ⟨htext, hnewline⟩ := h.inLine hend
    obtain ⟨tail, after, rfl, htail, hafter⟩ := exists_line_back rest
    have hline : LineBetween before ((inner ++ t.text.toList) ++ tail) after :=
      ⟨hbefore, by simp [hinner, hnewline, htail], hafter⟩
    have hsource : source.toList = before ++ (((inner ++ t.text.toList) ++ tail) ++ after) := by
      rw [h.chars]
      simp only [List.append_assoc]
    -- the carriage returns that are dropped stand behind the token
    have hlast : ∀ c ∈ (inner ++ t.text.toList).getLast?, (c == '\r') = false := by
      intro c hc
      rw [List.getLast?_append_of_ne_nil _ htext] at hc
      exact beq_false_of_ne fun heq => hreturn (heq ▸ List.mem_of_getLast? hc)
    have hdrop := dropTrailing_append hlast tail
    rw [hposition]
    refine ⟨_, hline.line?_eq hsource, hline.isLine hsource, ?_, fun h => absurd h hend⟩
    intro _
    refine ⟨fun hempty => htext (by simp [hempty]), ?_⟩
    rw [String.toList_ofList, hdrop, hposition, List.append_assoc]
    simp [← String.length_toList]

theorem exists_line {source : String} {t : Token} (ht : t ∈ Token.ofSource source) :
    ∃ line, Text.line? source t.position.line = some line ∧
      Text.IsLine source t.position.line line ∧ t.LiesIn line := by
  obtain ⟨front, rest, h⟩ := exists_stands ht
  exact h.exists_line (gap_not_mem ht (by decide))

end Token

/-! ## What a report says -/

/-- The text holds no line end. -/
def OneLine (s : String) : Prop := '\n' ∉ s.toList

instance (s : String) : Decidable (OneLine s) := inferInstanceAs (Decidable ('\n' ∉ s.toList))

@[simp] theorem oneLine_append {s t : String} : OneLine (s ++ t) ↔ OneLine s ∧ OneLine t := by
  simp [OneLine]

theorem Text.IsLine.oneLine {s line : String} {number : Int} (h : Text.IsLine s number line) :
    OneLine line := by
  obtain ⟨before, returns, after, -, hbetween, -⟩ := h
  exact fun hmem => hbetween.inLine (List.mem_append_left _ hmem)

/-- A number is written with digits and perhaps a minus sign. -/
theorem not_mem_toString {c : Char} (hdigit : c.isDigit = false) (hminus : c ≠ '-') (n : Int) :
    c ∉ (toString n).toList := by
  have hnat : ∀ k : Nat, c ∉ (toString k).toList := by
    intro k h
    have hmem : c.isDigit = true :=
      Nat.isDigit_of_mem_toDigits (by decide) (by decide) (Nat.toList_repr ▸ h)
    rw [hdigit] at hmem
    cases hmem
  cases n with
  | ofNat n => exact hnat n
  | negSucc n =>
      show c ∉ ("-" ++ toString (n + 1)).toList
      rw [String.toList_append, List.mem_append, not_or]
      exact ⟨fun h => hminus (List.mem_singleton.mp h), hnat (n + 1)⟩

theorem oneLine_toString (n : Int) : OneLine (toString n) :=
  not_mem_toString (by decide) (by decide) n

/-- The numbers of arguments are described by digits and a few words. -/
theorem Arity.not_mem_describe {c : Char} (hdigit : c.isDigit = false) (hminus : c ≠ '-')
    (hwords : c ∉ "any number of or arguments".toList) (a : Arity) : c ∉ a.describe.toList := by
  have hword : ∀ {s : String},
      s.toList.all ("any number of or arguments".toList.contains ·) = true → c ∉ s.toList :=
    fun hs h => hwords (List.contains_iff_mem.mp (List.all_eq_true.mp hs c h))
  have hone : c ∉ "1 argument".toList := by
    intro h
    rcases List.mem_cons.mp h with rfl | h
    · exact absurd hdigit (by decide)
    · exact hword (s := " argument") (by decide) h
  have hexpected : c ∉ a.expected.toList := by
    cases a with
    | any => exact hword (by decide)
    | counts accepted =>
        refine Text.not_mem_intercalate (hword (by decide)) fun s hs => ?_
        obtain ⟨n, -, rfl⟩ := List.mem_map.mp hs
        exact not_mem_toString hdigit hminus n
  have hmany : c ∉ (a.expected ++ " arguments").toList := by
    rw [String.toList_append, List.mem_append, not_or]
    exact ⟨hexpected, hword (by decide)⟩
  unfold Arity.describe
  split
  · exact hmany
  · split
    · exact hone
    · exact hmany

theorem Arity.oneLine_describe (a : Arity) : OneLine a.describe :=
  a.not_mem_describe (by decide) (by decide) (by decide)

theorem Category.oneLine_name (c : Category) : OneLine c.name := by
  cases c <;> simp [OneLine, Category.name]

section Messages
variable {P : Token → Prop} (hP : ∀ t, P t → ¬t.IsEnd → OneLine t.text)
include hP

theorem Token.oneLine_describe {t : Token} (ht : P t) : OneLine t.describe := by
  have htext := hP t ht
  unfold Token.describe
  split
  · decide
  · decide
  · next heof hnewline =>
      have hend : ¬t.IsEnd := fun h => h.elim hnewline heof
      simp only [oneLine_append]
      exact ⟨⟨by decide, htext hend⟩, by decide⟩

theorem Token.IsFunction.oneLine_text {t : Token} (h : t.IsFunction P) : OneLine t.text := by
  obtain ⟨ht, f, hkind⟩ := h
  refine hP t ht fun hend => ?_
  rcases hend with h | h <;> cases hkind.symm.trans h

theorem Fault.Blames.oneLine_expectation {what : Expectation} {t : Token}
    (h : (Fault.missing what t).Blames P) : OneLine what.message := by
  cases what with
  | groupEnd | inlineEnd | displayEnd => decide
  | argumentsEnd name =>
      obtain ⟨-, f, hf, rfl⟩ := h
      have htext := Token.IsFunction.oneLine_text hP hf
      show OneLine ("Expected ')' after arguments of '" ++ f.text ++ "'")
      simp only [oneLine_append, htext]
      simp [OneLine]
  | stated message => exact h.2.elim

theorem Fault.Blames.oneLine_message {fault : Fault} (h : fault.Blames P) :
    OneLine fault.diagnostic.message := by
  cases fault with
  | unmatched b t | unclosed b t =>
      simp only [Fault.diagnostic, Diagnostic.onToken]
      cases b <;> simp [OneLine, inQuotes, Bracket.noun, Bracket.openChar, Bracket.closeChar]
  | unexpected t =>
      have hdescribe := Token.oneLine_describe hP h
      simp only [Fault.diagnostic]
      split <;> simp only [Diagnostic.onToken, oneLine_append, hdescribe] <;> simp [OneLine]
  | noArguments t =>
      have htext := Token.IsFunction.oneLine_text hP h
      simp only [Fault.diagnostic, Diagnostic.onToken, inQuotes, oneLine_append, htext]
      simp [OneLine]
  | missing what t =>
      have hdescribe := Token.oneLine_describe hP h.1
      have hwhat := h.oneLine_expectation hP
      simp only [Fault.diagnostic, Diagnostic.onToken, oneLine_append, hdescribe, hwhat]
      simp [OneLine]
  | arity t accepted count =>
      have htext := Token.IsFunction.oneLine_text hP h
      simp only [Fault.diagnostic, Diagnostic.onToken, inQuotes, oneLine_append, htext,
        accepted.oneLine_describe, oneLine_toString]
      simp [OneLine]

theorem Fault.Blames.oneLine_suggestion {fault : Fault} (h : fault.Blames P) :
    ∀ s ∈ fault.diagnostic.suggestion, OneLine s := by
  intro s hs
  cases fault with
  | unmatched b t | missing what t | arity t accepted count => cases hs
  | unclosed b t =>
      cases hs
      cases b <;> simp [OneLine, inQuotes, Bracket.closeChar]
  | unexpected t =>
      simp only [Fault.diagnostic] at hs
      split at hs <;> cases hs <;> simp [OneLine]
  | noArguments t =>
      have htext := Token.IsFunction.oneLine_text hP h
      cases hs
      simp only [oneLine_append, htext]
      simp [OneLine]

end Messages

namespace Report

theorem oneLine_caretLine (column : Int) : OneLine (caretLine column) := by
  simp [OneLine, caretLine]

/-- The lines of a report are the lines of the text that it is shown as. -/
theorem lines_format {r : Report} (hkind : OneLine r.kind) (hmessage : OneLine r.message)
    (hline : ∀ s ∈ r.sourceLine, OneLine s) (hsuggestion : ∀ s ∈ r.suggestion, OneLine s) :
    Text.lines r.format = r.lines := by
  refine Text.lines_intercalate (by simp [lines]) fun s hs => ?_
  simp only [lines, List.mem_append, List.mem_singleton] at hs
  rcases hs with (rfl | hs) | hs
  · show OneLine r.text
    simp only [text, oneLine_append, hkind, hmessage, oneLine_toString]
    decide
  · cases hsource : r.sourceLine with
    | none => simp [hsource] at hs
    | some line =>
        simp only [hsource, List.mem_cons, List.not_mem_nil, or_false] at hs
        rcases hs with rfl | rfl
        · exact oneLine_append.mpr ⟨by decide, hline line hsource⟩
        · exact oneLine_append.mpr ⟨by decide, oneLine_caretLine _⟩
  · cases hshown : r.suggestion? with
    | none => simp [hshown] at hs
    | some suggestion =>
        simp only [hshown, List.mem_singleton] at hs
        subst hs
        obtain ⟨hmem, -⟩ := Option.filter_eq_some_iff.mp hshown
        exact oneLine_append.mpr ⟨by decide, hsuggestion suggestion hmem⟩

theorem lines_of_sourceLine {r : Report} {line : String} (h : r.sourceLine = some line) :
    ∃ rest,
      r.lines = r.text :: ("  " ++ line) :: ("  " ++ caretLine r.position.column) :: rest := by
  rw [lines, h]
  exact ⟨_, rfl⟩

/-- The report points at the token `t`, in the line `line` of the source. -/
structure PointsAt (r : Report) (source : String) (t : Token) (line : String) : Prop where
  position : t.position = r.position
  sourceLine : r.sourceLine = some line
  isLine : Text.IsLine source r.position.line line
  /-- The column is where the text of the token starts in the line. -/
  text : ¬t.IsEnd → t.text ≠ "" ∧
    (line.toList.drop (r.position.column - 1).toNat).take t.text.length = t.text.toList
  /-- The caret ends the third line of the report, and from there on the second line begins with
  the token. -/
  caret : ¬t.IsEnd → ∃ first marked rest k,
    Text.lines r.format = first :: ("  " ++ line) :: marked :: rest ∧
      marked.toList = List.replicate k ' ' ++ ['^'] ∧
      t.text.toList <+: ("  " ++ line).toList.drop k
  /-- The end of a line, or of the input, is behind all that is shown of the line. -/
  behind : t.IsEnd → (line.length : Int) ≤ r.position.column - 1

/-- A report with the line of a token points at it, if what it says takes one line each. -/
theorem pointsAt_of_liesIn {r : Report} {source line : String} {t : Token}
    (hformat : Text.lines r.format = r.lines) (hposition : t.position = r.position)
    (hsource : r.sourceLine = some line) (hisLine : Text.IsLine source t.position.line line)
    (hlies : t.LiesIn line) : r.PointsAt source t line := by
  obtain ⟨htext, hbehind⟩ := hlies
  rw [hposition] at hisLine htext hbehind
  refine ⟨hposition, hsource, hisLine, htext, fun hend => ?_, hbehind⟩
  obtain ⟨-, hslice⟩ := htext hend
  have hmarked : ("  " ++ caretLine r.position.column).toList =
      List.replicate ((r.position.column - 1).toNat + 2) ' ' ++ ['^'] := by
    simp [caretLine, List.replicate_succ]
  have hshown : ("  " ++ line).toList.drop ((r.position.column - 1).toNat + 2) =
      line.toList.drop (r.position.column - 1).toNat := by
    simp
  obtain ⟨rest, hlines⟩ := lines_of_sourceLine hsource
  refine ⟨_, _, rest, _, hformat.trans hlines, hmarked, ?_⟩
  rw [hshown, ← hslice]
  exact List.take_prefix _ _

end Report

/-! ## Every report -/

namespace Typesetting

theorem lines_format_located {source line : String} {fault : Fault}
    (hblames : fault.Blames (· ∈ Token.ofSource source))
    (hline : (located source fault).sourceLine = some line) (honeLine : OneLine line) :
    Text.lines (located source fault).facts.format = (located source fault).facts.lines := by
  have htokens : ∀ t ∈ Token.ofSource source, ¬t.IsEnd → OneLine t.text := by
    intro t ht hend
    obtain ⟨front, rest, h⟩ := Token.exists_stands ht
    exact (h.inLine hend).2
  refine Report.lines_format (Category.oneLine_name _) (hblames.oneLine_message htokens) ?_
    (hblames.oneLine_suggestion htokens)
  intro s hs
  cases hline.symm.trans hs
  exact honeLine

/-- Whatever is reported, the report points at the token that is blamed, which is a token of the
source: it has the position of the token and shows the line that the token stands in, and its
caret stands under the first character of the token, or behind the line if the token ends it. -/
theorem report_pointsAt_token {options : Options} {source : String} {logged : Logged Outcome}
    {report : Report} (hrun : run options source = .ok logged)
    (hresult : logged.value.result = .error report) :
    ∃ fault line, Parser.parse (.ofSource source) = .error fault ∧
      fault.token ∈ Token.ofSource source ∧ report.PointsAt source fault.token line := by
  cases hparse : Parser.parse (.ofSource source) with
  | ok document =>
      obtain ⟨tex, htex⟩ := Parser.hasLatex_of_parse hparse options.mode
      simp only [run, hparse, htex, Except.ok.injEq] at hrun
      subst hrun
      cases hresult
  | error fault =>
      obtain ⟨hlineNumber, hcolumn⟩ := one_le_position_located hparse
      simp only [run, hparse, Report.ofDiagnostic_eq hlineNumber hcolumn, Except.ok.injEq] at hrun
      subst hrun
      cases hresult
      have hblames := Parser.parse_blames hparse
      obtain ⟨line, hline, hisLine, hlies⟩ := Token.exists_line hblames.token
      have hposition := fault.diagnostic_position
      have hsource : (located source fault).sourceLine = some line := by
        rw [← hline, ← hposition]
        rfl
      have hformat := lines_format_located hblames hsource hisLine.oneLine
      exact ⟨fault, line, rfl, hblames.token,
        Report.pointsAt_of_liesIn hformat hposition.symm hsource hisLine hlies⟩

/-- The arguments of `sqrt` are not between parentheses, in a second line that ends with a
carriage return. -/
theorem report_pointsAt_token_secondLine : ∃ logged report,
    run ⟨.inline, false⟩ "x + 1\r\n  2 sqrt 4\r\n" = .ok logged ∧
      logged.value.result = .error report ∧ report.position = ⟨2, 5⟩ ∧
      report.sourceLine = some "  2 sqrt 4" ∧
      ∃ fault line, Parser.parse (.ofSource "x + 1\r\n  2 sqrt 4\r\n") = .error fault ∧
        fault.token ∈ Token.ofSource "x + 1\r\n  2 sqrt 4\r\n" ∧
        report.PointsAt "x + 1\r\n  2 sqrt 4\r\n" fault.token line := by
  have hfails : ∃ logged, run ⟨.inline, false⟩ "x + 1\r\n  2 sqrt 4\r\n" = .ok logged ∧
      ∃ report, logged.value.result = .error report ∧ report.position = ⟨2, 5⟩ ∧
        report.sourceLine = some "  2 sqrt 4" := ⟨_, rfl, _, rfl, rfl, rfl⟩
  obtain ⟨logged, hrun, report, hresult, hposition, hline⟩ := hfails
  exact ⟨logged, report, hrun, hresult, hposition, hline, report_pointsAt_token hrun hresult⟩

end Typesetting

end PlainMath
