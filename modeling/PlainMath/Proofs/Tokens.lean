/-
# `Proofs.Tokens` — the tokens of a source and where they stand

Cutting a source into tokens loses nothing but comments and blanks, and every token knows its
place.  A `Span` is a token with the characters that were skipped before it; the spans of a
source, put together, are the source.

The loop that makes tokens carries a position.  What it is at each moment is a function of the
characters read so far, `positionBehind`, and the invariant `Laid before cs spans` says that
the spans lie on the characters `cs` that follow the characters `before`.  All facts about
offsets, lines and columns are read off `Laid` by induction.
-/
import Mathlib.Data.List.Count
import PlainMath.Proofs.Lexeme
import PlainMath.Token.Stream

namespace PlainMath.Token

/-! ## Positions -/

/-- The offset just behind the last line end of the characters; zero if there is none. -/
def lineStart (cs : List Char) : Nat :=
  match (cs.findIdxs (· == '\n')).getLast? with
  | some i => i + 1
  | none => 0

/-- The position behind the characters at the front of a source: one line more than line ends,
and the column from the beginning of the line. -/
def positionBehind (before : List Char) : Position :=
  ⟨1 + before.count '\n', (before.length - lineStart before : Nat) + 1⟩

theorem lineStart_le (cs : List Char) : lineStart cs ≤ cs.length := by
  unfold lineStart
  split
  · next i hi =>
      have := List.lt_add_of_mem_findIdxs i (List.mem_of_getLast? hi)
      omega
  · exact Nat.zero_le _

theorem findIdxs_eq_nil {cs : List Char} (h : '\n' ∉ cs) (start : Nat) :
    cs.findIdxs (· == '\n') start = [] := by
  rw [List.findIdxs_eq_nil_iff]
  intro c hc
  exact beq_false_of_ne (fun hcn => h (hcn ▸ hc))

theorem positionBehind_newline (before : List Char) :
    positionBehind (before ++ ['\n']) = (positionBehind before).nextLine := by
  have hstart : lineStart (before ++ ['\n']) = before.length + 1 := by
    simp [lineStart, List.findIdxs_append]
  simp only [positionBehind, hstart, Position.nextLine]
  simp [Int.add_assoc]

theorem positionBehind_inLine (before : List Char) {cs : List Char} (h : '\n' ∉ cs) :
    positionBehind (before ++ cs) = (positionBehind before).advance cs.length := by
  have hstart : lineStart (before ++ cs) = lineStart before := by
    simp [lineStart, List.findIdxs_append, findIdxs_eq_nil h]
  have hle := lineStart_le before
  simp only [positionBehind, hstart, Position.advance, List.count_append,
    List.count_eq_zero_of_not_mem h, List.length_append]
  congr 1
  omega

/-- A lexeme moves the position as its characters do. -/
theorem positionBehind_append {l : Lexeme} {rest : List Char} (h : l.Fits rest)
    (before : List Char) :
    positionBehind (before ++ l.chars) = l.positionAfter (positionBehind before) := by
  by_cases hform : l.form = .newline
  · rw [h.newline hform, positionBehind_newline]
    simp [Lexeme.positionAfter, hform]
  · rw [positionBehind_inLine before (h.inLine hform)]
    unfold Lexeme.positionAfter
    split
    · next hnewline => exact absurd hnewline hform
    · rfl

/-! ## What is skipped -/

/-- Characters that are skipped before the characters `rest`: runs of blanks, and comments,
each of which goes up to the end of its line. -/
inductive Gap : List Char → List Char → Prop where
  | nil {rest : List Char} : Gap [] rest
  | blanks {run gap rest : List Char} :
      run ≠ [] → (∀ c ∈ run, c = ' ' ∨ c = '\t' ∨ c = '\r') → Gap gap rest →
      Gap (run ++ gap) rest
  | comment {body gap rest : List Char} :
      ((∃ text, body = '#' :: text) ∨ ∃ text, body = '/' :: '/' :: text) → '\n' ∉ body →
      (gap ++ rest = [] ∨ (gap ++ rest).head? = some '\n') → Gap gap rest →
      Gap (body ++ gap) rest

theorem Gap.append {g g' rest : List Char} (h : Gap g (g' ++ rest)) (h' : Gap g' rest) :
    Gap (g ++ g') rest := by
  generalize hrest : g' ++ rest = r at h
  induction h with
  | nil => exact h'
  | blanks hne hrun _ ih =>
      rw [List.append_assoc]
      exact .blanks hne hrun (ih hrest)
  | comment hbody hline hend _ ih =>
      rw [List.append_assoc]
      refine .comment hbody hline ?_ (ih hrest)
      rwa [List.append_assoc, hrest]

theorem Gap.newline_not_mem {g rest : List Char} (h : Gap g rest) : '\n' ∉ g := by
  induction h with
  | nil => exact List.not_mem_nil
  | blanks _ hrun _ ih =>
      rw [List.mem_append, not_or]
      refine ⟨fun hmem => ?_, ih⟩
      have := hrun _ hmem
      revert this
      decide
  | comment _ hline _ _ ih =>
      rw [List.mem_append, not_or]
      exact ⟨hline, ih⟩

/-- A lexeme that makes no token is a gap. -/
theorem gap_of_kind?_none {l : Lexeme} {rest : List Char} (h : l.Fits rest)
    (hkind : l.kind? = none) : Gap l.chars rest := by
  rw [← List.append_nil l.chars]
  rcases (Lexeme.kind?_eq_none_iff h).mp hkind with hform | hform
  · obtain ⟨hbody, hend⟩ := h.comment hform
    exact .comment hbody (h.inLine (by simp [hform])) hend .nil
  · refine .blanks h.nonempty (fun c hc => ?_) .nil
    simpa [Lexeme.isGap, or_assoc] using h.blanks hform c hc

/-! ## Spans -/

/-- A token and the characters that were skipped before it. -/
structure Span where
  gap : List Char
  token : Token

/-- The characters of a span. -/
def Span.chars (s : Span) : List Char := s.gap ++ s.token.text.toList

/-- Each span with the offset at which its token starts, if the first span begins at `o`. -/
def offsets : Nat → List Span → List (Nat × Span)
  | _, [] => []
  | o, s :: rest => (o + s.gap.length, s) :: offsets (o + s.chars.length) rest

/-- The spans of lexemes of which the first starts at `p`, with the gap before it. -/
def spansFrom (p : Position) (gap : List Char) : List Lexeme → List Span
  | [] => [⟨gap, ⟨.eof, "", p, none⟩⟩]
  | l :: rest =>
    match l.kind? with
    | some kind =>
      ⟨gap, ⟨kind, String.ofList l.chars, p, l.literal?⟩⟩ :: spansFrom (l.positionAfter p) [] rest
    | none => spansFrom (l.positionAfter p) (gap ++ l.chars) rest

/-- The spans of a source. -/
def spans (source : String) : List Span :=
  spansFrom .start [] (Lexeme.ofSource source.toList)

theorem map_token_spansFrom : ∀ (ls : List Lexeme) (p : Position) (gap : List Char),
    (spansFrom p gap ls).map Span.token = place p ls ++ [⟨.eof, "", placeEnd p ls, none⟩]
  | [], _, _ => rfl
  | l :: ls, p, gap => by
      simp only [spansFrom, place]
      cases l.kind? with
      | some kind => simp [map_token_spansFrom ls, placeEnd]
      | none => simp [map_token_spansFrom ls, placeEnd]

/-- The spans lie on the characters `cs`, which follow the characters `before`. -/
inductive Laid : List Char → List Char → List Span → Prop where
  | last {before gap : List Char} :
      Gap gap [] → Laid before gap [⟨gap, ⟨.eof, "", positionBehind (before ++ gap), none⟩⟩]
  | token {before gap rest : List Char} {t : Token} {ss : List Span} :
      Gap gap (t.text.toList ++ rest) → t.kind ≠ .eof →
      t.position = positionBehind (before ++ gap) → t.text.toList ≠ [] →
      (t.kind = .newline ∧ t.text.toList = ['\n'] ∨ t.kind ≠ .newline ∧ '\n' ∉ t.text.toList) →
      Laid (before ++ (gap ++ t.text.toList)) rest ss →
      Laid before (gap ++ (t.text.toList ++ rest)) (⟨gap, t⟩ :: ss)

/-- A lexeme that makes a token is laid as a token. -/
theorem Laid.lexeme {l : Lexeme} {kind : Kind} {before gap rest : List Char} {ss : List Span}
    (hfits : l.Fits rest) (hkind : l.kind? = some kind) (hgap : Gap gap (l.chars ++ rest))
    (hss : Laid (before ++ (gap ++ l.chars)) rest ss) :
    Laid before (gap ++ (l.chars ++ rest))
      (⟨gap, ⟨kind, String.ofList l.chars, positionBehind (before ++ gap), l.literal?⟩⟩ :: ss) := by
  have hnewline := Lexeme.kind?_eq_some_iff hfits (k := .newline) (.inl rfl)
  have heof := Lexeme.kind?_eq_some_iff hfits (k := .eof) (.inr rfl)
  rw [hkind, Option.some.injEq] at hnewline heof
  have hlaid := @Laid.token before gap rest
    ⟨kind, String.ofList l.chars, positionBehind (before ++ gap), l.literal?⟩ ss
  rw [String.toList_ofList] at hlaid
  refine hlaid hgap (fun h => ?_) rfl hfits.nonempty ?_ hss
  · cases (heof.mp h).1
  · by_cases hform : l.form = .newline
    · exact .inl ⟨hnewline.mpr ⟨rfl, hform⟩, hfits.newline hform⟩
    · exact .inr ⟨fun h => hform (hnewline.mp h).2, hfits.inLine hform⟩

theorem laid_spansFrom (cs : List Char) : ∀ (before gap : List Char), Gap gap cs →
    Laid before (gap ++ cs)
      (spansFrom (positionBehind (before ++ gap)) gap (Lexeme.ofSource cs)) := by
  induction cs using Lexeme.cut_induction with
  | nil =>
      intro before gap hgap
      rw [List.append_nil]
      exact .last hgap
  | cons c cs ih =>
      intro before gap hgap
      have hfits := Lexeme.first_fits c cs
      have hafter := positionBehind_append hfits (before ++ gap)
      rw [Lexeme.ofSource_cons]
      rw [← Lexeme.first_append_behind c cs] at hgap ⊢
      generalize Lexeme.first c cs = l at *
      generalize Lexeme.behind c cs = rest at *
      simp only [spansFrom, ← hafter]
      -- a lexeme that makes no token lengthens the gap; one that does makes the next gap empty
      cases hkind : l.kind? with
      | none =>
          have hgap' := hgap.append (gap_of_kind?_none hfits hkind)
          simpa [List.append_assoc] using ih before (gap ++ l.chars) hgap'
      | some kind =>
          have htail := ih (before ++ (gap ++ l.chars)) [] .nil
          rw [List.append_nil, ← List.append_assoc before] at htail
          exact .lexeme hfits hkind hgap (List.append_assoc before gap l.chars ▸ htail)

/-! ## What is read off the spans -/

theorem Laid.flatMap_chars {before cs : List Char} {ss : List Span} (h : Laid before cs ss) :
    ss.flatMap Span.chars = cs := by
  induction h with
  | last _ => simp [Span.chars]
  | token _ _ _ _ _ _ ih => simp [Span.chars, ih]

/-- What is skipped before each token is a gap, and the position of the token is the one behind
everything that stands before it. -/
theorem Laid.gap_position {before cs : List Char} {ss : List Span} (h : Laid before cs ss) :
    ∀ p ∈ offsets before.length ss, Gap p.2.gap ((before ++ cs).drop p.1) ∧
      p.2.token.position = positionBehind ((before ++ cs).take p.1) := by
  induction h with
  | @last before gap hgap =>
      intro p hp
      obtain rfl := List.mem_singleton.mp hp
      simp [← List.length_append, hgap]
  | @token before gap rest t ss hgap _ hposition _ _ _ ih =>
      intro p hp
      rcases List.mem_cons.mp hp with rfl | hp
      · rw [← List.append_assoc, ← List.length_append, List.drop_left, List.take_left]
        exact ⟨hgap, hposition⟩
      · have h := ih p (by simpa [Span.chars] using hp)
        simpa [List.append_assoc] using h

theorem Laid.exists_position {before cs : List Char} {ss : List Span} (h : Laid before cs ss) :
    ∀ s ∈ ss, ∃ front, s.token.position = positionBehind front := by
  induction h with
  | last _ =>
      intro s hs
      obtain rfl := List.mem_singleton.mp hs
      exact ⟨_, rfl⟩
  | token _ _ hposition _ _ _ ih =>
      intro s hs
      rcases List.mem_cons.mp hs with rfl | hs
      · exact ⟨_, hposition⟩
      · exact ih s hs

/-- The tokens that are line ends stand where the line ends are. -/
theorem Laid.newlines {before cs : List Char} {ss : List Span} (h : Laid before cs ss) :
    ((offsets before.length ss).filter (·.2.token.kind == .newline)).map (·.1) =
      cs.findIdxs (· == '\n') before.length := by
  induction h with
  | last hgap => simp [offsets, findIdxs_eq_nil hgap.newline_not_mem]
  | @token before gap rest t ss hgap _ _ _ hnewline _ ih =>
      have htail : before.length + (Span.chars ⟨gap, t⟩).length =
          (before ++ (gap ++ t.text.toList)).length := by simp [Span.chars]
      rw [List.findIdxs_append, List.findIdxs_append, findIdxs_eq_nil hgap.newline_not_mem,
        List.nil_append, offsets, htail]
      rcases hnewline with ⟨hkind, htext⟩ | ⟨hkind, htext⟩
      · rw [List.filter_cons_of_pos (by simp [hkind]), List.map_cons, ih, htext]
        simp [Nat.add_assoc]
      · rw [List.filter_cons_of_neg (by simp [hkind]), ih, findIdxs_eq_nil htext]
        simp [Nat.add_assoc]

/-- The end of the input is the last token, and it stands behind the last character. -/
theorem Laid.offsets_eq {before cs : List Char} {ss : List Span} (h : Laid before cs ss) :
    ∃ front last, offsets before.length ss = front ++ [((before ++ cs).length, last)] ∧
      last.token.kind = .eof ∧ last.token.text = "" ∧
      ∀ p ∈ front, p.2.token.kind ≠ .eof ∧ p.2.token.text ≠ "" := by
  induction h with
  | last _ => exact ⟨[], _, by rw [List.length_append]; rfl, rfl, rfl, by simp⟩
  | @token before gap rest t ss _ hkind _ htext _ _ ih =>
      obtain ⟨front, last, heq, heof, hempty, hfront⟩ := ih
      refine ⟨(before.length + gap.length, ⟨gap, t⟩) :: front, last, ?_, heof, hempty, ?_⟩
      · rw [offsets, List.cons_append]
        simpa [Span.chars, List.append_assoc] using heq
      · rw [List.forall_mem_cons]
        refine ⟨⟨hkind, fun h => htext ?_⟩, hfront⟩
        rw [h, String.toList_empty]

theorem laid_spans (source : String) : Laid [] source.toList (spans source) :=
  laid_spansFrom source.toList [] [] .nil

/-- The positions of a source are counted from one. -/
theorem one_le_position {source : String} {t : Token} (ht : t ∈ Token.ofSource source) :
    1 ≤ t.position.line ∧ 1 ≤ t.position.column := by
  have htokens : Token.ofSource source = (spans source).map Span.token :=
    (map_token_spansFrom _ _ _).symm
  rw [htokens] at ht
  obtain ⟨span, hspan, rfl⟩ := List.mem_map.mp ht
  obtain ⟨before, hbefore⟩ := (laid_spans source).exists_position span hspan
  rw [hbefore]
  simp only [positionBehind]
  omega

theorem kind_ne_eof_of_mem_place {t : Token} (cs : List Char) :
    ∀ p : Position, t ∈ place p (Lexeme.ofSource cs) → t.kind ≠ .eof := by
  induction cs using Lexeme.cut_induction with
  | nil =>
      intro p ht
      cases ht
  | cons c cs ih =>
      intro p ht
      have heof := Lexeme.kind?_eq_some_iff (Lexeme.first_fits c cs) (k := .eof) (.inr rfl)
      rw [Lexeme.ofSource_cons, place] at ht
      cases hkind : (Lexeme.first c cs).kind? with
      | none =>
          rw [hkind] at ht
          exact ih _ ht
      | some kind =>
          rw [hkind] at ht heof
          rcases List.mem_cons.mp ht with rfl | ht
          · rintro rfl
            cases (heof.mp rfl).1
          · exact ih _ ht

/-- The end of the input is not among the tokens before it. -/
theorem kind_ne_eof_of_mem_body {source : String} {t : Token}
    (ht : t ∈ (Stream.ofSource source).body) : t.kind ≠ .eof :=
  kind_ne_eof_of_mem_place source.toList .start ht

/-- Nothing of a source is lost but blanks and comments, and positions are exact.  The spans of
a source have its tokens, and put together they are the source; where a token starts, the
position is one more than the line ends before it, with the column counted from the last of
them; the line ends are the newline tokens; and the one token for the end of the input is the
last one, is empty and stands at the end. -/
theorem tokens_lossless (source : String) :
    (spans source).map Span.token = Token.ofSource source ∧
    (spans source).flatMap Span.chars = source.toList ∧
    (∀ p ∈ offsets 0 (spans source),
      Gap p.2.gap (source.toList.drop p.1) ∧
        p.2.token.position = positionBehind (source.toList.take p.1)) ∧
    ((offsets 0 (spans source)).filter (·.2.token.kind == .newline)).map (·.1) =
      source.toList.findIdxs (· == '\n') ∧
    ∃ front last, offsets 0 (spans source) = front ++ [(source.length, last)] ∧
      last.token.kind = .eof ∧ last.token.text = "" ∧
      ∀ p ∈ front, p.2.token.kind ≠ .eof ∧ p.2.token.text ≠ "" := by
  have h := laid_spans source
  refine ⟨map_token_spansFrom _ _ _, h.flatMap_chars, h.gap_position, h.newlines, ?_⟩
  exact h.offsets_eq

end PlainMath.Token
