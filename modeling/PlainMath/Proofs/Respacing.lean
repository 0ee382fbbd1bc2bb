/-
# `Proofs.Respacing` — one blank between tokens is enough

Where a lexeme ends is decided by the characters of the lexeme and by one character behind
it, and a blank ends every lexeme where another character did.  So lexemes that make tokens can
be written with one blank between them and are found again:

    one lexeme                          (`reach_take_append`)
    a list of lexemes                   (`ofSource_spaced`)
    the tokens of a source              (`map_facts_respace`)

The parser looks at the kind, the text and the value of a token only, so a respaced source has
the same LaTeX, or the same fault at another place (`latex_respace`).
-/
import PlainMath.Proofs.Typesetting

namespace PlainMath

/-! ## Lexemes with a blank behind them -/

namespace Lexeme

theorem stops_blank (x : List Char) : Stops (' ' :: x) := by
  rintro c ⟨⟩
  exact .inl rfl

theorem stops_nil : Stops [] := nofun

/-- Cutting characters off shows no other first character than a stop. -/
theorem head?_take_append {cs x : List Char} {n : Nat} {d : Char} (hx : Stops x)
    (hblank : d ≠ ' ') (hnewline : d ≠ '\n') (h : (cs.take n ++ x).head? = some d) :
    cs.head? = some d := by
  cases hcs : cs.take n with
  | nil =>
      rw [hcs, List.nil_append] at h
      rcases hx d h with rfl | rfl
      · exact absurd rfl hblank
      · exact absurd rfl hnewline
  | cons c cs' =>
      obtain ⟨m, rfl⟩ : ∃ m, n = m + 1 := by
        cases n with
        | zero => simp at hcs
        | succ m => exact ⟨m, rfl⟩
      cases cs with
      | nil => simp at hcs
      | cons c' cs =>
          rw [hcs] at h
          cases h
          rw [List.take_succ_cons] at hcs
          exact congrArg some (List.cons.inj hcs).1

/-- A lexeme that makes a token is not changed by what stands behind a blank behind it. -/
theorem reach_take_append {c : Char} {cs x : List Char} (hx : Stops x)
    (hcomment : (reach c cs).1 ≠ .comment) (hblanks : (reach c cs).1 ≠ .blanks) :
    reach c (cs.take (reach c cs).2 ++ x) = reach c cs := by
  generalize hr : reach c cs = r at hcomment hblanks ⊢
  obtain ⟨form, n⟩ := r
  have hhead : ∀ {d : Char}, d ≠ ' ' → d ≠ '\n' → ¬ cs.head? = some d →
      ¬ (cs.take n ++ x).head? = some d := fun hb hn h h' => h (head?_take_append hx hb hn h')
  have hpair : ∀ {d : Char}, cs.head? = some d → (cs.take 1 ++ x).head? = some d := by
    intro d hd
    cases cs with
    | nil => cases hd
    | cons d' cs => exact hd
  unfold reach at hr ⊢
  simp only [Bool.or_eq_true, Bool.and_eq_true, beq_iff_eq] at hr ⊢
  split at hr
  · cases hr
    exact absurd rfl hcomment
  next h =>
  rw [not_or, not_and] at h
  rw [if_neg (not_or.mpr ⟨h.1, not_and.mpr fun hc => hhead (by decide) (by decide) (h.2 hc)⟩)]
  split at hr
  · next h =>
      rw [if_pos h]
      exact hr
  next h =>
  rw [if_neg h]
  split at hr
  · cases hr
    exact absurd rfl hblanks
  next h =>
  rw [if_neg h]
  split at hr
  · next h =>
      cases hr
      rw [if_pos ⟨h.1, hpair h.2⟩]
  next h =>
  rw [not_and] at h
  rw [if_neg (not_and.mpr fun hc => hhead (by decide) (by decide) (h hc))]
  split at hr
  · next h =>
      rw [if_pos h]
      split at hr
      · next h =>
          cases hr
          rw [if_pos (hpair h)]
      · next h =>
          cases hr
          rw [if_neg (hhead (by decide) (by decide) h)]
  next h =>
  rw [if_neg h]
  split at hr
  · next h =>
      cases hr
      rw [if_pos h, (numberReach_settles cs).2 _ x (Nat.le_refl _) hx]
  next h =>
  rw [if_neg h]
  split at hr
  · next h =>
      cases hr
      rw [if_pos h, ((run_settles (by decide) (by decide)) cs).2 _ x (Nat.le_refl _) hx]
  next h =>
  rw [if_neg h]
  exact hr

/-- The lexeme makes a token and is at the front of some source. -/
def Makes (l : Lexeme) : Prop := l.kind? ≠ none ∧ ∃ c cs, l = first c cs

/-- A lexeme that makes a token is found again before a blank. -/
theorem Makes.ofSource_append {l : Lexeme} (hl : l.Makes) {x : List Char} (hx : Stops x) :
    ofSource (l.chars ++ x) = l :: ofSource x := by
  obtain ⟨hkind, c, cs, rfl⟩ := hl
  have hforms := (kind?_eq_none_iff (first_fits c cs)).not.mp hkind
  rw [not_or] at hforms
  have hreach := reach_take_append hx hforms.1 hforms.2
  have hlength : (cs.take (reach c cs).2).length = (reach c cs).2 :=
    List.length_take_of_le (reach_le c cs)
  have hchars : (first c cs).chars ++ x = c :: (cs.take (reach c cs).2 ++ x) := rfl
  rw [hchars, ofSource_cons, first, behind, hreach, List.take_left' hlength,
    List.drop_left' hlength]
  rfl

/-- A lexeme that makes a token does not begin with a blank. -/
theorem isGap_of_kind? {c : Char} {cs : List Char} (hkind : (first c cs).kind? ≠ none) :
    isGap c = false := by
  rw [Bool.eq_false_iff]
  intro hgap
  have hform : (first c cs).form = .blanks := by
    simp only [isGap, Bool.or_eq_true, beq_iff_eq] at hgap
    obtain (rfl | rfl) | rfl := hgap <;> rfl
  exact hkind ((kind?_eq_none_iff (first_fits c cs)).mpr (.inr hform))

/-- One blank. -/
def blank : Lexeme := ⟨.blanks, [' ']⟩

/-- A blank before a lexeme that makes a token is a lexeme by itself. -/
theorem Makes.ofSource_blank {l : Lexeme} (hl : l.Makes) (x : List Char) :
    ofSource (' ' :: (l.chars ++ x)) = blank :: ofSource (l.chars ++ x) := by
  obtain ⟨hkind, c, cs, rfl⟩ := hl
  have hrun : Text.run isGap ((first c cs).chars ++ x) = 0 := by
    have hchars : (first c cs).chars ++ x = c :: (cs.take (reach c cs).2 ++ x) := rfl
    rw [hchars, Text.run_cons, isGap_of_kind? hkind]
    rfl
  have hreach : reach ' ' ((first c cs).chars ++ x) = (.blanks, 0) := by
    rw [← hrun]
    rfl
  rw [ofSource_cons, first, behind, hreach]
  rfl

/-! ## Lists of lexemes -/

/-- The characters of the lexemes, with one blank between each two. -/
def spaced (ls : List Lexeme) : List Char := [' '].intercalate (ls.map Lexeme.chars)

theorem spaced_cons_cons (l m : Lexeme) (ls : List Lexeme) :
    spaced (l :: m :: ls) = l.chars ++ ' ' :: spaced (m :: ls) := by
  simp [spaced, List.intercalate]

theorem spaced_cons (l : Lexeme) (ls : List Lexeme) :
    ∃ x, Stops x ∧ spaced (l :: ls) = l.chars ++ x := by
  cases ls with
  | nil => exact ⟨[], stops_nil, by simp [spaced, List.intercalate]⟩
  | cons m ls => exact ⟨_, stops_blank _, spaced_cons_cons l m ls⟩

/-- Spaced lexemes are found again, with the blanks between them. -/
theorem ofSource_spaced : ∀ {ls : List Lexeme}, (∀ l ∈ ls, l.Makes) →
    ofSource (spaced ls) = ls.intersperse blank
  | [], _ => rfl
  | [l], h => by
      have hl := (h l List.mem_cons_self).ofSource_append stops_nil
      simpa [spaced, List.intercalate, ofSource, cut] using hl
  | l :: m :: ls, h => by
      have htail := ofSource_spaced fun l' hl' => h l' (List.mem_cons_of_mem l hl')
      obtain ⟨x, -, hx⟩ := spaced_cons m ls
      rw [spaced_cons_cons, (h l List.mem_cons_self).ofSource_append (stops_blank _), hx,
        (h m (by simp)).ofSource_blank, ← hx, htail, List.intersperse_cons_cons]

/-- The lexemes of a source that make tokens. -/
def makers (cs : List Char) : List Lexeme := (ofSource cs).filter (·.kind?.isSome)

theorem makes_of_mem_makers {l : Lexeme} (cs : List Char) : l ∈ makers cs → l.Makes := by
  unfold makers
  induction cs using cut_induction with
  | nil =>
      intro h
      cases h
  | cons c cs ih =>
      intro h
      rw [ofSource_cons, List.filter_cons] at h
      split at h
      · next hkind =>
          rcases List.mem_cons.mp h with rfl | h
          · exact ⟨Option.isSome_iff_ne_none.mp hkind, c, cs, rfl⟩
          · exact ih h
      · exact ih h

end Lexeme

/-! ## Tokens -/

namespace Token

/-- What the parser looks at: everything but the position. -/
def facts (t : Token) : Kind × String × Option Binary64 := (t.kind, t.text, t.literal)

end Token

namespace Lexeme

/-- What the parser looks at of the token that the lexeme makes. -/
def facts? (l : Lexeme) : Option (Kind × String × Option Binary64) :=
  l.kind?.map fun kind => (kind, String.ofList l.chars, l.literal?)

theorem map_facts_place : ∀ (ls : List Lexeme) (p : Position),
    (Token.place p ls).map Token.facts = ls.filterMap facts?
  | [], _ => rfl
  | l :: ls, p => by
      have htail := map_facts_place ls (l.positionAfter p)
      cases hkind : l.kind? with
      | none => simp only [Token.place, hkind, facts?, Option.map_none, List.filterMap_cons, htail]
      | some kind =>
          simp only [Token.place, hkind, facts?, Option.map_some, List.filterMap_cons,
            List.map_cons, htail]
          rfl

theorem filterMap_facts?_makers (cs : List Char) :
    (makers cs).filterMap facts? = (ofSource cs).filterMap facts? := by
  rw [makers, List.filterMap_filter]
  refine List.filterMap_congr fun l _ => ?_
  cases hkind : l.kind? <;> simp [facts?, hkind]

/-- Blanks between lexemes make no tokens. -/
theorem filterMap_facts?_intersperse : ∀ ls : List Lexeme,
    (ls.intersperse blank).filterMap facts? = ls.filterMap facts?
  | [] | [_] => rfl
  | l :: m :: ls => by
      have htail := filterMap_facts?_intersperse (m :: ls)
      have hblank : facts? blank = none := rfl
      rw [List.intersperse_cons_cons, List.filterMap_cons, List.filterMap_cons, hblank]
      simp only [htail, List.filterMap_cons]

theorem map_text_place : ∀ (ls : List Lexeme) (p : Position),
    (Token.place p ls).map Token.text =
      (ls.filter (·.kind?.isSome)).map fun l => String.ofList l.chars
  | [], _ => rfl
  | l :: ls, p => by
      have htail := map_text_place ls (l.positionAfter p)
      cases hkind : l.kind? with
      | none => simp [Token.place, hkind, htail]
      | some kind => simp [Token.place, hkind, htail]

end Lexeme

/-- The texts of the tokens of a source, with one blank between each two. -/
def respace (source : String) : String :=
  " ".intercalate ((Stream.ofSource source).body.map Token.text)

theorem toList_respace (source : String) :
    (respace source).toList = Lexeme.spaced (Lexeme.makers source.toList) := by
  have hbody : (Stream.ofSource source).body.map Token.text =
      (Lexeme.makers source.toList).map fun l => String.ofList l.chars :=
    Lexeme.map_text_place _ _
  have hblank : " ".toList = [' '] := rfl
  rw [respace, hbody, String.toList_intercalate, hblank, List.map_map, Lexeme.spaced]
  congr 1
  refine List.map_congr_left fun l _ => ?_
  exact String.toList_ofList

theorem map_facts_respace (source : String) :
    (Stream.ofSource (respace source)).tokens.map Token.facts =
      (Stream.ofSource source).tokens.map Token.facts := by
  have hmakers : Lexeme.ofSource (respace source).toList =
      (Lexeme.makers source.toList).intersperse Lexeme.blank := by
    rw [toList_respace]
    exact Lexeme.ofSource_spaced fun l hl => Lexeme.makes_of_mem_makers _ hl
  simp only [Stream.tokens, Stream.ofSource, List.map_append, List.map_cons, List.map_nil,
    Lexeme.map_facts_place, hmakers, Lexeme.filterMap_facts?_intersperse,
    Lexeme.filterMap_facts?_makers]
  rfl

/-! ## LaTeX -/

/-- The token with these facts at the beginning of a source. -/
def Token.ofFacts (facts : Kind × String × Option Binary64) : Token :=
  ⟨facts.1, facts.2.1, .start, facts.2.2⟩

/-- Streams that differ in positions only are the same once all tokens are put at one place. -/
theorem Stream.move_eq_of_facts {s s' : Stream}
    (h : s.tokens.map Token.facts = s'.tokens.map Token.facts) :
    s.move (fun _ => .start) = s'.move (fun _ => .start) := by
  have hmove : ∀ ts : List Token,
      ts.map (Token.move fun _ => .start) = (ts.map Token.facts).map Token.ofFacts := by
    intro ts
    rw [List.map_map]
    rfl
  have htokens := (hmove s.tokens).trans ((congrArg (List.map Token.ofFacts) h).trans
    (hmove s'.tokens).symm)
  simp only [Stream.tokens, List.map_append, List.map_cons, List.map_nil] at htokens
  obtain ⟨hbody, hlast⟩ := List.append_inj' htokens rfl
  simp only [Stream.move, hbody, (List.cons.inj hlast).1]

namespace Parser

theorem moveVerdict_ok (g : Position → Position) (n : Node) :
    moveVerdict [] g (.ok n) = .ok n := by
  cases n <;> rfl

/-- Streams that differ in positions only are read alike: as the same document, or with faults
that differ in positions only. -/
theorem parse_of_facts {s s' : Stream}
    (h : s.tokens.map Token.facts = s'.tokens.map Token.facts) :
    (∃ n, parse s = .ok n ∧ parse s' = .ok n) ∨
    ∃ fault fault', parse s = .error fault ∧ parse s' = .error fault' ∧
      fault.move (fun _ => .start) = fault'.move (fun _ => .start) := by
  have hmove : moveVerdict [] (fun _ => .start) (parse s) =
      moveVerdict [] (fun _ => .start) (parse s') := by
    rw [← parse_move, ← parse_move, Stream.move_eq_of_facts h]
  cases hs : parse s with
  | ok n =>
      cases hs' : parse s' with
      | ok n' =>
          rw [hs, hs', moveVerdict_ok, moveVerdict_ok] at hmove
          cases hmove
          exact .inl ⟨n, rfl, rfl⟩
      | error fault' =>
          rw [hs, hs', moveVerdict_ok] at hmove
          cases hmove
  | error fault =>
      cases hs' : parse s' with
      | ok n' =>
          rw [hs, hs', moveVerdict_ok] at hmove
          cases hmove
      | error fault' =>
          rw [hs, hs'] at hmove
          exact .inr ⟨fault, fault', rfl, rfl, Except.error.inj hmove⟩

open Grammar in
/-- A stream is read as a document that its tokens spell, wherever they stand. -/
theorem parse_of_document {s : Stream} {w : List Token} {ns : List Node} (h : Document w ns)
    (hfacts : s.body.map Token.facts = w.map Token.facts) : parse s = .ok (.document ns) := by
  have hparse : parse ⟨w, s.last, s.last_kind⟩ = .ok (.document ns) := parse_complete h
  have hsame : (Stream.mk w s.last s.last_kind).tokens.map Token.facts =
      s.tokens.map Token.facts := by
    simp only [Stream.tokens, List.map_append, hfacts]
  rcases parse_of_facts hsame with ⟨n, hn, hs⟩ | ⟨fault, _, herror, -⟩
  · cases hparse.symm.trans hn
    exact hs
  · cases hparse.symm.trans herror

end Parser

namespace Typesetting

/-- What a diagnostic says, apart from the place. -/
theorem diagnostic_of_move {fault fault' : Fault}
    (h : fault.move (fun _ => .start) = fault'.move (fun _ => .start)) :
    fault.diagnostic.category = fault'.diagnostic.category ∧
      fault.diagnostic.message = fault'.diagnostic.message ∧
      fault.diagnostic.suggestion = fault'.diagnostic.suggestion := by
  have hdiagnostic := congrArg Fault.diagnostic h
  rw [Fault.diagnostic_move, Fault.diagnostic_move, Diagnostic.mk.injEq] at hdiagnostic
  obtain ⟨hcategory, hmessage, -, -, hsuggestion⟩ := hdiagnostic
  exact ⟨hcategory, hmessage, hsuggestion⟩

/-- A respaced source has the tokens of the source, apart from their positions.  So it has the
same LaTeX, or it fails with a diagnostic that says the same. -/
theorem respace_keeps_tokens_and_latex (source : String) :
    (Stream.ofSource (respace source)).tokens.map Token.facts =
      (Stream.ofSource source).tokens.map Token.facts ∧
    ∀ mode,
      (∃ tex, latex mode (respace source) = .ok tex ∧ latex mode source = .ok tex) ∨
      ∃ d d', latex mode (respace source) = .error (.diagnostic d) ∧
        latex mode source = .error (.diagnostic d') ∧ d.category = d'.category ∧
        d.message = d'.message ∧ d.suggestion = d'.suggestion := by
  have hfacts := map_facts_respace source
  refine ⟨hfacts, fun mode => ?_⟩
  rcases Parser.parse_of_facts hfacts with ⟨n, hrespaced, hsource⟩ |
    ⟨fault, fault', hrespaced, hsource, hfault⟩
  · obtain ⟨tex, htex⟩ := Parser.hasLatex_of_parse hsource mode
    simp only [latex, hrespaced, hsource, htex]
    exact .inl ⟨tex, rfl, rfl⟩
  · obtain ⟨hcategory, hmessage, hsuggestion⟩ := diagnostic_of_move hfault
    simp only [latex, hrespaced, hsource]
    exact .inr ⟨_, _, rfl, rfl, hcategory, hmessage, hsuggestion⟩

end Typesetting

end PlainMath
