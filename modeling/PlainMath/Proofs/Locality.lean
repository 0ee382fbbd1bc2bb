/-
# `Proofs.Locality` — a fault is reported where it is, whatever stands around it

Two texts with a line end between them.  If the first one has LaTeX, a fault of the second is
reported as it would be alone, so many lines further down.  If the first one is faulty, its fault
is reported as it would be alone, unless the second one has unbalanced brackets; only where the
input ended before, a line ends now, and the message says so.

    brackets    balanced tokens leave open brackets as they are    (`neutral_of_imbalance?`)
    reading     a fault of the second text                         (`parse_append_line_right`)
                a fault of the first text                          (`parse_append_line_left`)
    wording     one phrase for another, between quotes             (`Text.reworded_inQuotes`)
                what is said about a fault at the end of a line    (`Fault.Blames.facts_atLineEnd`)
    reports     both together                                      (`reports_line_by_line`)
-/
import Mathlib.Data.List.Infix
import PlainMath.Proofs.Lines
import PlainMath.Proofs.Reports

namespace PlainMath

/-! ## Brackets -/

namespace Openers

/-- These open brackets, opened after those of `base`. -/
def onto (o base : Openers) : Openers :=
  ⟨o.paren ++ base.paren, o.square ++ base.square, o.brace ++ base.brace⟩

theorem get_onto (o base : Openers) (b : Bracket) :
    (o.onto base).get b = o.get b ++ base.get b := by
  cases b <;> rfl

theorem set_onto (o base : Openers) (ts : List Token) (b : Bracket) :
    (o.onto base).set (ts ++ base.get b) b = (o.set ts b).onto base := by
  cases b <;> rfl

theorem onto_of_unclosed? {o : Openers} (h : o.unclosed? = none) (base : Openers) :
    o.onto base = base := by
  have hempty : ∀ b ∈ Bracket.all, o.get b = [] := by
    intro b hb
    have hlast := List.findSome?_eq_none_iff.mp h b hb
    rwa [Option.map_eq_none_iff, List.getLast?_eq_none_iff] at hlast
  have hparen : o.paren = [] := hempty .paren (by decide)
  have hsquare : o.square = [] := hempty .square (by decide)
  have hbrace : o.brace = [] := hempty .brace (by decide)
  simp [onto, hparen, hsquare, hbrace]

end Openers

namespace Grammar

/-- What balanced tokens open, on top of other open brackets, they also close. -/
theorem imbalanceFrom_onto : ∀ {ts : List Token} {o : Openers}, Token.imbalanceFrom o ts = none →
    ∀ base rest, Token.imbalanceFrom (o.onto base) (ts ++ rest) = Token.imbalanceFrom base rest
  | [], o, h, base, rest => by rw [Openers.onto_of_unclosed? h, List.nil_append]
  | t :: ts, o, h, base, rest => by
      simp only [List.cons_append, Token.imbalanceFrom] at h ⊢
      split
      · next b ht =>
          simp only [ht] at h
          rw [Openers.get_onto, ← List.cons_append, Openers.set_onto]
          exact imbalanceFrom_onto h base rest
      · next b ht =>
          simp only [ht] at h
          rw [Openers.get_onto]
          cases hopen : o.get b with
          | nil =>
              rw [hopen] at h
              cases h
          | cons u below =>
              rw [hopen] at h
              simp only [List.cons_append, Openers.set_onto]
              exact imbalanceFrom_onto h base rest
      · next ho hc =>
          split at h
          · next b ht => exact absurd ht (ho b)
          · next b ht => exact absurd ht (hc b)
          · exact imbalanceFrom_onto h base rest

theorem neutral_of_imbalance? {ts : List Token} (h : Token.imbalance? ts = none) : Neutral ts :=
  fun o rest => imbalanceFrom_onto h o rest

/-- Neutral tokens at the end change nothing. -/
theorem Neutral.imbalanceFrom_append {w : List Token} (hw : Neutral w) :
    ∀ (u : List Token) (o : Openers),
      Token.imbalanceFrom o (u ++ w) = Token.imbalanceFrom o u
  | [], o => by
      have h := hw o []
      rwa [List.append_nil] at h
  | t :: u, o => by
      simp only [List.cons_append, Token.imbalanceFrom]
      split
      · exact hw.imbalanceFrom_append u _
      · split
        · rfl
        · exact hw.imbalanceFrom_append u _
      · exact hw.imbalanceFrom_append u o

theorem neutral_last (s : Stream) : Neutral [s.last] :=
  neutral_singleton (by simp [s.last_kind]) (by simp [s.last_kind])

theorem neutral_lineEnd (source : String) : Neutral [Stream.lineEnd source] :=
  neutral_singleton nofun nofun

end Grammar

namespace Stream

theorem imbalance?_tokens (s : Stream) : Token.imbalance? s.tokens = Token.imbalance? s.body :=
  (Grammar.neutral_last s).imbalanceFrom_append s.body {}

theorem tokens_append_line (a b : String) :
    (ofSource (a ++ "\n" ++ b)).tokens =
      (ofSource a).body ++
        lineEnd a :: (ofSource b).tokens.map (Token.move (Position.down (lineCount a))) := by
  obtain ⟨hbody, hlast⟩ := ofSource_append_line a b
  simp [tokens, hbody, hlast]

theorem imbalance?_move (g : Position → Position) (ts : List Token) :
    Token.imbalance? (ts.map (Token.move g)) = (Token.imbalance? ts).map (Fault.move g) :=
  imbalanceFrom_move g {} ts

/-- Behind balanced tokens and a line end, brackets are tested as if they stood alone. -/
theorem imbalance?_append_line_right {a : String} (b : String)
    (ha : Token.imbalance? (ofSource a).tokens = none) :
    Token.imbalance? (ofSource (a ++ "\n" ++ b)).tokens =
      (Token.imbalance? (ofSource b).tokens).map (Fault.move (Position.down (lineCount a))) := by
  rw [imbalance?_tokens] at ha
  have hfront := (Grammar.neutral_of_imbalance? ha).append (Grammar.neutral_lineEnd a)
  have h := hfront {} ((ofSource b).tokens.map (Token.move (Position.down (lineCount a))))
  rw [List.append_assoc, List.singleton_append] at h
  rw [tokens_append_line, Token.imbalance?, h]
  exact imbalance?_move _ _

/-- A line end and balanced tokens behind it do not change the verdict on brackets. -/
theorem imbalance?_append_line_left (a : String) {b : String}
    (hb : Token.imbalance? (ofSource b).tokens = none) :
    Token.imbalance? (ofSource (a ++ "\n" ++ b)).tokens =
      Token.imbalance? (ofSource a).tokens := by
  have hmoved : Token.imbalance?
      ((ofSource b).tokens.map (Token.move (Position.down (lineCount a)))) = none := by
    rw [imbalance?_move, hb]
    rfl
  have hback := (Grammar.neutral_lineEnd a).append (Grammar.neutral_of_imbalance? hmoved)
  rw [imbalance?_tokens (ofSource a), tokens_append_line]
  exact hback.imbalanceFrom_append _ _

end Stream

/-! ## Reading -/

/-- The end of a line where the end of the input was. -/
def Token.atLineEnd (t : Token) : Token :=
  if t.kind = .eof then { t with kind := .newline, text := "\n" } else t

/-- The fault with the end of a line where the end of the input was. -/
def Fault.atLineEnd : Fault → Fault
  | .unmatched b t => .unmatched b t.atLineEnd
  | .unclosed b t => .unclosed b t.atLineEnd
  | .unexpected t => .unexpected t.atLineEnd
  | .noArguments t => .noArguments t.atLineEnd
  | .missing what t => .missing what t.atLineEnd
  | .arity t accepted count => .arity t.atLineEnd accepted count

theorem Token.atLineEnd_of_ne {t : Token} (h : t.kind ≠ .eof) : t.atLineEnd = t := if_neg h

theorem Token.atLineEnd_position (t : Token) : t.atLineEnd.position = t.position := by
  unfold Token.atLineEnd
  split <;> rfl

theorem Fault.token_atLineEnd (fault : Fault) : fault.atLineEnd.token = fault.token.atLineEnd := by
  cases fault <;> rfl

theorem Fault.atLineEnd_of_ne {fault : Fault} (h : fault.token.kind ≠ .eof) :
    fault.atLineEnd = fault := by
  cases fault <;> rw [Fault.token] at h <;> rw [Fault.atLineEnd, Token.atLineEnd_of_ne h]

theorem Stream.atLineEnd_last (source : String) :
    (ofSource source).last.atLineEnd = lineEnd source := by
  simp only [Token.atLineEnd, (ofSource source).last_kind, if_true]
  rfl

namespace Parser

/-- Where a document may not end, the end of a line is as wrong as the end of the input. -/
theorem verdict_atLineEnd {s : State} {e : Token} {fault : Fault}
    (hholds : Holds (·.kind ≠ .eof) s) (hfinished : s.finished? = none)
    (h : s.verdict e = .error fault) : s.verdict e.atLineEnd = .error fault.atLineEnd := by
  obtain ⟨goal, fs, phase⟩ := s
  obtain ⟨hfs, hphase⟩ := hholds
  cases phase with
  | operand =>
      cases goal with
      | rule level =>
          cases h
          rfl
      | document ns =>
          cases fs with
          | nil => cases hfinished
          | cons frame fs =>
              cases h
              rfl
  | firstArgument function name =>
      cases h
      rfl
  | argumentList function name =>
      cases h
      have hne : (Fault.noArguments function).token.kind ≠ .eof := hphase.1
      exact congrArg Except.error (Fault.atLineEnd_of_ne hne).symm
  | faulty fault =>
      cases h
      exact congrArg Except.error (Fault.atLineEnd_of_ne hphase.token).symm
  | operator n =>
      simp only [State.verdict] at h ⊢
      cases hclose : closeAll n fs with
      | mk m gs =>
          rw [hclose] at h
          cases gs with
          | nil =>
              cases goal with
              | rule level => cases h
              | document ns => simp [State.finished?, hclose] at hfinished
          | cons frame gs =>
              cases frame with
              | group | arguments | inlineMath | displayMath =>
                  cases h
                  rfl
              | additive | multiplicative | sign | power => cases h

/-- A fault before a line end is found as if the input ended there. -/
theorem run_newline_error {e : Token} (he : e.kind = .eof) (last : Token) (rest : List Token)
    {s : State} {ts : List Token} {fault : Fault} (hts : ∀ t ∈ ts, t.kind ≠ .eof) :
    ∀ {w : List Token}, Read s w → Holds (·.kind ≠ .eof) s →
      (State.run e s ts).1 = .error fault →
      (State.run last s (ts ++ e.atLineEnd :: rest)).1 = .error fault.atLineEnd := by
  have hnewline : e.atLineEnd.kind = .newline := by simp [Token.atLineEnd, he]
  fun_induction State.run e s ts with
  | case1 s =>
      intro w hread hholds h
      obtain ⟨ms, hgoal⟩ := hread.goal
      cases hfinished : s.finished? with
      | some ns =>
          simp only [verdict_of_finished hfinished, endOfExpressions, he] at h
          cases h
      | none =>
          have hnext := next?_newline hgoal hnewline
          rw [hfinished, Option.map_none] at hnext
          simp only [List.nil_append, State.run, hnext]
          exact verdict_atLineEnd hholds hfinished h
  | case2 s t ts s' hnext ih =>
      intro w hread hholds h
      rw [List.forall_mem_cons] at hts
      simp only [List.cons_append, State.run, hnext]
      exact ih hts.2 (hread.next hnext) (hholds.next hts.1 hnext) h
  | case3 s t ts hnext =>
      intro w hread hholds h
      rw [List.forall_mem_cons] at hts
      have hblames := hholds.verdict hts.1 h
      simp only [List.cons_append, State.run, hnext, Fault.atLineEnd_of_ne hblames.token]
      exact h

theorem kind_ne_eof_of_body (source : String) :
    ∀ t ∈ (Stream.ofSource source).body, t.kind ≠ .eof :=
  fun _ => Token.kind_ne_eof_of_mem_body

/-- A fault behind a text that can be read is found as it would be alone, further down. -/
theorem parse_append_line_right {a b : String} {n : Node} {fault : Fault}
    (ha : parse (.ofSource a) = .ok n) (hb : parse (.ofSource b) = .error fault) :
    parse (.ofSource (a ++ "\n" ++ b)) =
      .error (fault.move (Position.down (Stream.lineCount a))) := by
  have hrun := run_of_parse ha
  rw [parse_eq] at ha hb
  cases hbalance : Token.imbalance? (Stream.ofSource a).tokens with
  | some fault' =>
      rw [hbalance] at ha
      cases ha
  | none =>
      rw [parse_eq, Stream.imbalance?_append_line_right b hbalance]
      cases hbrackets : Token.imbalance? (Stream.ofSource b).tokens with
      | some fault' =>
          rw [hbrackets] at hb
          cases hb
          rfl
      | none =>
          simp only [hbrackets] at hb
          obtain ⟨hbody, hlast⟩ := Stream.ofSource_append_line a b
          rw [Option.map_none, hbody, hlast]
          have hnewline : (Stream.lineEnd a).kind = .newline := rfl
          rcases run_append_newline (Stream.ofSource a).last_kind hnewline _ _
              (kind_ne_eof_of_body a) Read.start with ⟨ns, -, hrest⟩ | ⟨fault', -, hfails, -⟩
          · rw [hrest, start_eq_move ns, run_move ns _ Read.start, hb]
            rfl
          · rw [hrun] at hfails
            cases hfails

/-- A fault before a line end and balanced tokens is found as it would be alone. -/
theorem parse_append_line_left {a b : String} {fault : Fault}
    (ha : parse (.ofSource a) = .error fault)
    (hb : Token.imbalance? (Stream.ofSource b).tokens = none) :
    parse (.ofSource (a ++ "\n" ++ b)) = .error fault.atLineEnd := by
  rw [parse_eq] at ha ⊢
  rw [Stream.imbalance?_append_line_left a hb]
  cases hbalance : Token.imbalance? (Stream.ofSource a).tokens with
  | some fault' =>
      rw [hbalance] at ha
      cases ha
      -- a bracket is blamed, which is no end of the input
      rw [Stream.imbalance?_tokens] at hbalance
      have hblames := imbalanceFrom_blames (o := {}) (fun b t ht => by cases b <;> cases ht)
        (kind_ne_eof_of_body a) hbalance
      exact congrArg Except.error (Fault.atLineEnd_of_ne hblames.token).symm
  | none =>
      simp only [hbalance] at ha ⊢
      obtain ⟨hbody, hlast⟩ := Stream.ofSource_append_line a b
      have hstart : Holds (·.kind ≠ .eof) (.start (.document [])) :=
        ⟨by simp [State.start], trivial⟩
      rw [hbody, hlast, ← Stream.atLineEnd_last]
      exact run_newline_error (Stream.ofSource a).last_kind _ _ (kind_ne_eof_of_body a) Read.start
        hstart ha

end Parser

/-! ## Wording -/

namespace Text

/-- Puts one phrase for another, wherever it occurs.  The first `skip` characters belong to an
occurrence that was replaced already. -/
def replaceFrom (old new : List Char) : Nat → List Char → List Char
  | _, [] => []
  | skip + 1, _ :: cs => replaceFrom old new skip cs
  | 0, c :: cs =>
    if old.isPrefixOf (c :: cs) then new ++ replaceFrom old new (old.length - 1) cs
    else c :: replaceFrom old new 0 cs

/-- The text with one phrase for another. -/
def replace (old new s : String) : String :=
  String.ofList (replaceFrom old.toList new.toList 0 s.toList)

section Replace
variable {old : List Char} (new : List Char)

theorem replaceFrom_of_not_infix : ∀ {cs : List Char}, ¬old <:+: cs →
    replaceFrom old new 0 cs = cs
  | [], _ => rfl
  | c :: cs, h => by
      have hprefix : ¬old.isPrefixOf (c :: cs) = true :=
        fun hp => h (List.isPrefixOf_iff_prefix.mp hp).isInfix
      have htail : ¬old <:+: cs := fun hi => h (hi.trans (List.suffix_cons c cs).isInfix)
      rw [replaceFrom, if_neg hprefix, replaceFrom_of_not_infix htail]

/-- A phrase does not reach over a character that it does not hold. -/
theorem isPrefixOf_append_cons {sep : Char} (hsep : sep ∉ old) (u v : List Char) :
    old.isPrefixOf (u ++ sep :: v) = old.isPrefixOf u := by
  rw [Bool.eq_iff_iff, List.isPrefixOf_iff_prefix, List.isPrefixOf_iff_prefix]
  refine ⟨fun h => ?_, fun h => h.trans (List.prefix_append u _)⟩
  rcases List.prefix_or_prefix_of_prefix h (List.prefix_append u (sep :: v)) with hu | hu
  · exact hu
  · obtain ⟨w, rfl⟩ := hu
    rw [List.prefix_append_right_inj] at h
    cases w with
    | nil => simp
    | cons c w =>
        obtain ⟨rfl, -⟩ := List.cons_prefix_cons.mp h
        simp at hsep

/-- What is on either side of such a character is replaced by itself. -/
theorem replaceFrom_append_cons {sep : Char} (hsep : sep ∉ old) (hne : old ≠ [])
    (v : List Char) : ∀ {u : List Char} {skip : Nat}, skip ≤ u.length →
    replaceFrom old new skip (u ++ sep :: v) =
      replaceFrom old new skip u ++ sep :: replaceFrom old new 0 v
  | [], 0, _ => by
      have hprefix : ¬old.isPrefixOf (sep :: v) = true := by
        rw [← List.nil_append (sep :: v), isPrefixOf_append_cons hsep, List.isPrefixOf_iff_prefix,
          List.prefix_nil]
        exact hne
      simp only [List.nil_append, replaceFrom, if_neg hprefix]
  | c :: u, skip + 1, h => by
      rw [List.cons_append, replaceFrom, replaceFrom]
      exact replaceFrom_append_cons hsep hne v (Nat.le_of_succ_le_succ h)
  | c :: u, 0, _ => by
      rw [List.cons_append, replaceFrom, replaceFrom, ← List.cons_append,
        isPrefixOf_append_cons hsep]
      split
      · next hprefix =>
          have hle := (List.isPrefixOf_iff_prefix.mp hprefix).length_le
          rw [List.length_cons] at hle
          rw [replaceFrom_append_cons hsep hne v (by omega), List.append_assoc]
      · rw [replaceFrom_append_cons hsep hne v (Nat.zero_le _), List.cons_append]

end Replace

/-- The text with the end of a line for the end of the input, wherever that is mentioned. -/
def reworded (s : String) : String := replace "end of input" "end of line" s

theorem reworded_of_not_mem {c : Char} (hc : c ∈ "end of input".toList) {s : String}
    (h : c ∉ s.toList) : reworded s = s := by
  have hinfix : ¬"end of input".toList <:+: s.toList := fun hi => h (hi.subset hc)
  rw [reworded, replace, replaceFrom_of_not_infix _ hinfix, String.ofList_toList]

/-- What is on either side of a sign that stands in no such mention is reworded by itself. -/
theorem reworded_sign (sign : String) {c : Char} (hsign : sign.toList = [c])
    (hc : c ∉ "end of input".toList) (a b : String) :
    reworded (a ++ sign ++ b) = reworded a ++ sign ++ reworded b := by
  have hchars : (a ++ sign ++ b).toList = a.toList ++ c :: b.toList := by simp [hsign]
  apply String.toList_inj.mp
  rw [reworded, replace, hchars, replaceFrom_append_cons _ hc (by decide) _ (Nat.zero_le _)]
  simp [reworded, replace, hsign]

theorem reworded_inQuotes {s : String} (h : ' ' ∉ s.toList) (a b : String) :
    reworded (a ++ Fault.inQuotes s ++ b) = reworded a ++ Fault.inQuotes s ++ reworded b := by
  have hs : reworded s = s := reworded_of_not_mem (by decide) h
  have hquotes : ∀ a b : String, a ++ Fault.inQuotes s ++ b = a ++ "'" ++ (s ++ "'" ++ b) := by
    simp [Fault.inQuotes, String.append_assoc]
  rw [hquotes, reworded_sign "'" rfl (by decide), reworded_sign "'" rfl (by decide), hs, hquotes]

/-- The same at the end of a text. -/
theorem reworded_inQuotes_last {s : String} (h : ' ' ∉ s.toList) (a : String) :
    reworded (a ++ Fault.inQuotes s) = reworded a ++ Fault.inQuotes s := by
  have hlast := reworded_inQuotes h a ""
  rwa [show reworded "" = "" from rfl, String.append_empty, String.append_empty] at hlast

end Text

/-! ## What is said at the end of a line -/

/-- The report with the end of a line for the end of the input. -/
def Report.atLineEnd (r : Report) : Report := { r with message := Text.reworded r.message }

theorem Category.name_onToken (c : Category) (t : Token) : (c.onToken t).name = c.name := by
  cases c <;> rfl

theorem Diagnostic.facts_onToken (c : Category) (t : Token) (message : String)
    (suggestion : Option String) :
    (Diagnostic.onToken c t message suggestion).facts =
      ⟨c.name, message, t.position, none, suggestion⟩ := by
  simp only [Diagnostic.facts, Diagnostic.onToken, Category.name_onToken]

theorem Token.describe_of_not_isEnd {t : Token} (h : ¬t.IsEnd) :
    t.describe = Fault.inQuotes t.text := by
  unfold Token.describe
  split
  · next hkind => exact absurd (.inr hkind) h
  · next hkind => exact absurd (.inl hkind) h
  · rfl

open Text

section Messages
variable {P : Token → Prop} (hP : ∀ t, P t → ' ' ∉ t.text.toList)
include hP

/-- A token is named as before, but for the end of the input. -/
theorem reworded_found {t : Token} (ht : P t) (a : String) :
    reworded (a ++ ", found " ++ t.describe) =
      reworded a ++ ", found " ++ t.atLineEnd.describe := by
  have hcomma : ∀ a b : String, a ++ ", found " ++ b = a ++ "," ++ (" found " ++ b) := by
    intro a b
    rw [show ", found " = "," ++ " found " from rfl]
    simp only [String.append_assoc]
  rw [hcomma, hcomma, reworded_sign "," rfl (by decide)]
  congr 1
  by_cases hend : t.IsEnd
  · rcases hend with hkind | hkind
    · rw [Token.atLineEnd_of_ne (by simp [hkind])]
      simp only [Token.describe, hkind]
      rfl
    · simp only [Token.atLineEnd, Token.describe, hkind, if_true]
      rfl
  · rw [Token.atLineEnd_of_ne fun hkind => hend (.inr hkind), Token.describe_of_not_isEnd hend]
    exact reworded_inQuotes_last (hP t ht) " found "

theorem reworded_expectation {what : Expectation} {t : Token}
    (h : (Fault.missing what t).Blames P) : reworded what.message = what.message := by
  cases what with
  | groupEnd | inlineEnd | displayEnd => rfl
  | argumentsEnd name =>
      obtain ⟨-, f, hf, rfl⟩ := h
      have hquote : "Expected ')' after arguments of '" =
          "Expected ')' after arguments of " ++ "'" := rfl
      have hmessage : (Expectation.argumentsEnd f.text).message =
          "Expected ')' after arguments of " ++ Fault.inQuotes f.text := by
        show "Expected ')' after arguments of '" ++ f.text ++ "'" = _ ++ ("'" ++ f.text ++ "'")
        rw [hquote, String.append_assoc, String.append_assoc, String.append_assoc]
      rw [hmessage, reworded_inQuotes_last (hP f hf.1)]
      rfl
  | stated message => exact h.2.elim

/-- At the end of a line the same is said as at the end of the input, but for these words. -/
theorem Fault.Blames.facts_atLineEnd {fault : Fault} (h : fault.Blames P) :
    fault.atLineEnd.diagnostic.facts = fault.diagnostic.facts.atLineEnd := by
  cases fault with
  | unmatched b t | unclosed b t =>
      simp only [Fault.atLineEnd, Fault.diagnostic, Diagnostic.facts_onToken,
        Token.atLineEnd_position, Report.atLineEnd]
      cases b <;> rfl
  | unexpected t =>
      by_cases hend : t.IsEnd
      · rcases hend with hkind | hkind
        · rw [Fault.atLineEnd, Token.atLineEnd_of_ne (by simp [hkind])]
          simp only [Fault.diagnostic, Token.describe, hkind, Diagnostic.facts_onToken,
            Report.atLineEnd]
          rfl
        · simp only [Fault.atLineEnd, Fault.diagnostic, Token.atLineEnd, Token.describe, hkind,
            if_true, Diagnostic.facts_onToken, Report.atLineEnd]
          rfl
      · have heof : t.kind ≠ .eof := fun hkind => hend (.inr hkind)
        have htoken := reworded_inQuotes_last (hP t h) "Unexpected token "
        rw [Fault.atLineEnd, Token.atLineEnd_of_ne heof]
        simp only [Fault.diagnostic, Token.describe_of_not_isEnd hend]
        split
        · next hkind => exact absurd hkind heof
        · next hkind => exact absurd (.inl hkind) hend
        all_goals
          simp only [Diagnostic.facts_onToken, Report.atLineEnd, htoken]
          rfl
  | noArguments t =>
      obtain ⟨ht, f, hf⟩ := h
      have htext := reworded_inQuotes_last (hP t ht) "Expected '(' after function name "
      rw [Fault.atLineEnd, Token.atLineEnd_of_ne (by simp [hf])]
      simp only [Fault.diagnostic, Diagnostic.facts_onToken, Report.atLineEnd, htext]
      rfl
  | missing what t =>
      have hwhat := reworded_expectation hP h
      simp only [Fault.atLineEnd, Fault.diagnostic, Diagnostic.facts_onToken,
        Token.atLineEnd_position, Report.atLineEnd, reworded_found hP h.1, hwhat]
  | arity t accepted count =>
      obtain ⟨ht, f, hf⟩ := h
      have hassoc : ∀ s : String, "Function " ++ s ++ " expects " ++ accepted.describe ++
          ", but got " ++ toString count =
            "Function " ++ s ++ (" expects " ++ accepted.describe ++ ", but got " ++
              toString count) := by
        intro s
        simp only [String.append_assoc]
      have hrest : reworded (" expects " ++ accepted.describe ++ ", but got " ++ toString count) =
          " expects " ++ accepted.describe ++ ", but got " ++ toString count := by
        refine reworded_of_not_mem (c := 'd') (by decide) ?_
        have hdescribe := accepted.not_mem_describe (c := 'd') (by decide) (by decide) (by decide)
        have hcount := not_mem_toString (c := 'd') (by decide) (by decide) count
        simp only [String.toList_append, List.mem_append, not_or]
        exact ⟨⟨⟨by decide, hdescribe⟩, by decide⟩, hcount⟩
      rw [Fault.atLineEnd, Token.atLineEnd_of_ne (by simp [hf])]
      simp only [Fault.diagnostic, Diagnostic.facts_onToken, Report.atLineEnd, hassoc,
        reworded_inQuotes (hP t ht), hrest]
      rfl

end Messages

/-! ## Reports -/

/-- The report so many lines further down. -/
def Report.down (lines : Int) (r : Report) : Report := { r with position := r.position.down lines }

/-- No token stands below the last line of its source. -/
theorem Token.line_le {source : String} {t : Token} (ht : t ∈ Token.ofSource source) :
    t.position.line ≤ 1 + source.toList.count '\n' := by
  obtain ⟨front, rest, h⟩ := exists_stands ht
  rw [h.position, h.chars, List.count_append]
  simp only [positionBehind]
  omega

/-- The end of the input stands behind every line end. -/
theorem Stream.lineCount_eq (source : String) :
    lineCount source = 1 + source.toList.count '\n' := by
  have hlast : (ofSource source).last ∈ Token.ofSource source :=
    List.mem_append_right _ (List.mem_singleton_self _)
  obtain ⟨front, rest, h⟩ := Token.exists_stands hlast
  obtain ⟨htext, rfl⟩ := h.eof (ofSource source).last_kind
  have hchars := h.chars
  rw [htext, List.append_nil, List.append_nil] at hchars
  rw [lineCount, h.position, hchars]
  rfl

namespace Typesetting

/-- Typesetting the source ends with this report. -/
def Reports (options : Options) (source : String) (report : Report) : Prop :=
  ∃ logged, run options source = .ok logged ∧ logged.value.result = .error report

theorem reports_iff {options : Options} {source : String} {report : Report} :
    Reports options source report ↔
      ∃ fault, Parser.parse (.ofSource source) = .error fault ∧
        report = (located source fault).facts := by
  unfold Reports run
  cases hparse : Parser.parse (.ofSource source) with
  | ok document =>
      obtain ⟨tex, htex⟩ := Parser.hasLatex_of_parse hparse options.mode
      simp [hparse, htex]
  | error fault =>
      obtain ⟨hline, hcolumn⟩ := one_le_position_located hparse
      have hreport := Report.ofDiagnostic_eq hline hcolumn
      simp only [hparse, hreport, Except.ok.injEq, Except.error.injEq, exists_eq_left']
      exact eq_comm

theorem facts_located (source : String) (fault : Fault) :
    (located source fault).facts =
      { fault.diagnostic.facts with
        sourceLine := Text.line? source fault.token.position.line } := by
  rw [← fault.diagnostic_position]
  rfl

/-- What is said about a fault behind another text and a line end. -/
theorem facts_located_right {a b : String} {fault : Fault}
    (hb : Parser.parse (.ofSource b) = .error fault) :
    (located (a ++ "\n" ++ b) (fault.move (Position.down (Stream.lineCount a)))).facts =
      (located b fault).facts.down (1 + a.toList.count '\n') := by
  have hline := (Token.one_le_position (Parser.parse_blames hb).token).1
  rw [facts_located, facts_located, Fault.token_move, Stream.lineCount_eq, Fault.diagnostic_move]
  simp only [Token.move, Position.down, Text.line?_append_right hline]
  rfl

/-- What is said about a fault before a line end and another text. -/
theorem facts_located_left {a : String} (b : String) {fault : Fault}
    (ha : Parser.parse (.ofSource a) = .error fault) :
    (located (a ++ "\n" ++ b) fault.atLineEnd).facts = (located a fault).facts.atLineEnd := by
  have hblames := Parser.parse_blames ha
  have hline := Token.line_le hblames.token
  have hfacts := hblames.facts_atLineEnd fun t ht => Token.gap_not_mem ht (by decide)
  rw [facts_located, facts_located, Fault.token_atLineEnd, Token.atLineEnd_position, hfacts,
    Text.line?_append_left hline]
  rfl

/-- Faults are reported where they are.  Behind a text that has LaTeX and a line end, a text is
reported as it is alone, so many lines further down.  Before a line end and a text with balanced
brackets, a text is reported as it is alone, but for the end of the line where the input ended. -/
theorem reports_line_by_line (options : Options) (a b : String) :
    (∀ latex report, Typesets options a latex → Reports options b report →
      Reports options (a ++ "\n" ++ b) (report.down (1 + a.toList.count '\n'))) ∧
    ∀ report, Reports options a report → Token.imbalance? (Token.ofSource b) = none →
      Reports options (a ++ "\n" ++ b) report.atLineEnd := by
  constructor
  · intro latex report ha hb
    obtain ⟨document, hreads, -⟩ := typesets_iff.mp ha
    obtain ⟨fault, hfails, rfl⟩ := reports_iff.mp hb
    exact reports_iff.mpr
      ⟨_, Parser.parse_append_line_right hreads hfails, (facts_located_right hfails).symm⟩
  · intro report ha hbalanced
    obtain ⟨fault, hfails, rfl⟩ := reports_iff.mp ha
    exact reports_iff.mpr
      ⟨_, Parser.parse_append_line_left hfails hbalanced, (facts_located_left b hfails).symm⟩

/-- A sum without its second term, behind two lines and before a third one. -/
theorem reports_line_by_line_sum : ∃ report,
    Reports ⟨.inline, false⟩ "2 +" report ∧ report.position = ⟨1, 4⟩ ∧
      report.message = "Unexpected end of input, expected an expression" ∧
      Reports ⟨.inline, false⟩ ("x\ny" ++ "\n" ++ "2 +") (report.down 2) ∧
      Reports ⟨.inline, false⟩ ("2 +" ++ "\n" ++ "x") report.atLineEnd ∧
      report.atLineEnd.message = "Unexpected end of line, expected an expression" := by
  have hfails : ∃ report, Reports ⟨.inline, false⟩ "2 +" report ∧ report.position = ⟨1, 4⟩ ∧
      report.message = "Unexpected end of input, expected an expression" :=
    ⟨_, ⟨_, rfl, rfl⟩, rfl, rfl⟩
  obtain ⟨report, hreports, hposition, hmessage⟩ := hfails
  have hlatex : ∃ latex, Typesets ⟨.inline, false⟩ "x\ny" latex := ⟨_, _, rfl, rfl⟩
  obtain ⟨latex, hlatex⟩ := hlatex
  refine ⟨report, hreports, hposition, hmessage,
    (reports_line_by_line _ "x\ny" "2 +").1 latex report hlatex hreports,
    (reports_line_by_line _ "2 +" "x").2 report hreports rfl, ?_⟩
  rw [Report.atLineEnd, hmessage]
  rfl

end Typesetting

end PlainMath
