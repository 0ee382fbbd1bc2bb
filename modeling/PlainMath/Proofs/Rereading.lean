/-
# `Proofs.Rereading` — the LaTeX of plain arithmetic can be read again

Numbers, names, the four operators, signs and parentheses are typeset as they can be written in a
source.  So the LaTeX of such an expression is itself a source, and its LaTeX is the same text.
The tree need not be the same: a number beyond all finite ones is typeset as the name `inf`.

    where a word, a numeral and a sign end             (`ofSource_word`, `ofSource_number`,
                                                        `ofSource_symbol`)
    the tokens of a text, whatever may stand behind it (`Lexes`)
    the LaTeX of a tree has tokens that spell a tree
    with the same LaTeX                                (`Derives.rereads`)
-/
import PlainMath.Proofs.Respacing
import PlainMath.Proofs.Spelling

namespace PlainMath

namespace Lexeme

open Text (run run_append_of_stop take_run drop_run)

/-! ## The first lexeme of a text -/

/-- The characters that have a rule before those of numerals, words and signs. -/
def special : List Char := ['#', '/', '\n', ' ', '\t', '\r', '\\', '$']

theorem reach_of_not_special {c : Char} (h : c ∉ special) (cs : List Char) :
    reach c cs =
      if c.isDigit then (.number, numberReach cs)
      else if isWordStart c then (.word, run isWordPart cs)
      else if (symbolKind? c).isSome then (.symbol, 0)
      else (.other, 0) := by
  simp only [special, List.mem_cons, List.not_mem_nil, or_false, not_or] at h
  obtain ⟨hhash, hbar, hnewline, hblank, htab, hreturn, hbackslash, hdollar⟩ := h
  simp [reach, isGap, hhash, hbar, hnewline, hblank, htab, hreturn, hbackslash, hdollar]

theorem not_mem_special {p : Char → Bool} (hp : special.any p = false) {c : Char}
    (hc : p c = true) : c ∉ special :=
  fun hmem => List.any_eq_false.mp hp c hmem hc

/-- A lexeme takes these characters and leaves the rest. -/
theorem ofSource_of_reach {c : Char} {cs x : List Char} {form : Form}
    (h : reach c (cs ++ x) = (form, cs.length)) :
    ofSource (c :: (cs ++ x)) = ⟨form, c :: cs⟩ :: ofSource x := by
  rw [ofSource_cons, first, behind, h, List.take_left, List.drop_left]

/-- What may stand behind an operand: the end, a blank or a parenthesis. -/
def Ends (x : List Char) : Prop := ∀ c ∈ x.head?, c = ' ' ∨ c = ')'

theorem ends_nil : Ends [] := nofun

theorem ends_blank (x : List Char) : Ends (' ' :: x) := by
  rintro c ⟨⟩
  exact .inl rfl

theorem ends_paren (x : List Char) : Ends (')' :: x) := by
  rintro c ⟨⟩
  exact .inr rfl

theorem Ends.stop {x : List Char} (hx : Ends x) {p : Char → Bool} (hblank : p ' ' = false)
    (hparen : p ')' = false) : ∀ c ∈ x.head?, p c = false := by
  intro c hc
  rcases hx c hc with rfl | rfl
  · exact hblank
  · exact hparen

theorem ofSource_word {cs x : List Char} (hcs : isWord cs = true) (hx : Ends x) :
    ofSource (cs ++ x) = ⟨.word, cs⟩ :: ofSource x := by
  obtain ⟨c, rest, rfl, hc, hrest⟩ := isWord_iff.mp hcs
  have hdigit : c.isDigit = false := by
    rw [Bool.eq_false_iff]
    intro hdigit
    rw [Node.isWordStart_of_isDigit hdigit] at hc
    cases hc
  refine ofSource_of_reach ?_
  rw [reach_of_not_special (not_mem_special rfl hc), hdigit, hc,
    run_append_of_stop hrest (hx.stop (by decide) (by decide))]
  rfl

/-- A sign is a lexeme by itself, unless two bars begin a comment. -/
theorem ofSource_symbol {c : Char} {kind : Kind} (hc : symbolKind? c = some kind) {x : List Char}
    (hx : c = '/' → x.head? ≠ some '/') : ofSource (c :: x) = ⟨.symbol, [c]⟩ :: ofSource x := by
  have hreach : reach c ([] ++ x) = (.symbol, 0) := by
    by_cases hbar : c = '/'
    · subst hbar
      simp [reach, hx rfl, isGap, isWordStart, hc]
    · have hsymbols : ∀ p ∈ symbols, p.1 ≠ '/' →
          p.1 ∉ special ∧ p.1.isDigit = false ∧ isWordStart p.1 = false := by decide
      obtain ⟨hspecial, hdigit, hword⟩ := hsymbols _ (lookup_mem hc) hbar
      rw [reach_of_not_special hspecial, hdigit, hword, hc]
      rfl
  exact ofSource_of_reach hreach

/-! ## Numerals -/

section Numeral
open Decimal

theorem fractionReach_append {f fs y : List Char} (hf : SpellsFraction f fs)
    (hdigit : NoDigitFirst y) (hpoint : y.head? ≠ some '.') :
    fractionReach (f ++ y) = f.length := by
  cases hf with
  | absent =>
      cases y with
      | nil => rfl
      | cons c y =>
          have hc : c ≠ '.' := fun hc => hpoint (congrArg some hc)
          simp [fractionReach, hc]
  | point hds =>
      have hrun := run_append_of_stop hds.2 hdigit
      simp [fractionReach, hrun, hds.1]

/-- The digits of an exponent, with or without a sign before them. -/
theorem exponentDigitsReach_append {ds x : List Char} (hds : IsDigits ds) (hx : Ends x) :
    exponentDigitsReach (ds ++ x) = ds.length ∧
      ∀ s, s = '+' ∨ s = '-' → exponentDigitsReach (s :: (ds ++ x)) = ds.length + 1 := by
  have hrun := run_append_of_stop hds.2 (hx.stop (p := Char.isDigit) (by decide) (by decide))
  constructor
  · obtain ⟨d, rest, rfl, hd⟩ := hds.first
    have hsign : (d == '+' || d == '-') = false := by
      rw [Bool.eq_false_iff]
      simp only [ne_eq, Bool.or_eq_true, beq_iff_eq]
      rintro (rfl | rfl) <;> cases hd
    rw [List.cons_append] at hrun ⊢
    simp only [exponentDigitsReach, hsign]
    exact hrun
  · rintro s (rfl | rfl) <;> simp [exponentDigitsReach, hrun, hds.1]

theorem exponentReach_append {e x : List Char} {value : Int} (he : SpellsExponent e value)
    (hx : Ends x) : exponentReach (e ++ x) = e.length := by
  have hmarked : ∀ {mark : Char} {r : List Char} {k : Nat}, mark = 'e' ∨ mark = 'E' →
      exponentDigitsReach r = k → k ≠ 0 → exponentReach (mark :: r) = k + 1 := by
    rintro mark r k (rfl | rfl) rfl hk <;> simp [exponentReach, hk]
  cases he with
  | absent =>
      cases x with
      | nil => rfl
      | cons c x => rcases hx c rfl with rfl | rfl <;> rfl
  | unsigned hmark hds =>
      exact hmarked hmark (exponentDigitsReach_append hds hx).1 (by simpa using hds.1)
  | plus hmark hds =>
      exact hmarked hmark ((exponentDigitsReach_append hds hx).2 _ (.inl rfl)) (Nat.succ_ne_zero _)
  | minus hmark hds =>
      exact hmarked hmark ((exponentDigitsReach_append hds hx).2 _ (.inr rfl)) (Nat.succ_ne_zero _)

/-- Behind the fraction of a numeral there is no other digit and no other point. -/
theorem exponent_head {e x : List Char} {value : Int} (he : SpellsExponent e value)
    (hx : Ends x) : NoDigitFirst (e ++ x) ∧ (e ++ x).head? ≠ some '.' := by
  rcases he.cases with ⟨rfl, -⟩ | ⟨mark, r, rfl, hmark, -⟩
  · refine ⟨hx.stop (by decide) (by decide), fun hpoint => ?_⟩
    rcases hx _ hpoint with h | h <;> cases h
  · rcases hmark with rfl | rfl <;> simp [NoDigitFirst]

/-- A numeral is one lexeme, with its point and with the sign of its exponent. -/
theorem ofSource_number {cs x : List Char} {d : Decimal} (hcs : Spells cs d) (hx : Ends x) :
    ofSource (cs ++ x) = ⟨.number, cs⟩ :: ofSource x := by
  obtain @⟨whole, f, fs, e, value, hwhole, hf, he⟩ := hcs
  obtain ⟨c, rest, rfl, hc⟩ := hwhole.first
  have hrest : ∀ d ∈ rest, d.isDigit = true := fun d hd => hwhole.2 d (List.mem_cons_of_mem c hd)
  obtain ⟨hdigit, hpoint⟩ := exponent_head he hx
  have hdigit' : NoDigitFirst (f ++ (e ++ x)) := by
    cases hf with
    | absent => exact hdigit
    | point _ => simp [NoDigitFirst]
  -- each part of the numeral ends where the next one, or what stands behind, begins
  have hwholeReach := run_append_of_stop hrest hdigit'
  have hfractionReach := fractionReach_append hf hdigit hpoint
  have hexponentReach := exponentReach_append he hx
  have hreach : numberReach (rest ++ (f ++ e) ++ x) = (rest ++ (f ++ e)).length := by
    have hassoc : rest ++ (f ++ e) ++ x = rest ++ (f ++ (e ++ x)) := by simp
    rw [hassoc, numberReach]
    simp only [hwholeReach, List.drop_left, hfractionReach, ← List.drop_drop, hexponentReach,
      List.length_append, Nat.add_assoc]
  have hcut : ofSource (c :: (rest ++ (f ++ e) ++ x)) =
      ⟨.number, c :: (rest ++ (f ++ e))⟩ :: ofSource x := by
    refine ofSource_of_reach ?_
    rw [reach_of_not_special (not_mem_special rfl hc), hc, hreach]
    rfl
  exact hcut

end Numeral

/-! ## The tokens of a text -/

/-- What the parser looks at of the tokens of a text. -/
def reading (cs : List Char) : List (Kind × String × Option Binary64) :=
  (ofSource cs).filterMap facts?

theorem reading_of_ofSource {cs x : List Char} {l : Lexeme} (h : ofSource cs = l :: ofSource x) :
    reading cs = l.facts?.toList ++ reading x := by
  rw [reading, h, List.filterMap_cons]
  cases l.facts? <;> rfl

/-- Blanks at the front make no tokens. -/
theorem reading_dropWhile_isGap (cs : List Char) : reading (cs.dropWhile isGap) = reading cs := by
  cases cs with
  | nil => rfl
  | cons c cs =>
      cases hc : isGap c with
      | false => rw [List.dropWhile_cons_of_neg (by simp [hc])]
      | true =>
          have hreach : reach c cs = (.blanks, run isGap cs) := by
            simp only [isGap, Bool.or_eq_true, beq_iff_eq] at hc
            obtain (rfl | rfl) | rfl := hc <;> rfl
          have hcut : ofSource (c :: cs) =
              ⟨.blanks, c :: cs.takeWhile isGap⟩ :: ofSource (cs.dropWhile isGap) := by
            rw [ofSource_cons, first, behind, hreach, take_run, drop_run]
          rw [List.dropWhile_cons_of_pos hc, reading_of_ofSource hcut]
          rfl

theorem reading_blank (cs : List Char) : reading (' ' :: cs) = reading cs := by
  rw [← reading_dropWhile_isGap, List.dropWhile_cons_of_pos (by decide), reading_dropWhile_isGap]

/-- The token of a sign. -/
def symbolToken (c : Char) (kind : Kind) : Token := ⟨kind, String.ofList [c], .start, none⟩

theorem reading_symbol {c : Char} {kind : Kind} (hc : symbolKind? c = some kind) {x : List Char}
    (hx : c = '/' → x.head? ≠ some '/') :
    reading (c :: x) = (symbolToken c kind).facts :: reading x := by
  have hfacts : facts? ⟨.symbol, [c]⟩ = some (symbolToken c kind).facts := by
    simp [facts?, kind?, hc, literal?, symbolToken, Token.facts]
  rw [reading_of_ofSource (ofSource_symbol hc hx), hfacts]
  rfl

/-- Before anything that may stand behind an operand, the text makes these tokens. -/
def Lexes (cs : List Char) (w : List Token) : Prop :=
  ∀ x, Ends x → reading (cs ++ x) = w.map Token.facts ++ reading x

theorem lexes_word {name : String} (hname : isWord name.toList = true)
    (hkind : Keyword.kindOf name = .identifier) :
    Lexes name.toList [⟨.identifier, name, .start, none⟩] := by
  intro x hx
  have hfacts : facts? ⟨.word, name.toList⟩ = some (.identifier, name, none) := by
    simp [facts?, kind?, literal?, hkind]
  rw [reading_of_ofSource (ofSource_word hname hx), hfacts]
  rfl

theorem lexes_number {text : String} {d : Decimal} (h : Decimal.Spells text.toList d) :
    Lexes text.toList [⟨.number, text, .start, some (d.toBinary64 false)⟩] := by
  intro x hx
  have hfacts : facts? ⟨.number, text.toList⟩ =
      some (.number, text, some (d.toBinary64 false)) := by
    simp [facts?, kind?, literal?, h.read?_eq]
  rw [reading_of_ofSource (ofSource_number h hx), hfacts]
  rfl

theorem Lexes.signed {c : Char} {kind : Kind} (hc : symbolKind? c = some kind) (hbar : c ≠ '/')
    {cs : List Char} {w : List Token} (h : Lexes cs w) :
    Lexes (c :: cs) (symbolToken c kind :: w) := by
  intro x hx
  rw [List.cons_append, reading_symbol hc fun heq => absurd heq hbar, h x hx]
  rfl

/-- The blanks around an operator keep it apart from its operands. -/
theorem Lexes.spaced {c : Char} {kind : Kind} (hc : symbolKind? c = some kind)
    {cs ds : List Char} {u v : List Token} (hcs : Lexes cs u) (hds : Lexes ds v) :
    Lexes (cs ++ ' ' :: c :: ' ' :: ds) (u ++ symbolToken c kind :: v) := by
  intro x hx
  have hblank : (' ' :: (ds ++ x)).head? ≠ some '/' := by simp
  have hshape : cs ++ ' ' :: c :: ' ' :: ds ++ x = cs ++ ' ' :: c :: ' ' :: (ds ++ x) := by simp
  rw [hshape, hcs _ (ends_blank _), reading_blank, reading_symbol hc fun _ => hblank,
    reading_blank, hds x hx]
  simp

theorem Lexes.grouped {cs : List Char} {w : List Token} (h : Lexes cs w) :
    Lexes ('(' :: (cs ++ [')']))
      (symbolToken '(' (.opener .paren) :: (w ++ [symbolToken ')' (.closer .paren)])) := by
  intro x hx
  have hshape : '(' :: (cs ++ [')']) ++ x = '(' :: (cs ++ ')' :: x) := by simp
  have hopen : symbolKind? '(' = some (.opener .paren) := rfl
  have hclose : symbolKind? ')' = some (.closer .paren) := rfl
  rw [hshape, reading_symbol hopen fun heq => absurd heq (by decide), h _ (ends_paren x),
    reading_symbol hclose fun heq => absurd heq (by decide)]
  simp

end Lexeme

/-! ## Arithmetic -/

/-- The four operators of arithmetic. -/
def Operator.isArithmetic : Operator → Bool
  | .plus | .minus | .times | .over => true
  | _ => false

/-- The kinds of the tokens of plain arithmetic. -/
def Kind.isArithmetic : Kind → Bool
  | .number | .identifier | .opener .paren | .closer .paren => true
  | .operator op => op.isArithmetic
  | _ => false

/-- The operators are typeset as they are written, with a blank on either side. -/
theorem Operator.exists_symbol {op : Operator} (h : op.isArithmetic = true) :
    ∃ (c : Char) (join : String → String → String),
      Lexeme.symbolKind? c = some (.operator op) ∧ Node.join? (.operator op) = some join ∧
      ∀ l r, (join l r).toList = l.toList ++ ' ' :: c :: ' ' :: r.toList := by
  cases op with
  | plus => exact ⟨'+', _, rfl, rfl, by simp [Node.spaced]⟩
  | minus => exact ⟨'-', _, rfl, rfl, by simp [Node.spaced]⟩
  | times => exact ⟨'*', _, rfl, rfl, by simp [Node.spaced]⟩
  | modulo | power | fraction | equals => cases h
  | _ => exact ⟨'/', _, rfl, rfl, by simp [Node.spaced]⟩

theorem Operator.exists_sign {op : Operator} (h : op.isAdditive = true) :
    ∃ (c : Char) (sign : String), Lexeme.symbolKind? c = some (.operator op) ∧ c ≠ '/' ∧
      Node.sign? (.operator op) = some sign ∧ sign.toList = [c] := by
  cases op with
  | plus => exact ⟨'+', _, rfl, by decide, rfl, rfl⟩
  | minus => exact ⟨'-', _, rfl, by decide, rfl, rfl⟩
  | _ => cases h

theorem Operator.isArithmetic_of_isAdditive {op : Operator} (h : op.isAdditive = true) :
    op.isArithmetic = true := by
  cases op <;> first | rfl | cases h

/-- A word of a source is an identifier only if it is not reserved. -/
theorem Token.kindOf_of_mem_body {source : String} {t : Token}
    (ht : t ∈ (Stream.ofSource source).body) (hkind : t.kind = .identifier) :
    Keyword.kindOf t.text = .identifier := by
  obtain ⟨c, cs, hlexeme, htext, -⟩ := exists_lexeme_of_mem_place source.toList .start ht
  rw [hkind] at hlexeme
  unfold Lexeme.kind? at hlexeme
  cases hform : (Lexeme.first c cs).form with
  | word =>
      simp only [hform, Option.some.injEq, ← htext, String.ofList_toList] at hlexeme
      exact hlexeme
  | symbol =>
      simp only [hform] at hlexeme
      exact absurd hlexeme (Lexeme.symbolKind?_ne (by decide) c)
  | _ => simp [hform] at hlexeme

/-- The token is one of plain arithmetic, a line end or the end of the input, and it is spelt as
its kind wants. -/
structure Token.InArithmetic (t : Token) : Prop where
  kind : t.kind = .newline ∨ t.kind = .eof ∨ t.kind.isArithmetic = true
  wellSpelt : t.WellSpelt
  notReserved : t.kind = .identifier → Keyword.kindOf t.text = .identifier

namespace Grammar

open PlainMath.Parser (Level)
open Lexeme

/-- The tree has LaTeX, and this is a text whose tokens spell, by the rule of the level, a tree
with the same LaTeX. -/
def Rereads (level : Level) (n : Node) : Prop :=
  ∃ (s : String) (m : Node) (w : List Token), n.latex .plain = .ok s ∧ m.latex .plain = .ok s ∧
    Derives Func.Accepts level w m ∧ Lexes s.toList w

theorem Rereads.step {level level' : Level} {n : Node} (h : Rereads level n)
    (hstep : ∀ {w m}, Derives Func.Accepts level w m → Derives Func.Accepts level' w m) :
    Rereads level' n := by
  obtain ⟨s, m, w, hn, hm, hw, hlexes⟩ := h
  exact ⟨s, m, w, hn, hm, hstep hw, hlexes⟩

theorem Rereads.identifier {name : String} (hname : isWord name.toList = true)
    (hkind : Keyword.kindOf name = .identifier) : Rereads .primary (.identifier name none) :=
  ⟨name, _, _, rfl, rfl, .identifier rfl, lexes_word hname hkind⟩

/-- A finite number is read back; the others have become a name. -/
theorem Rereads.number (rank : Nat) :
    Rereads .primary (.number (some (.ofRank false rank))) := by
  rcases Binary64.text_ofRank rank with ⟨-, d, hspells, hrank⟩ | ⟨-, htext⟩
  · have hvalue : d.toBinary64 false = .ofRank false rank := by
      rw [Decimal.toBinary64, hrank]
    have hlexes := lexes_number hspells
    rw [hvalue] at hlexes
    exact ⟨_, .number (some (.ofRank false rank)), _, rfl, rfl, .number rfl, hlexes⟩
  · have hlexes : Lexes "inf".toList _ := lexes_word (by decide) (by decide)
    exact ⟨"inf", .identifier "inf" none, _, congrArg Except.ok htext, rfl, .identifier rfl, hlexes⟩

theorem Rereads.binary {op : Operator} {level left right : Level} {l r : Node}
    (hop : op.isArithmetic = true)
    (hjoin : ∀ {u v t l r}, Derives Func.Accepts left u l → t.kind = .operator op →
      Derives Func.Accepts right v r →
      Derives Func.Accepts level (u ++ t :: v) (.binary (.operator op) l r))
    (hl : Rereads left l) (hr : Rereads right r) :
    Rereads level (.binary (.operator op) l r) := by
  obtain ⟨c, join, hc, hop, htext⟩ := Operator.exists_symbol hop
  obtain ⟨s, m, u, hl, hm, hu, hs⟩ := hl
  obtain ⟨s', m', v, hr, hm', hv, hs'⟩ := hr
  refine ⟨join s s', _, u ++ symbolToken c (.operator op) :: v, ?_, ?_, hjoin hu rfl hv, ?_⟩
  · simp only [Node.latex, hop, hl, hr]
    rfl
  · simp only [Node.latex, hop, hm, hm']
    rfl
  · rw [htext]
    exact hs.spaced hc hs'

theorem Rereads.sign {op : Operator} {n : Node} (hop : op.isAdditive = true)
    (hn : Rereads .unary n) : Rereads .unary (.unary (.operator op) n) := by
  obtain ⟨c, sign, hc, hbar, hsign, htext⟩ := Operator.exists_sign hop
  obtain ⟨s, m, w, hn, hm, hw, hs⟩ := hn
  refine ⟨sign ++ s, _, symbolToken c (.operator op) :: w, ?_, ?_, .sign rfl hop hw, ?_⟩
  · simp only [Node.latex, hsign, hn]
    rfl
  · simp only [Node.latex, hsign, hm]
    rfl
  · rw [String.toList_append, htext]
    exact hs.signed hc hbar

theorem Rereads.group {n : Node} (hn : Rereads .additive n) : Rereads .primary (.grouping n) := by
  obtain ⟨s, m, w, hn, hm, hw, hs⟩ := hn
  have htext : ("(" ++ s ++ ")").toList = '(' :: (s.toList ++ [')']) := by simp
  have hlexes := hs.grouped
  rw [← htext] at hlexes
  refine ⟨"(" ++ s ++ ")", .grouping m, _, ?_, ?_, .group rfl hw rfl, hlexes⟩
  · simp only [Node.latex, hn]
    rfl
  · simp only [Node.latex, hm]
    rfl

/-- All tokens are those of plain arithmetic. -/
def InArithmetic (w : List Token) : Prop := ∀ t ∈ w, t.InArithmetic

theorem InArithmetic.mono {u w : List Token} (h : InArithmetic w) (hu : u ⊆ w) : InArithmetic u :=
  fun t ht => h t (hu ht)

theorem InArithmetic.isArithmetic_of_mem {w : List Token} (h : InArithmetic w) {t : Token}
    (ht : t ∈ w) {kind : Kind} (hkind : t.kind = kind) (hnewline : kind ≠ .newline)
    (heof : kind ≠ .eof) : kind.isArithmetic = true := by
  have harithmetic := (h t ht).kind
  rw [hkind] at harithmetic
  exact (harithmetic.resolve_left hnewline).resolve_left heof

/-- What the grammar derives from tokens of plain arithmetic can be read again. -/
theorem Derives.rereads : ∀ {level : Level} {w : List Token} {n : Node},
    Derives Func.Accepts level w n → InArithmetic w → Rereads level n
  | _, _, _, .sum hl hop hadditive hr, h =>
      .binary (Operator.isArithmetic_of_isAdditive hadditive)
        (fun hu ht hv => .sum hu ht hadditive hv)
        (hl.rereads (h.mono (by simp))) (hr.rereads (h.mono (by simp)))
  | _, _, _, .product hl hop hmultiplicative hr, h =>
      .binary (h.isArithmetic_of_mem (by simp) hop nofun nofun)
        (fun hu ht hv => .product hu ht hmultiplicative hv)
        (hl.rereads (h.mono (by simp))) (hr.rereads (h.mono (by simp)))
  | _, _, _, .sign _ hadditive hn, h => .sign hadditive (hn.rereads (h.mono (by simp)))
  | _, _, _, .ofProduct hn, h => (hn.rereads h).step .ofProduct
  | _, _, _, .ofUnary hn, h => (hn.rereads h).step .ofUnary
  | _, _, _, .ofPower hn, h => (hn.rereads h).step .ofPower
  | _, _, _, .ofCall hn, h => (hn.rereads h).step .ofCall
  | _, _, _, .ofPrimary hn, h => (hn.rereads h).step .ofPrimary
  | _, _, _, .group _ hn _, h => .group (hn.rereads (h.mono (by simp)))
  | _, _, _, .number ht, h => by
      have hliteral := (h _ List.mem_cons_self).wellSpelt
      simp only [Token.WellSpelt, ht] at hliteral
      obtain ⟨rank, hrank⟩ := hliteral
      rw [hrank]
      exact .number rank
  | _, _, _, .identifier ht, h => by
      have harithmetic := h _ List.mem_cons_self
      have hname := harithmetic.wellSpelt
      simp only [Token.WellSpelt, ht] at hname
      exact .identifier hname (harithmetic.notReserved ht)
  -- every other alternative needs a token of a kind that is not one of plain arithmetic
  | _, _, _, .power _ ht _, h | _, _, _, .constant ht, h | _, _, _, .emptyCall ht _ _ _, h
  | _, _, _, .call ht _ _ _ _, h | _, _, _, .greek ht, h | _, _, _, .text ht, h
  | _, _, _, .inlineMath ht _ _, h | _, _, _, .displayMath ht _ _, h =>
      absurd (h.isArithmetic_of_mem (by simp) ht nofun nofun) Bool.false_ne_true

end Grammar

namespace Typesetting

open Grammar

/-- In plain mode the LaTeX of a single expression is that of the source. -/
theorem latex_of_parse {source : String} {n : Node} {s : String}
    (hparse : Parser.parse (.ofSource source) = .ok (.document [n]))
    (hn : n.latex .plain = .ok s) : latex .plain source = .ok s := by
  have hall : Node.latexAll .plain [n] = .ok [s] := by
    simp only [Node.latexAll, hn]
    rfl
  have hdocument : (Node.document [n]).latex .plain = .ok s := by
    refine Node.document_latex_eq_ok_iff.mpr ⟨[s], hall, ?_⟩
    cases hverbatim : n.isVerbatim <;> simp [hverbatim, Node.assemble, Mode.wrap]
  simp only [latex, hparse, hdocument]

/-- A source that is one expression of plain arithmetic has LaTeX, and this LaTeX, read as a
source, is its own LaTeX. -/
theorem latex_idempotent {source : String} {n : Node}
    (hkinds : ∀ t ∈ (Stream.ofSource source).tokens,
      t.kind = .newline ∨ t.kind = .eof ∨ t.kind.isArithmetic = true)
    (hparse : Parser.parse (.ofSource source) = .ok (.document [n])) :
    ∃ tex, latex .plain source = .ok tex ∧ latex .plain tex = .ok tex := by
  obtain ⟨ns, hns, hdoc⟩ := Parser.document_of_source hparse
  cases hns
  obtain ⟨w, hw, hn⟩ := hdoc.expression_of_mem List.mem_cons_self
  have harithmetic : InArithmetic w := fun t ht => {
    kind := hkinds t (List.mem_append_left _ (hw ht))
    wellSpelt := Token.wellSpelt_of_mem_body (hw ht)
    notReserved := Token.kindOf_of_mem_body (hw ht) }
  obtain ⟨tex, m, u, hn, hm, hu, hlexes⟩ := hn.rereads harithmetic
  refine ⟨tex, latex_of_parse hparse hn, latex_of_parse ?_ hm⟩
  -- the tokens of the LaTeX are those of `u`, but for the places where they stand
  have hdoc : Document u [m] :=
    (Finished.start.expression hu fun htight => absurd htight Bool.false_ne_true).document
  refine Parser.parse_of_document hdoc ?_
  have hreading := hlexes [] Lexeme.ends_nil
  rw [List.append_nil] at hreading
  exact (Lexeme.map_facts_place _ _).trans (hreading.trans (List.append_nil _))

/-- Numbers in three forms, one of them beyond all finite ones, and a sign before a group. -/
theorem latex_idempotent_overflow :
    (∀ t ∈ (Stream.ofSource "-(2.50 + x)*1e20/1e400 - 0.00001").tokens,
      t.kind = .newline ∨ t.kind = .eof ∨ t.kind.isArithmetic = true) ∧
    (∃ n, Parser.parse (.ofSource "-(2.50 + x)*1e20/1e400 - 0.00001") = .ok (.document [n])) ∧
    ∃ tex, latex .plain "-(2.50 + x)*1e20/1e400 - 0.00001" = .ok tex ∧
      latex .plain tex = .ok tex :=
  ⟨by decide +kernel, ⟨_, rfl⟩, latex_idempotent (by decide +kernel) rfl⟩

end Typesetting

end PlainMath
