/-
# `Proofs.Spelling` — what a source can spell

The tokens of a source are not arbitrary: what a token is spelt with follows from its kind
(`Token.WellSpelt`), and so the leaves of a tree that is read from a source are of a few sorts
only (`Node.Leaf`), each with a text from a small alphabet.

    a token of a source is spelt as its kind wants     (`wellSpelt_of_mem_body`)
    a derivation from such tokens is a proper tree     (`Derives.proper`)
    leaves with one text are one leaf, or a pair of
    twins: `E` and `e`, `I` and `i`, `OMICRON` and `o`,
    a number beyond all finite ones and `inf`          (`Leaf.sameOrTwins`)

Statements about the LaTeX of every source are statements about the proper trees, by induction
on `Node.Proper`.
-/
import PlainMath.Proofs.Lines
import PlainMath.Proofs.Number.ReadBack

namespace PlainMath

/-! ## Words and keywords -/

/-- The keyword of a kind that is reserved. -/
def Kind.keyword? : Kind → Option String
  | .constant c => some c.word
  | .greek g => some g.word
  | .func f => some f.word
  | .fromWord => some "from"
  | .toWord => some "to"
  | _ => none

theorem Keyword.keyword?_of_mem_table {p : String × Kind} (h : p ∈ Keyword.table) :
    p.2.keyword? = some p.1 := by
  simp only [Keyword.table, List.mem_append, List.mem_map, List.mem_cons, List.not_mem_nil,
    or_false] at h
  rcases h with ((⟨c, -, rfl⟩ | ⟨g, -, rfl⟩) | ⟨f, -, rfl⟩) | rfl | rfl <;> rfl

/-- A word is an identifier, or the keyword of its kind. -/
theorem Keyword.kindOf_cases (word : String) :
    Keyword.kindOf word = .identifier ∨ (Keyword.kindOf word).keyword? = some word := by
  unfold Keyword.kindOf
  cases h : Keyword.table.lookup word with
  | none => exact .inl rfl
  | some k => exact .inr (Keyword.keyword?_of_mem_table (Lexeme.lookup_mem h))

/-- The characters can be a word: they begin as one and go on as one. -/
def isWord : List Char → Bool
  | [] => false
  | c :: rest => Lexeme.isWordStart c && rest.all Lexeme.isWordPart

theorem isWord_iff {cs : List Char} : isWord cs = true ↔ ∃ c rest, cs = c :: rest ∧
    Lexeme.isWordStart c = true ∧ ∀ d ∈ rest, Lexeme.isWordPart d = true := by
  cases cs <;> simp [isWord]

/-! ## Tokens -/

namespace Token

/-- The token is spelt as the tokens of its kind are. -/
def WellSpelt (t : Token) : Prop :=
  match t.kind with
  | .text => ∃ c, t.text = String.singleton c ∧ Lexeme.hasNoRule c = true
  | .number => ∃ rank, t.literal = some (.ofRank false rank)
  | .identifier => isWord t.text.toList = true
  | .greek g => t.text = g.word
  | .func f => t.text = f.word
  | _ => True

/-- The token is made of the lexeme. -/
structure MadeOf (t : Token) (l : Lexeme) : Prop where
  kind : l.kind? = some t.kind
  text : t.text.toList = l.chars
  literal : t.literal = l.literal?

/-- Every token but the end of the input is made of the lexeme at the front of some characters. -/
theorem exists_lexeme_of_mem_place {t : Token} (cs : List Char) :
    ∀ p : Position, t ∈ place p (Lexeme.ofSource cs) →
      ∃ c rest, t.MadeOf (Lexeme.first c rest) := by
  induction cs using Lexeme.cut_induction with
  | nil =>
      intro p ht
      cases ht
  | cons c cs ih =>
      intro p ht
      rw [Lexeme.ofSource_cons, place] at ht
      cases hkind : (Lexeme.first c cs).kind? with
      | none =>
          rw [hkind] at ht
          exact ih _ ht
      | some kind =>
          rw [hkind] at ht
          rcases List.mem_cons.mp ht with rfl | ht
          · exact ⟨c, cs, hkind, String.toList_ofList, rfl⟩
          · exact ih _ ht

/-- The lexeme of a word. -/
theorem isWord_of_form {c : Char} {cs : List Char} (h : (Lexeme.first c cs).form = .word) :
    isWord (Lexeme.first c cs).chars = true := by
  obtain ⟨hc, hlength⟩ := Lexeme.says_of_form h
  refine isWord_iff.mpr ⟨c, cs.take (Lexeme.reach c cs).2, rfl, hc, ?_⟩
  rw [hlength, Text.take_run]
  exact fun d hd => List.mem_takeWhile_imp hd

/-- The lexeme of a number. -/
theorem spells_of_form {c : Char} {cs : List Char} (h : (Lexeme.first c cs).form = .number) :
    ∃ d, Decimal.Spells (Lexeme.first c cs).chars d := by
  obtain ⟨hc, hlength⟩ := Lexeme.says_of_form h
  simpa only [Lexeme.first, hlength] using Decimal.spells_number hc cs

/-- A word is spelt as its kind wants, whether it is reserved or not. -/
theorem wellSpelt_of_kindOf {t : Token} (hword : isWord t.text.toList = true)
    (hkind : Keyword.kindOf t.text = t.kind) : t.WellSpelt := by
  unfold WellSpelt
  rcases Keyword.kindOf_cases t.text with h | h
  · rw [← hkind, h]
    exact hword
  · rw [hkind] at h
    cases hk : t.kind <;> simp_all [Kind.keyword?]

theorem wellSpelt_of_mem_symbols {t : Token} {c : Char} (h : (c, t.kind) ∈ Lexeme.symbols) :
    t.WellSpelt := by
  unfold WellSpelt
  generalize t.kind = k at h
  revert h
  cases k <;> simp [Lexeme.symbols, Bracket.all]

theorem MadeOf.wellSpelt {t : Token} {c : Char} {cs : List Char}
    (h : t.MadeOf (Lexeme.first c cs)) : t.WellSpelt := by
  obtain ⟨hkind, htext, hliteral⟩ := h
  unfold Lexeme.kind? at hkind
  cases hform : (Lexeme.first c cs).form with
  | comment | blanks => simp [hform] at hkind
  | newline | fraction | doubleDollar | dollar =>
      simp only [hform, Option.some.injEq] at hkind
      simp [WellSpelt, ← hkind]
  | number =>
      simp only [hform, Option.some.injEq] at hkind
      obtain ⟨d, hd⟩ := spells_of_form hform
      simp only [WellSpelt, ← hkind]
      exact ⟨d.rank, by simp [hliteral, Lexeme.literal?, hform, hd.read?_eq, Decimal.toBinary64]⟩
  | word =>
      simp only [hform, Option.some.injEq, ← htext, String.ofList_toList] at hkind
      exact wellSpelt_of_kindOf (htext ▸ isWord_of_form hform) hkind
  | symbol =>
      simp only [hform] at hkind
      exact wellSpelt_of_mem_symbols (Lexeme.lookup_mem (show Lexeme.symbolKind? c = _ from hkind))
  | other =>
      simp only [hform, Option.some.injEq] at hkind
      obtain ⟨hc, hlength⟩ := Lexeme.says_of_form hform
      simp only [WellSpelt, ← hkind]
      refine ⟨c, ?_, hc⟩
      rw [← String.toList_inj, htext]
      simp [Lexeme.first, hlength]

theorem wellSpelt_of_mem_body {source : String} {t : Token}
    (ht : t ∈ (Stream.ofSource source).body) : t.WellSpelt := by
  obtain ⟨c, cs, h⟩ := exists_lexeme_of_mem_place source.toList .start ht
  exact h.wellSpelt

end Token

/-! ## Leaves -/

namespace Node

/-- A leaf of a tree that a source can spell, and its LaTeX. -/
inductive Leaf : Node → String → Prop where
  | number (rank : Nat) :
      Leaf (.number (some (.ofRank false rank))) (Binary64.ofRank false rank).text
  | constant (c : Constant) : Leaf (.constant (.constant c)) c.latex
  | greek (g : Greek) : Leaf (.identifier g.word (some (.greek g))) g.latex
  | identifier {name : String} :
      isWord name.toList = true → Leaf (.identifier name none) name

theorem Leaf.latex_eq {n : Node} {s : String} (h : Leaf n s) (mode : Mode) :
    n.latex mode = .ok s := by
  cases h <;> rfl

/-- The characters that the LaTeX of leaves is made of. -/
def isLeafChar (c : Char) : Bool :=
  c.isAlphanum || c == '_' || c == '\\' || c == '.' || c == '+' || c == '-'

/-- The characters that the LaTeX of a leaf can begin with. -/
def isLeafStart (c : Char) : Bool := c.isAlphanum || c == '_' || c == '\\'

theorem isLeafChar_of_isNumeralChar {c : Char} (h : Decimal.isNumeralChar c = true) :
    isLeafChar c = true := by
  simp only [Decimal.isNumeralChar, Bool.or_eq_true, beq_iff_eq] at h
  rcases h with ((((h | rfl) | rfl) | rfl) | rfl) | rfl
  · simp [isLeafChar, Char.isAlphanum, h]
  all_goals rfl

theorem isLeafChar_of_isWordPart {c : Char} (h : Lexeme.isWordPart c = true) :
    isLeafChar c = true := by
  simp only [Lexeme.isWordPart, Bool.or_eq_true, beq_iff_eq] at h
  rcases h with h | rfl
  · simp [isLeafChar, h]
  · rfl

theorem isLeafStart_of_isWordStart {c : Char} (h : Lexeme.isWordStart c = true) :
    isLeafStart c = true := by
  simp only [Lexeme.isWordStart, Bool.or_eq_true, beq_iff_eq] at h
  rcases h with h | rfl
  · simp [isLeafStart, Char.isAlphanum, h]
  · rfl

theorem isLeafChar_of_isLeafStart {c : Char} (h : isLeafStart c = true) : isLeafChar c = true := by
  simp only [isLeafStart] at h
  simp [isLeafChar, h]

theorem Leaf.chars {n : Node} {s : String} (h : Leaf n s) :
    ∀ c ∈ s.toList, isLeafChar c = true := by
  cases h with
  | number rank =>
      rcases Binary64.text_ofRank rank with ⟨-, d, hd, -⟩ | ⟨-, htext⟩
      · exact fun c hc => isLeafChar_of_isNumeralChar (hd.chars c hc)
      · rw [htext]
        exact List.all_eq_true.mp (by decide)
  | constant c => exact List.all_eq_true.mp (by cases c <;> decide)
  | greek g => exact List.all_eq_true.mp (by cases g <;> decide)
  | identifier hname =>
      obtain ⟨c, rest, hs, hc, hrest⟩ := isWord_iff.mp hname
      rw [hs]
      intro d hd
      rcases List.mem_cons.mp hd with rfl | hd
      · exact isLeafChar_of_isLeafStart (isLeafStart_of_isWordStart hc)
      · exact isLeafChar_of_isWordPart (hrest d hd)

theorem Leaf.first {n : Node} {s : String} (h : Leaf n s) :
    ∃ c rest, s.toList = c :: rest ∧ isLeafStart c = true := by
  cases h with
  | number rank =>
      rcases Binary64.text_ofRank rank with ⟨-, d, hd, -⟩ | ⟨-, htext⟩
      · obtain ⟨c, rest, hs, hc⟩ := hd.first
        exact ⟨c, rest, hs, by simp [isLeafStart, Char.isAlphanum, hc]⟩
      · exact ⟨'i', ['n', 'f'], by rw [htext]; rfl, rfl⟩
  | constant c => cases c <;> exact ⟨_, _, rfl, rfl⟩
  | greek g => cases g <;> exact ⟨_, _, rfl, rfl⟩
  | identifier hname =>
      obtain ⟨c, rest, hs, hc, -⟩ := isWord_iff.mp hname
      exact ⟨c, rest, hs, isLeafStart_of_isWordStart hc⟩

/-! ## Leaves with the same LaTeX -/

/-- Two leaves that are not the same and have the same LaTeX. -/
inductive Twins : Node → Node → Prop where
  | e : Twins (.constant (.constant .e)) (.identifier "e" none)
  | i : Twins (.constant (.constant .i)) (.identifier "i" none)
  | omicron : Twins (.identifier "OMICRON" (some (.greek .omicron))) (.identifier "o" none)
  | infinite : Twins (.number (some (.infinite false))) (.identifier "inf" none)

/-- The leaves of a tree may differ in this way only, if they have the same LaTeX. -/
def SameOrTwins (m n : Node) : Prop := m = n ∨ Twins m n ∨ Twins n m

theorem SameOrTwins.symm {m n : Node} (h : SameOrTwins m n) : SameOrTwins n m := by
  rcases h with rfl | h | h
  · exact .inl rfl
  · exact .inr (.inr h)
  · exact .inr (.inl h)

/-- A constant or a Greek letter, by its LaTeX. -/
def symbols : List (String × Node) :=
  Constant.all.map (fun c => (c.latex, .constant (.constant c))) ++
    Greek.all.map (fun g => (g.latex, .identifier g.word (some (.greek g))))

/-- No two constants or Greek letters have the same LaTeX. -/
theorem symbols_nodup : (symbols.map Prod.fst).Nodup := by decide

theorem constant_mem_symbols (c : Constant) : (c.latex, .constant (.constant c)) ∈ symbols :=
  List.mem_append_left _ (List.mem_map_of_mem (by cases c <;> decide))

theorem greek_mem_symbols (g : Greek) :
    (g.latex, .identifier g.word (some (.greek g))) ∈ symbols :=
  List.mem_append_right _ (List.mem_map_of_mem (by cases g <;> decide))

theorem eq_of_mem_symbols {s : String} {m n : Node} (hm : (s, m) ∈ symbols)
    (hn : (s, n) ∈ symbols) : m = n :=
  congrArg Prod.snd (List.inj_on_of_nodup_map symbols_nodup hm hn rfl)

/-- No constant or Greek letter has the LaTeX of a number. -/
theorem symbols_not_number : ∀ p ∈ symbols,
    p.1.toList.head?.any Char.isDigit = false ∧ p.1 ≠ "inf" := by
  have hconstant : ∀ c ∈ Constant.all,
      c.latex.toList.head?.any Char.isDigit = false ∧ c.latex ≠ "inf" := by decide
  have hgreek : ∀ g ∈ Greek.all,
      g.latex.toList.head?.any Char.isDigit = false ∧ g.latex ≠ "inf" := by decide
  simp only [symbols, List.forall_mem_append, List.forall_mem_map]
  exact ⟨hconstant, hgreek⟩

/-- The LaTeX of a number begins with a digit, if the number is finite. -/
theorem number_latex_cases (rank : Nat) :
    (Binary64.ofRank false rank).text.toList.head?.any Char.isDigit = true ∨
      Binary64.ofRank false rank = .infinite false := by
  rcases Binary64.text_ofRank rank with ⟨-, d, hd, -⟩ | ⟨hrank, -⟩
  · obtain ⟨c, rest, hs, hc⟩ := hd.first
    exact .inl (by simp [hs, hc])
  · exact .inr (dif_neg (Nat.not_lt.mpr hrank))

theorem isWordStart_of_isDigit {c : Char} (h : c.isDigit = true) :
    Lexeme.isWordStart c = false := by
  have hdigits : ∀ n < 58, 48 ≤ n → Lexeme.isWordStart (Char.ofNat n) = false := by decide
  have hbounds : 48 ≤ c.toNat ∧ c.toNat ≤ 57 := by
    simpa [Char.isDigit, UInt32.le_iff_toNat_le] using h
  rw [← Char.ofNat_toNat c]
  exact hdigits c.toNat (by omega) hbounds.1

theorem Leaf.sameOrTwins_identifier {n : Node} {name : String} (h : Leaf n name)
    (hname : isWord name.toList = true) : SameOrTwins n (.identifier name none) := by
  cases h with
  | number rank =>
      rcases number_latex_cases rank with hdigit | hinfinite
      · obtain ⟨c, rest, hs, hc, -⟩ := isWord_iff.mp hname
        rw [hs] at hdigit
        rw [isWordStart_of_isDigit hdigit] at hc
        cases hc
      · rw [hinfinite]
        exact .inr (.inl .infinite)
  | constant c =>
      cases c with
      | e => exact .inr (.inl .e)
      | i => exact .inr (.inl .i)
      | _ => exact absurd hname (by decide)
  | greek g =>
      cases g with
      | omicron => exact .inr (.inl .omicron)
      | _ => exact absurd hname (by decide)
  | identifier => exact .inl rfl

theorem Leaf.sameOrTwins_symbol {n p : Node} {s : String} (h : Leaf n s) (hp : (s, p) ∈ symbols) :
    SameOrTwins n p := by
  cases h with
  | number rank =>
      obtain ⟨hdigit, hinf⟩ := symbols_not_number _ hp
      rcases number_latex_cases rank with h | h
      · rw [h] at hdigit
        cases hdigit
      · rw [h] at hinf
        exact absurd rfl hinf
  | constant c => exact .inl (eq_of_mem_symbols (constant_mem_symbols c) hp)
  | greek g => exact .inl (eq_of_mem_symbols (greek_mem_symbols g) hp)
  | identifier hname =>
      simp only [symbols, List.mem_append, List.mem_map, Prod.mk.injEq] at hp
      rcases hp with ⟨c, -, rfl, rfl⟩ | ⟨g, -, rfl, rfl⟩
      · exact ((Leaf.constant c).sameOrTwins_identifier hname).symm
      · exact ((Leaf.greek g).sameOrTwins_identifier hname).symm

/-- Leaves with the same LaTeX are the same leaf or twins. -/
theorem Leaf.sameOrTwins {m n : Node} {s : String} (hm : Leaf m s) (hn : Leaf n s) :
    SameOrTwins m n := by
  cases hn with
  | number rank =>
      have hn : Leaf (.number (some (.ofRank false rank))) _ := .number rank
      generalize hs : (Binary64.ofRank false rank).text = s at hm hn
      cases hm with
      | number rank' =>
          rw [Binary64.text_ofRank_injective hs]
          exact .inl rfl
      | constant c => exact (hn.sameOrTwins_symbol (constant_mem_symbols c)).symm
      | greek g => exact (hn.sameOrTwins_symbol (greek_mem_symbols g)).symm
      | identifier hname => exact (hn.sameOrTwins_identifier hname).symm
  | constant c => exact hm.sameOrTwins_symbol (constant_mem_symbols c)
  | greek g => exact hm.sameOrTwins_symbol (greek_mem_symbols g)
  | identifier hname => exact hm.sameOrTwins_identifier hname

/-! ## Proper trees -/

/-- The expressions that a source can spell, with the numbers of arguments that the functions
take; how tightly the operands are bound does not matter here. -/
inductive Proper : Node → Prop where
  | leaf {n : Node} {s : String} : Leaf n s → Proper n
  | text {c : Char} : Lexeme.hasNoRule c = true → Proper (.text (String.singleton c))
  | binary {op : Operator} {l r : Node} :
      op ≠ .equals → Proper l → Proper r → Proper (.binary (.operator op) l r)
  | unary {op : Operator} {n : Node} :
      op.isAdditive = true → Proper n → Proper (.unary (.operator op) n)
  | call {f : Func} {args : List Node} :
      f.Accepts args.length → (∀ n ∈ args, Proper n) → Proper (.call (.func f) f.word args)
  | grouping {n : Node} : Proper n → Proper (.grouping n)
  | inlineMath {n : Node} : Proper n → Proper (.inlineMath n)
  | displayMath {n : Node} : Proper n → Proper (.displayMath n)

end Node

namespace Grammar

open PlainMath.Parser (Level)

/-- All tokens are spelt as their kinds want. -/
def WellSpelt (w : List Token) : Prop := ∀ t ∈ w, t.WellSpelt

theorem WellSpelt.head {t : Token} {w : List Token} (h : WellSpelt (t :: w)) : t.WellSpelt :=
  h t List.mem_cons_self

theorem WellSpelt.mono {u w : List Token} (h : WellSpelt w) (hu : u ⊆ w) : WellSpelt u :=
  fun t ht => h t (hu ht)

mutual

/-- What the grammar derives from tokens of a source is a proper tree. -/
theorem Derives.proper : ∀ {level : Level} {w : List Token} {n : Node},
    Derives Func.Accepts level w n → WellSpelt w → n.Proper
  | _, _, _, .sum hl _ hop hr, h | _, _, _, .product hl _ hop hr, h =>
      .binary (by rintro rfl; cases hop) (hl.proper (h.mono (by simp)))
        (hr.proper (h.mono (by simp)))
  | _, _, _, .power hb _ he, h =>
      .binary (by decide) (hb.proper (h.mono (by simp))) (he.proper (h.mono (by simp)))
  | _, _, _, .sign _ hop hn, h => .unary hop (hn.proper (h.mono (by simp)))
  | _, _, _, .ofProduct hn, h | _, _, _, .ofUnary hn, h | _, _, _, .ofPower hn, h
  | _, _, _, .ofCall hn, h | _, _, _, .ofPrimary hn, h => hn.proper h
  | _, _, _, .emptyCall ht _ _ haccepts, h => by
      have hword := h.head
      simp only [Token.WellSpelt, ht] at hword
      rw [hword]
      exact .call haccepts (by simp)
  | _, _, _, .call ht _ hargs _ haccepts, h => by
      have hword := h.head
      simp only [Token.WellSpelt, ht] at hword
      rw [hword]
      exact .call haccepts (hargs.proper (h.mono fun t ht => by simp [ht]))
  | _, _, _, .group _ hn _, h => .grouping (hn.proper (h.mono (by simp)))
  | _, _, _, .inlineMath _ hn _, h => .inlineMath (hn.proper (h.mono (by simp)))
  | _, _, _, .displayMath _ hn _, h => .displayMath (hn.proper (h.mono (by simp)))
  | _, _, _, .constant _, _ => .leaf (.constant _)
  | _, _, _, .number ht, h => by
      have hliteral := h.head
      simp only [Token.WellSpelt, ht] at hliteral
      obtain ⟨rank, hrank⟩ := hliteral
      rw [hrank]
      exact .leaf (.number rank)
  | _, _, _, .greek ht, h => by
      have hword := h.head
      simp only [Token.WellSpelt, ht] at hword
      rw [hword]
      exact .leaf (.greek _)
  | _, _, _, .identifier ht, h => by
      have hword := h.head
      simp only [Token.WellSpelt, ht] at hword
      exact .leaf (.identifier hword)
  | _, _, _, .text ht, h => by
      have hchar := h.head
      simp only [Token.WellSpelt, ht] at hchar
      obtain ⟨c, hc, hrule⟩ := hchar
      rw [hc]
      exact .text hrule

theorem Arguments.proper : ∀ {w : List Token} {ns : List Node},
    Arguments Func.Accepts w ns → WellSpelt w → ∀ n ∈ ns, n.Proper
  | _, _, .one hn, h => List.forall_mem_singleton.mpr (hn.proper h)
  | _, _, .more hs _ hn, h =>
      List.forall_mem_append.mpr ⟨hs.proper (h.mono (by simp)),
        List.forall_mem_singleton.mpr (hn.proper (h.mono (by simp)))⟩

end

/-- The expressions of a document are spelt by tokens of the document. -/
theorem Document.expression_of_mem {w : List Token} {ns : List Node} (h : Document w ns)
    {n : Node} (hn : n ∈ ns) : ∃ u, u ⊆ w ∧ Expression u n := by
  obtain ⟨z, es, rfl, rfl, -, hes, -⟩ := h
  obtain ⟨e, he, rfl⟩ := List.mem_map.mp hn
  refine ⟨e.spelling, fun t ht => ?_, (hes e he).1⟩
  exact List.mem_append_right z
    (List.mem_flatMap.mpr ⟨e, he, List.mem_append_left e.lineEnds ht⟩)

end Grammar

namespace Parser

open Grammar

/-- What is read from a source is a document, and the grammar derives its expressions from
tokens of the source. -/
theorem expressions_of_parse {source : String} {n : Node} (h : parse (.ofSource source) = .ok n) :
    ∃ ns, n = .document ns ∧ ∀ m ∈ ns, ∃ w, WellSpelt w ∧ Expression w m := by
  obtain ⟨ns, rfl, hdoc⟩ := document_of_source h
  refine ⟨ns, rfl, fun m hm => ?_⟩
  obtain ⟨w, hw, hexpr⟩ := hdoc.expression_of_mem hm
  exact ⟨w, fun t ht => Token.wellSpelt_of_mem_body (hw ht), hexpr⟩

theorem proper_of_parse {source : String} {ns : List Node}
    (h : parse (.ofSource source) = .ok (.document ns)) : ∀ n ∈ ns, n.Proper := by
  obtain ⟨ms, hms, hexpr⟩ := expressions_of_parse h
  cases hms
  intro n hn
  obtain ⟨w, hw, hn⟩ := hexpr n hn
  exact hn.proper hw

end Parser

namespace Typesetting

open Grammar

theorem expression_of_mem {source : String} {n : Node} (h : n ∈ expressions source) :
    ∃ w, w ⊆ (Stream.ofSource source).body ∧ Expression w n := by
  unfold expressions at h
  split at h
  · next hparse =>
      obtain ⟨ns, hns, hdoc⟩ := Parser.document_of_source hparse
      cases hns
      exact hdoc.expression_of_mem h
  · cases h

theorem proper_of_mem {source : String} {n : Node} (h : n ∈ expressions source) : n.Proper := by
  obtain ⟨w, hw, hn⟩ := expression_of_mem h
  exact hn.proper fun t ht => Token.wellSpelt_of_mem_body (hw ht)

end Typesetting

end PlainMath
