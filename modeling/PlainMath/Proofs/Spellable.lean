/-
# `Proofs.Spellable` — trees that some source spells

Tokens may be put together in any order: blanks keep them apart, and so there is a source of just
these tokens (`exists_source_of_tokens`).  A tree that the grammar derives from tokens of sources
is therefore the one expression of a source (`Typesetting.exists_source`), and such trees, with
their LaTeX, can be taken apart and put together as the grammar says.

    taken apart                 (`Spellable.binary_cases`, `Spellable.of_sum`, `Spellable.of_unary`)
    put together                (`Spellable.sum`, `Spellable.product`, `Spellable.sign`)
    a power of anything at all  (`Spellable.exists_pow`)
-/
import PlainMath.Proofs.Respacing
import PlainMath.Proofs.Spelling

namespace PlainMath

/-! ## The tokens of a tree -/

namespace Grammar

section Spell
variable {w : List Token} {f : Func} {name : String} {args : List Node}

/-- A call with arguments is spelt by its name and the arguments between parentheses. -/
theorem Expression.of_call (h : Expression w (.call (.func f) name args)) (hargs : args ≠ []) :
    ∃ (t o c : Token) (u : List Token), w = t :: o :: (u ++ [c]) ∧ t.text = name ∧
      t.kind = .func f ∧ o.kind = .opener .paren ∧ c.kind = .closer .paren ∧
      Arguments Func.Accepts u args ∧ f.Accepts args.length := by
  cases h with | ofProduct h =>
  cases h with | ofUnary h =>
  cases h with | ofPower h =>
  cases h with | ofCall h =>
  cases h with
  | emptyCall => exact absurd rfl hargs
  | call ht ho hu hc hf => exact ⟨_, _, _, _, rfl, rfl, ht, ho, hc, hu, hf⟩
  | ofPrimary h => cases h

theorem Expression.of_binary {op : Operator} {l r : Node}
    (h : Expression w (.binary (.operator op) l r)) :
    ∃ (u v : List Token) (t : Token), w = u ++ t :: v ∧
      (op.isAdditive = true ∧ Expression u l ∧ Derives Func.Accepts .multiplicative v r ∨
        op.isMultiplicative = true ∧ Derives Func.Accepts .multiplicative u l ∧
          Derives Func.Accepts .unary v r ∨
        op = .power ∧ Derives Func.Accepts .call u l ∧ Derives Func.Accepts .unary v r) := by
  cases h with
  | sum hl _ hop hr => exact ⟨_, _, _, rfl, .inl ⟨hop, hl, hr⟩⟩
  | ofProduct h =>
      cases h with
      | product hl _ hop hr => exact ⟨_, _, _, rfl, .inr (.inl ⟨hop, hl, hr⟩)⟩
      | ofUnary h =>
          cases h with | ofPower h =>
          cases h with
          | power hb _ he => exact ⟨_, _, _, rfl, .inr (.inr ⟨rfl, hb, he⟩)⟩
          | ofCall h =>
              cases h with | ofPrimary h =>
              cases h

theorem Expression.of_unary {op : Kind} {n : Node} (h : Expression w (.unary op n)) :
    ∃ (o : Operator) (t : Token) (u : List Token), op = .operator o ∧ o.isAdditive = true ∧
      w = t :: u ∧ Derives Func.Accepts .unary u n := by
  cases h with | ofProduct h =>
  cases h with | ofUnary h =>
  cases h with
  | sign _ hop h => exact ⟨_, _, _, rfl, hop, rfl, h⟩
  | ofPower h =>
      cases h with | ofCall h =>
      cases h with | ofPrimary h =>
      cases h

/-- One of several arguments, and what can stand in its place. -/
theorem Arguments.set {m : Node} : ∀ {u : List Token} {args : List Node} {i : Nat},
    Arguments Func.Accepts u args → args[i]? = some m →
    ∃ x v y, u = x ++ (v ++ y) ∧ Expression v m ∧
      ∀ {v' m'}, Expression v' m' → Arguments Func.Accepts (x ++ (v' ++ y)) (args.set i m')
  | _, _, i, @Arguments.one _ u n h, hi => by
      obtain ⟨rfl, rfl⟩ : i = 0 ∧ n = m := by
        cases i with
        | zero => exact ⟨rfl, Option.some.inj hi⟩
        | succ i => cases hi
      refine ⟨[], u, [], by simp, h, fun h' => ?_⟩
      simpa using Arguments.one h'
  | _, _, i, @Arguments.more _ u v c ns n h hc hn, hi => by
      rcases Nat.lt_or_ge i ns.length with hlt | hge
      · -- an earlier argument
        rw [List.getElem?_append_left hlt] at hi
        obtain ⟨x, v₀, y, rfl, hm, hset⟩ := Arguments.set h hi
        refine ⟨x, v₀, y ++ c :: v, by simp, hm, fun h' => ?_⟩
        rw [List.set_append_left _ _ hlt]
        simpa using (hset h').more hc hn
      · -- the last one
        rw [List.getElem?_append_right hge, List.getElem?_singleton] at hi
        split at hi
        · next hi0 =>
            cases hi
            refine ⟨u ++ [c], v, [], by simp, hn, fun h' => ?_⟩
            rw [List.set_append_right _ _ hge, hi0]
            simpa using h.more hc h'
        · cases hi

end Spell

end Grammar

/-! ## A source for tokens -/

namespace Token

/-- The token stands in some source. -/
def Occurs (t : Token) : Prop := ∃ source : String, t ∈ (Stream.ofSource source).body

theorem exists_occurs (kind : Kind) (source : String)
    (h : (Stream.ofSource source).body.any (fun t => decide (t.kind = kind)) = true) :
    ∃ t : Token, t.Occurs ∧ t.kind = kind := by
  obtain ⟨t, ht, hkind⟩ := List.any_eq_true.mp h
  exact ⟨t, ⟨source, ht⟩, of_decide_eq_true hkind⟩

theorem exists_operator (op : Operator) : ∃ t : Token, t.Occurs ∧ t.kind = .operator op :=
  exists_occurs _ "+ - * / % ^ \\\\ =" (by cases op <;> decide)

end Token

namespace Lexeme

theorem exists_maker {source : String} {t : Token} (ht : t ∈ (Stream.ofSource source).body) :
    ∃ l : Lexeme, l.Makes ∧ l.facts? = some t.facts := by
  have hfacts : t.facts ∈ (makers source.toList).filterMap facts? := by
    rw [filterMap_facts?_makers, ← map_facts_place _ .start]
    exact List.mem_map_of_mem ht
  obtain ⟨l, hl, hfacts⟩ := List.mem_filterMap.mp hfacts
  exact ⟨l, makes_of_mem_makers _ hl, hfacts⟩

theorem exists_makers : ∀ {w : List Token}, (∀ t ∈ w, t.Occurs) →
    ∃ ls : List Lexeme, (∀ l ∈ ls, l.Makes) ∧ ls.filterMap facts? = w.map Token.facts
  | [], _ => ⟨[], List.forall_mem_nil _, rfl⟩
  | t :: w, h => by
      obtain ⟨⟨source, ht⟩, hw⟩ := List.forall_mem_cons.mp h
      obtain ⟨l, hl, hfacts⟩ := exists_maker ht
      obtain ⟨ls, hls, hrest⟩ := exists_makers hw
      refine ⟨l :: ls, List.forall_mem_cons.mpr ⟨hl, hls⟩, ?_⟩
      rw [List.filterMap_cons, hfacts, hrest, List.map_cons]

end Lexeme

/-- Tokens of any sources in any order are those of one source, apart from their positions. -/
theorem exists_source_of_tokens {w : List Token} (hw : ∀ t ∈ w, t.Occurs) :
    ∃ source, (Stream.ofSource source).body.map Token.facts = w.map Token.facts := by
  obtain ⟨ls, hls, hfacts⟩ := Lexeme.exists_makers hw
  refine ⟨String.ofList (Lexeme.spaced ls), ?_⟩
  have hbody : (Stream.ofSource (String.ofList (Lexeme.spaced ls))).body =
      Token.place .start (ls.intersperse Lexeme.blank) := by
    rw [← Lexeme.ofSource_spaced hls]
    simp only [Stream.ofSource, String.toList_ofList]
  rw [hbody, Lexeme.map_facts_place, Lexeme.filterMap_facts?_intersperse, hfacts]

/-! ## Trees that can be spelt -/

namespace Grammar

open PlainMath.Parser (Level)
open Node (join? sign? spaced braces)

/-- Tokens of sources spell the tree by the rule of the level, and this is its LaTeX. -/
structure Spellable (mode : Mode) (level : Level) (n : Node) (s : String) : Prop where
  derives : ∃ w : List Token, (∀ t ∈ w, t.Occurs) ∧ Derives Func.Accepts level w n
  latex_eq : n.latex mode = .ok s

namespace Spellable

variable {mode : Mode} {level : Level} {op : Operator} {n l r : Node} {s sl sr : String}
  {join : String → String → String}

theorem ofProduct (h : Spellable mode .multiplicative n s) : Spellable mode .additive n s :=
  ⟨h.derives.imp fun _ hw => ⟨hw.1, .ofProduct hw.2⟩, h.latex_eq⟩

theorem ofUnary (h : Spellable mode .unary n s) : Spellable mode .multiplicative n s :=
  ⟨h.derives.imp fun _ hw => ⟨hw.1, .ofUnary hw.2⟩, h.latex_eq⟩

theorem ofCall (h : Spellable mode .call n s) : Spellable mode .unary n s :=
  ⟨h.derives.imp fun _ hw => ⟨hw.1, .ofPower (.ofCall hw.2)⟩, h.latex_eq⟩

/-- Two trees with an operator between them, by a rule that wants just this. -/
theorem binary {left right : Level}
    (hrule : ∀ {u v : List Token} {t : Token}, Derives Func.Accepts left u l →
      t.kind = .operator op → Derives Func.Accepts right v r →
      Derives Func.Accepts level (u ++ t :: v) (.binary (.operator op) l r))
    (hjoin : join? (.operator op) = some join) (hl : Spellable mode left l sl)
    (hr : Spellable mode right r sr) :
    Spellable mode level (.binary (.operator op) l r) (join sl sr) where
  derives := by
    obtain ⟨t, ht, hkind⟩ := Token.exists_operator op
    obtain ⟨u, hu, hl⟩ := hl.derives
    obtain ⟨v, hv, hr⟩ := hr.derives
    refine ⟨u ++ t :: v, ?_, hrule hl hkind hr⟩
    exact List.forall_mem_append.mpr ⟨hu, List.forall_mem_cons.mpr ⟨ht, hv⟩⟩
  latex_eq :=
    Node.binary_latex_eq_ok_iff.mpr ⟨join, sl, sr, hjoin, hl.latex_eq, hr.latex_eq, rfl⟩

theorem sum (hop : op.isAdditive = true) (hjoin : join? (.operator op) = some join)
    (hl : Spellable mode .additive l sl) (hr : Spellable mode .multiplicative r sr) :
    Spellable mode .additive (.binary (.operator op) l r) (join sl sr) :=
  binary (fun hl ht hr => .sum hl ht hop hr) hjoin hl hr

theorem product (hop : op.isMultiplicative = true) (hjoin : join? (.operator op) = some join)
    (hl : Spellable mode .multiplicative l sl) (hr : Spellable mode .unary r sr) :
    Spellable mode .multiplicative (.binary (.operator op) l r) (join sl sr) :=
  binary (fun hl ht hr => .product hl ht hop hr) hjoin hl hr

theorem sign {x : String} (hop : op.isAdditive = true) (hsign : sign? (.operator op) = some x)
    (h : Spellable mode .unary n s) :
    Spellable mode .unary (.unary (.operator op) n) (x ++ s) where
  derives := by
    obtain ⟨t, ht, hkind⟩ := Token.exists_operator op
    obtain ⟨u, hu, hn⟩ := h.derives
    exact ⟨t :: u, List.forall_mem_cons.mpr ⟨ht, hu⟩, .sign hkind hop hn⟩
  latex_eq := Node.unary_latex_eq_ok_iff.mpr ⟨x, s, hsign, h.latex_eq, rfl⟩

/-- A power of anything, written as a call. -/
theorem exists_pow (hl : Spellable mode .additive l sl) (hr : Spellable mode .additive r sr) :
    ∃ n, Spellable mode .call n (sl ++ "^" ++ braces sr) := by
  obtain ⟨t, ht, htkind⟩ := Token.exists_occurs (.func .pow) "pow" (by decide)
  obtain ⟨o, ho, hokind⟩ := Token.exists_occurs (.opener .paren) "(" (by decide)
  obtain ⟨comma, hcomma, hcommakind⟩ := Token.exists_occurs .comma "," (by decide)
  obtain ⟨c, hc, hckind⟩ := Token.exists_occurs (.closer .paren) ")" (by decide)
  obtain ⟨u, hu, hl'⟩ := hl.derives
  obtain ⟨v, hv, hr'⟩ := hr.derives
  refine ⟨.call (.func .pow) t.text [l, r], ⟨t :: o :: (u ++ comma :: v ++ [c]), ?_, ?_⟩, ?_⟩
  · simp only [List.forall_mem_cons, List.forall_mem_append]
    exact ⟨ht, ho, ⟨hu, hcomma, hv⟩, hc, List.forall_mem_nil _⟩
  · have haccepts : Func.pow.Accepts 2 := rfl
    exact .call htkind hokind ((Arguments.one hl').more hcommakind hr') hckind haccepts
  · refine Node.call_latex_eq_ok_iff.mpr ⟨[sl, sr], ?_, ?_⟩
    · exact Node.latexAll_eq_ok_iff.mpr (.cons hl.latex_eq (.cons hr.latex_eq .nil))
    · simp [Func.latex?, Func.form, Template.fill, Template.enclosed, Piece.fill, braces,
        Bracket.openChar, Bracket.closeChar, String.append_assoc]

theorem binary_cases (h : Spellable mode .additive (.binary (.operator op) l r) s) :
    ∃ join sl sr, join? (.operator op) = some join ∧ s = join sl sr ∧
      (op.isAdditive = true ∧ Spellable mode .additive l sl ∧
          Spellable mode .multiplicative r sr ∨
        op.isMultiplicative = true ∧ Spellable mode .multiplicative l sl ∧
          Spellable mode .unary r sr ∨
        op = .power ∧ Spellable mode .call l sl ∧ Spellable mode .unary r sr) := by
  obtain ⟨⟨w, hw, hexpr⟩, hs⟩ := h
  obtain ⟨join, sl, sr, hjoin, hl, hr, rfl⟩ := Node.binary_latex_eq_ok_iff.mp hs
  obtain ⟨u, v, t, rfl, hcases⟩ := Expression.of_binary hexpr
  obtain ⟨hu, htv⟩ := List.forall_mem_append.mp hw
  obtain ⟨-, hv⟩ := List.forall_mem_cons.mp htv
  refine ⟨join, sl, sr, hjoin, rfl, ?_⟩
  rcases hcases with ⟨hop, hleft, hright⟩ | ⟨hop, hleft, hright⟩ | ⟨hop, hleft, hright⟩
  · exact .inl ⟨hop, ⟨⟨u, hu, hleft⟩, hl⟩, ⟨v, hv, hright⟩, hr⟩
  · exact .inr (.inl ⟨hop, ⟨⟨u, hu, hleft⟩, hl⟩, ⟨v, hv, hright⟩, hr⟩)
  · exact .inr (.inr ⟨hop, ⟨⟨u, hu, hleft⟩, hl⟩, ⟨v, hv, hright⟩, hr⟩)

/-- The sides of a sum. -/
theorem of_sum (hop : op.isAdditive = true)
    (h : Spellable mode .additive (.binary (.operator op) l r) s) :
    ∃ sign sl sr, join? (.operator op) = some (spaced sign) ∧ s = spaced sign sl sr ∧
      Spellable mode .additive l sl ∧ Spellable mode .multiplicative r sr := by
  obtain ⟨join, sl, sr, hjoin, rfl, hcases⟩ := h.binary_cases
  obtain ⟨sign, rfl⟩ := Node.exists_spaced hjoin (Node.ne_fraction hop) (Node.ne_power hop)
  rcases hcases with ⟨-, hl, hr⟩ | ⟨hop', -⟩ | ⟨rfl, -⟩
  · exact ⟨sign, sl, sr, hjoin, rfl, hl, hr⟩
  · cases op with
    | plus | minus => cases hop'
    | _ => cases hop
  · cases hop

theorem of_unary {op : Kind} (h : Spellable mode .additive (.unary op n) s) :
    ∃ (o : Operator) (x sn : String), op = .operator o ∧ o.isAdditive = true ∧
      sign? (.operator o) = some x ∧ s = x ++ sn ∧ Spellable mode .unary n sn := by
  obtain ⟨⟨w, hw, hexpr⟩, hs⟩ := h
  obtain ⟨x, sn, hsign, hn, rfl⟩ := Node.unary_latex_eq_ok_iff.mp hs
  obtain ⟨o, t, u, rfl, hop, rfl, hderives⟩ := Expression.of_unary hexpr
  exact ⟨o, x, sn, rfl, hop, hsign, rfl, ⟨u, (List.forall_mem_cons.mp hw).2, hderives⟩, hn⟩

end Spellable

end Grammar

namespace Typesetting

open Grammar

theorem exists_spellable (mode : Mode) {source : String} {n : Node}
    (h : n ∈ expressions source) : ∃ s, Spellable mode .additive n s := by
  obtain ⟨w, hw, hexpr⟩ := expression_of_mem h
  obtain ⟨s, hs⟩ : n.HasLatex mode := hexpr.hasLatex
  exact ⟨s, ⟨w, fun t ht => ⟨source, hw ht⟩, hexpr⟩, hs⟩

/-- Whatever expression tokens of sources spell, there is a source of just this expression. -/
theorem exists_source {mode : Mode} {n : Node} {s : String} (h : Spellable mode .additive n s) :
    ∃ source, expressions source = [n] := by
  obtain ⟨w, hw, hexpr⟩ := h.derives
  obtain ⟨source, hfacts⟩ := exists_source_of_tokens hw
  have hdoc : Document w [n] :=
    (Finished.start.expression hexpr fun htight => absurd htight Bool.false_ne_true).document
  refine ⟨source, ?_⟩
  simp only [expressions, Parser.parse_of_document hdoc hfacts]

theorem exists_source_of_latex {mode : Mode} {n m : Node} {s : String}
    (hn : n.latex mode = .ok s) (hm : Spellable mode .additive m s) :
    ∃ source, expressions source = [m] ∧ n.latex mode = m.latex mode :=
  (exists_source hm).imp fun _ hsource => ⟨hsource, hn.trans hm.latex_eq.symm⟩

end Typesetting

end PlainMath
