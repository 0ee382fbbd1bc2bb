/-
# `Proofs.Grammar` — the grammar as a relation, apart from any reading

`Derives allows level w n` says that by the rule of this level the tokens `w` spell the tree
`n`.  There is one constructor for each alternative of a rule and one for each step down to
the next tighter rule, so that a derivation is a parse tree:

    additive       sum, ofProduct               left operand additive
    multiplicative product, ofUnary             left operand multiplicative
    unary          sign, ofPower
    power          power, ofCall                exponent unary
    call           constant, emptyCall, call, ofPrimary
    primary        number, greek, identifier, group, text, inlineMath, displayMath

The numbers of arguments that a call may have are a parameter: `Func.Accepts` is the
condition that the reader checks.

`Document w ns` is the grammar of whole documents: expressions with runs of line ends before,
between and after them.  By itself "(newline | expression)*" is ambiguous: `a - b` is one
expression and also `a` followed by `-b`.  The side condition of `Document` is the reading
that is meant: two expressions may only touch where the second one does not begin with a sign.
-/
import Mathlib.Data.List.Chain
import PlainMath.Parser.State
import PlainMath.Token.Balance

namespace PlainMath

/-- The function takes so many arguments. -/
def Func.Accepts (f : Func) (count : Nat) : Prop := f.arity.accepts count = true

/-- Whether the token is a sign that can stand before an operand. -/
def Token.isSign (t : Token) : Bool :=
  match t.kind with
  | .operator op => op.isAdditive
  | _ => false

namespace Grammar

open PlainMath.Parser (Level)

/-! ## Expressions -/

section Rules
variable (allows : Func → Nat → Prop)

mutual

/-- The tokens spell the tree by the rule of this level. -/
inductive Derives : Level → List Token → Node → Prop where
  | sum {u v : List Token} {t : Token} {op : Operator} {l r : Node} :
      Derives .additive u l → t.kind = .operator op → op.isAdditive = true →
      Derives .multiplicative v r →
      Derives .additive (u ++ t :: v) (.binary (.operator op) l r)
  | ofProduct {u : List Token} {n : Node} :
      Derives .multiplicative u n → Derives .additive u n
  | product {u v : List Token} {t : Token} {op : Operator} {l r : Node} :
      Derives .multiplicative u l → t.kind = .operator op → op.isMultiplicative = true →
      Derives .unary v r →
      Derives .multiplicative (u ++ t :: v) (.binary (.operator op) l r)
  | ofUnary {u : List Token} {n : Node} :
      Derives .unary u n → Derives .multiplicative u n
  | sign {u : List Token} {t : Token} {op : Operator} {n : Node} :
      t.kind = .operator op → op.isAdditive = true → Derives .unary u n →
      Derives .unary (t :: u) (.unary (.operator op) n)
  | ofPower {u : List Token} {n : Node} :
      Derives .power u n → Derives .unary u n
  | power {u v : List Token} {t : Token} {b e : Node} :
      Derives .call u b → t.kind = .operator .power → Derives .unary v e →
      Derives .power (u ++ t :: v) (.binary (.operator .power) b e)
  | ofCall {u : List Token} {n : Node} :
      Derives .call u n → Derives .power u n
  | constant {t : Token} {c : Constant} :
      t.kind = .constant c → Derives .call [t] (.constant (.constant c))
  | emptyCall {t o c : Token} {f : Func} :
      t.kind = .func f → o.kind = .opener .paren → c.kind = .closer .paren →
      allows f 0 → Derives .call [t, o, c] (.call (.func f) t.text [])
  | call {t o c : Token} {f : Func} {u : List Token} {args : List Node} :
      t.kind = .func f → o.kind = .opener .paren → Arguments u args →
      c.kind = .closer .paren → allows f args.length →
      Derives .call (t :: o :: (u ++ [c])) (.call (.func f) t.text args)
  | ofPrimary {u : List Token} {n : Node} :
      Derives .primary u n → Derives .call u n
  | number {t : Token} :
      t.kind = .number → Derives .primary [t] (.number t.literal)
  | greek {t : Token} {g : Greek} :
      t.kind = .greek g → Derives .primary [t] (.identifier t.text (some (.greek g)))
  | identifier {t : Token} :
      t.kind = .identifier → Derives .primary [t] (.identifier t.text none)
  | group {o c : Token} {u : List Token} {n : Node} :
      o.kind = .opener .paren → Derives .additive u n → c.kind = .closer .paren →
      Derives .primary (o :: (u ++ [c])) (.grouping n)
  | text {t : Token} :
      t.kind = .text → Derives .primary [t] (.text t.text)
  | inlineMath {o c : Token} {u : List Token} {n : Node} :
      o.kind = .dollar → Derives .additive u n → c.kind = .dollar →
      Derives .primary (o :: (u ++ [c])) (.inlineMath n)
  | displayMath {o c : Token} {u : List Token} {n : Node} :
      o.kind = .doubleDollar → Derives .additive u n → c.kind = .doubleDollar →
      Derives .primary (o :: (u ++ [c])) (.displayMath n)

/-- The tokens spell a list of one or more arguments. -/
inductive Arguments : List Token → List Node → Prop where
  | one {u : List Token} {n : Node} :
      Derives .additive u n → Arguments u [n]
  | more {u v : List Token} {c : Token} {ns : List Node} {n : Node} :
      Arguments u ns → c.kind = .comma → Derives .additive v n →
      Arguments (u ++ c :: v) (ns ++ [n])

end

end Rules

/-- The tokens spell an expression whose calls have accepted numbers of arguments. -/
abbrev Expression (w : List Token) (n : Node) : Prop := Derives Func.Accepts .additive w n

/-! ## Documents -/

/-- An expression of a document: its tokens, its tree, and the line ends behind it. -/
structure Stretch where
  spelling : List Token
  node : Node
  lineEnds : List Token

/-- All tokens of a stretch. -/
def Stretch.tokens (e : Stretch) : List Token := e.spelling ++ e.lineEnds

/-- Only line ends. -/
def LineEnds (z : List Token) : Prop := ∀ t ∈ z, t.kind = .newline

/-- The tokens begin with a sign. -/
def StartsWithSign (w : List Token) : Prop := ∃ t, w.head? = some t ∧ t.isSign = true

/-- The stretches may follow one another: where no line end stands between them, the second
does not begin with a sign. -/
def Stretch.MayPrecede (d e : Stretch) : Prop := d.lineEnds = [] → ¬ StartsWithSign e.spelling

/-- The tokens spell a document with these top-level expressions: line ends, and then the
expressions, each with the line ends behind it. -/
def Document (w : List Token) (ns : List Node) : Prop :=
  ∃ (z : List Token) (es : List Stretch),
    w = z ++ es.flatMap Stretch.tokens ∧ ns = es.map Stretch.node ∧ LineEnds z ∧
    (∀ e ∈ es, Expression e.spelling e.node ∧ LineEnds e.lineEnds) ∧
    es.IsChain Stretch.MayPrecede

/-- A document from left to right: the tokens spell these expressions, and the flag says that
the last of them is not followed by a line end. -/
inductive Finished (allows : Func → Nat → Prop) : List Token → List Node → Bool → Prop where
  | start : Finished allows [] [] false
  | newline {w : List Token} {ns : List Node} {tight : Bool} {t : Token} :
      Finished allows w ns tight → t.kind = .newline → Finished allows (w ++ [t]) ns false
  | expression {w u : List Token} {ns : List Node} {tight : Bool} {n : Node} :
      Finished allows w ns tight → Derives allows .additive u n →
      (tight = true → ¬ StartsWithSign u) → Finished allows (w ++ u) (ns ++ [n]) true

/-- Another line end behind the last stretch. -/
def Stretch.endLine (e : Stretch) (t : Token) : Stretch := { e with lineEnds := e.lineEnds ++ [t] }

theorem isChain_endLine {es : List Stretch} {e : Stretch} (t : Token)
    (h : (es ++ [e]).IsChain Stretch.MayPrecede) :
    (es ++ [e.endLine t]).IsChain Stretch.MayPrecede := by
  rw [List.isChain_append] at h ⊢
  refine ⟨h.1, List.isChain_singleton _, ?_⟩
  intro d hd e' he'
  obtain rfl : e.endLine t = e' := by simpa using he'
  exact h.2.2 d hd e (by simp)

/-- Reading from left to right gives the stretches of a document. -/
theorem Finished.document {w : List Token} {ns : List Node} {tight : Bool}
    (h : Finished Func.Accepts w ns tight) : Document w ns := by
  -- the flag has to be carried along: it is what the next expression is tested against
  suffices ∃ (z : List Token) (es : List Stretch),
      (w = z ++ es.flatMap Stretch.tokens ∧ ns = es.map Stretch.node ∧ LineEnds z ∧
        (∀ e ∈ es, Expression e.spelling e.node ∧ LineEnds e.lineEnds) ∧
        es.IsChain Stretch.MayPrecede) ∧
      ∀ e ∈ es.getLast?, e.lineEnds = [] → tight = true by
    obtain ⟨z, es, hdoc, -⟩ := this
    exact ⟨z, es, hdoc⟩
  induction h with
  | start => exact ⟨[], [], ⟨rfl, rfl, by simp [LineEnds], by simp, .nil⟩, by simp⟩
  | @newline w ns tight t _ ht ih =>
      obtain ⟨z, es, ⟨rfl, rfl, hz, hes, hchain⟩, -⟩ := ih
      rcases List.eq_nil_or_concat' es with rfl | ⟨es, e, rfl⟩
      · refine ⟨z ++ [t], [], ⟨by simp, rfl, ?_, by simp, .nil⟩, by simp⟩
        intro u hu
        rcases List.mem_append.mp hu with hu | hu
        · exact hz u hu
        · exact List.mem_singleton.mp hu ▸ ht
      · refine ⟨z, es ++ [e.endLine t],
          ⟨by simp [Stretch.tokens, Stretch.endLine], by simp [Stretch.endLine], hz, ?_,
            isChain_endLine t hchain⟩, by simp [Stretch.endLine]⟩
        intro e' he'
        rcases List.mem_append.mp he' with he' | he'
        · exact hes e' (List.mem_append_left _ he')
        · obtain ⟨hexpr, hends⟩ := hes e (by simp)
          obtain rfl := List.mem_singleton.mp he'
          refine ⟨hexpr, fun u hu => ?_⟩
          rcases List.mem_append.mp hu with hu | hu
          · exact hends u hu
          · exact List.mem_singleton.mp hu ▸ ht
  | @expression w u ns tight n _ hn htight ih =>
      obtain ⟨z, es, ⟨rfl, rfl, hz, hes, hchain⟩, hlast⟩ := ih
      refine ⟨z, es ++ [⟨u, n, []⟩],
        ⟨by simp [Stretch.tokens], by simp, hz, ?_, ?_⟩, by simp⟩
      · intro e he
        rcases List.mem_append.mp he with he | he
        · exact hes e he
        · obtain rfl := List.mem_singleton.mp he
          exact ⟨hn, by simp [LineEnds]⟩
      · rw [List.isChain_append]
        refine ⟨hchain, List.isChain_singleton _, ?_⟩
        intro d hd e he hempty
        obtain rfl : (⟨u, n, []⟩ : Stretch) = e := by simpa using he
        exact htight (hlast d hd hempty)

/-! ## The first token of an expression -/

/-- The kinds of tokens that an expression can begin with. -/
def startsExpression : Kind → Bool
  | .operator op => op.isAdditive
  | .constant _ | .func _ | .number | .greek _ | .identifier | .text => true
  | .opener .paren | .dollar | .doubleDollar => true
  | _ => false

variable {allows : Func → Nat → Prop}

/-- Every derivation spells at least one token, and the first one is of a kind that begins an
expression. -/
theorem Derives.first : ∀ {level : Level} {w : List Token} {n : Node},
    Derives allows level w n → ∃ t u, w = t :: u ∧ startsExpression t.kind = true
  | _, _, _, .sum hl _ _ _ | _, _, _, .product hl _ _ _ | _, _, _, .power hl _ _ => by
      obtain ⟨t, u, rfl, ht⟩ := hl.first
      exact ⟨t, _, List.cons_append, ht⟩
  | _, _, _, .ofProduct h | _, _, _, .ofUnary h | _, _, _, .ofPower h | _, _, _, .ofCall h
  | _, _, _, .ofPrimary h => h.first
  | _, _, _, .sign ht hop _ => ⟨_, _, rfl, by simp [startsExpression, ht, hop]⟩
  | _, _, _, .constant ht => ⟨_, _, rfl, by simp [startsExpression, ht]⟩
  | _, _, _, .emptyCall ht _ _ _ => ⟨_, _, rfl, by simp [startsExpression, ht]⟩
  | _, _, _, .call ht _ _ _ _ => ⟨_, _, rfl, by simp [startsExpression, ht]⟩
  | _, _, _, .number ht => ⟨_, _, rfl, by simp [startsExpression, ht]⟩
  | _, _, _, .greek ht => ⟨_, _, rfl, by simp [startsExpression, ht]⟩
  | _, _, _, .identifier ht => ⟨_, _, rfl, by simp [startsExpression, ht]⟩
  | _, _, _, .group ho _ _ => ⟨_, _, rfl, by simp [startsExpression, ho]⟩
  | _, _, _, .text ht => ⟨_, _, rfl, by simp [startsExpression, ht]⟩
  | _, _, _, .inlineMath ho _ _ => ⟨_, _, rfl, by simp [startsExpression, ho]⟩
  | _, _, _, .displayMath ho _ _ => ⟨_, _, rfl, by simp [startsExpression, ho]⟩

/-! ## Derivations are balanced

Tokens are neutral if the brackets that are open before them are open after them, whatever
those are.  A derivation opens a parenthesis only together with the one that closes it, and
holds no other bracket, so it is neutral. -/

/-- The tokens leave the open brackets as they are. -/
def Neutral (w : List Token) : Prop :=
  ∀ (o : Openers) (rest : List Token),
    Token.imbalanceFrom o (w ++ rest) = Token.imbalanceFrom o rest

theorem Neutral.nil : Neutral [] := fun _ _ => rfl

theorem Neutral.append {u v : List Token} (hu : Neutral u) (hv : Neutral v) :
    Neutral (u ++ v) := by
  intro o rest
  rw [List.append_assoc, hu, hv]

theorem Neutral.cons {t : Token} {v : List Token} (ht : Neutral [t]) (hv : Neutral v) :
    Neutral (t :: v) :=
  ht.append hv

/-- A token that is no bracket is neutral. -/
theorem neutral_singleton {t : Token} (ho : ∀ b, t.kind ≠ .opener b)
    (hc : ∀ b, t.kind ≠ .closer b) : Neutral [t] := by
  intro o rest
  cases ht : t.kind with
  | opener b => exact absurd ht (ho b)
  | closer b => exact absurd ht (hc b)
  | _ => simp [Token.imbalanceFrom, ht]

/-- Closing the bracket that was opened last restores what was open before. -/
theorem set_get_self (o : Openers) (ts : List Token) (b : Bracket) :
    (o.set ts b).set (o.get b) b = o := by
  cases b <;> rfl

/-- Neutral tokens between brackets of one kind are neutral. -/
theorem neutral_enclosed {b : Bracket} {o c : Token} {u : List Token}
    (ho : o.kind = .opener b) (hu : Neutral u) (hc : c.kind = .closer b) :
    Neutral (o :: (u ++ [c])) := by
  intro os rest
  have hget : (os.set (o :: os.get b) b).get b = o :: os.get b := by
    rw [Openers.get_set, if_pos rfl]
  simp only [List.cons_append, List.append_assoc, List.nil_append, Token.imbalanceFrom, ho, hu _ _,
    hc, hget, set_get_self]

mutual

theorem Derives.neutral : ∀ {level : Level} {w : List Token} {n : Node},
    Derives allows level w n → Neutral w
  | _, _, _, .sum hl ht _ hr | _, _, _, .product hl ht _ hr | _, _, _, .power hl ht hr =>
      hl.neutral.append ((neutral_singleton (by simp [ht]) (by simp [ht])).cons hr.neutral)
  | _, _, _, .ofProduct h | _, _, _, .ofUnary h | _, _, _, .ofPower h | _, _, _, .ofCall h
  | _, _, _, .ofPrimary h => h.neutral
  | _, _, _, .sign ht _ h =>
      (neutral_singleton (by simp [ht]) (by simp [ht])).cons h.neutral
  | _, _, _, .emptyCall ht ho hc _ =>
      (neutral_singleton (by simp [ht]) (by simp [ht])).cons (neutral_enclosed ho .nil hc)
  | _, _, _, .call ht ho h hc _ =>
      (neutral_singleton (by simp [ht]) (by simp [ht])).cons (neutral_enclosed ho h.neutral hc)
  | _, _, _, .group ho h hc => neutral_enclosed ho h.neutral hc
  | _, _, _, .inlineMath ho h hc | _, _, _, .displayMath ho h hc =>
      (neutral_singleton (by simp [ho]) (by simp [ho])).cons
        (h.neutral.append (neutral_singleton (by simp [hc]) (by simp [hc])))
  | _, _, _, .constant ht | _, _, _, .number ht | _, _, _, .greek ht | _, _, _, .identifier ht
  | _, _, _, .text ht => neutral_singleton (by simp [ht]) (by simp [ht])

theorem Arguments.neutral : ∀ {w : List Token} {ns : List Node},
    Arguments allows w ns → Neutral w
  | _, _, .one h => h.neutral
  | _, _, .more hs hc h =>
      hs.neutral.append ((neutral_singleton (by simp [hc]) (by simp [hc])).cons h.neutral)

end

theorem LineEnds.neutral : ∀ {z : List Token}, LineEnds z → Neutral z
  | [], _ => .nil
  | t :: z, h => by
      have ht : t.kind = .newline := h t List.mem_cons_self
      have hz : LineEnds z := fun u hu => h u (List.mem_cons_of_mem _ hu)
      exact (neutral_singleton (by simp [ht]) (by simp [ht])).cons hz.neutral

theorem neutral_flatMap {es : List Stretch}
    (h : ∀ e ∈ es, Expression e.spelling e.node ∧ LineEnds e.lineEnds) :
    Neutral (es.flatMap Stretch.tokens) := by
  induction es with
  | nil => exact .nil
  | cons e es ih =>
      obtain ⟨he, hz⟩ := h e List.mem_cons_self
      have htail := ih fun e' he' => h e' (List.mem_cons_of_mem _ he')
      exact (he.neutral.append hz.neutral).append htail

/-- A document never fails the test of brackets. -/
theorem Document.balanced {w : List Token} {ns : List Node} (h : Document w ns)
    {last : Token} (hlast : last.kind = .eof) : Token.imbalance? (w ++ [last]) = none := by
  obtain ⟨z, es, rfl, -, hz, hes, -⟩ := h
  rw [Token.imbalance?, (hz.neutral.append (neutral_flatMap hes)) {} [last]]
  simp [Token.imbalanceFrom, hlast, Openers.unclosed?, Bracket.all, Openers.get]

end Grammar

end PlainMath
