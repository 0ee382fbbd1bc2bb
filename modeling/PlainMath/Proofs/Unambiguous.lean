/-
# `Proofs.Unambiguous` — operators can be read back from their LaTeX

Sums, products, signs and powers are written without brackets around their operands, so the
tree has to be found from the signs alone.  That this is possible depends on the trees that the
grammar derives: a product is no operand of a sign, a sum is no operand of a product.

A sum or product is grouped to the left, so the sign at its root is the last one.  Hence the
text is read from its end.  `Written level n s` gives the characters of an expression of this
level, the last one first:

    additive         multiplicative, and then maybe " + " and additive
    multiplicative   unary, and then maybe " * " and multiplicative
                     or `}` unary `{}` multiplicative `{` and "\frac" from its end
    unary            power, and then signs
    power            call, or `}` unary `{^` call
    primary          a leaf, or `)` additive `(`

`Unique level k` says that expressions of the level with fewer than `k` characters are found
without doubt, whatever stands before them, as long as that `Stops` the level.  Each level
follows from the tighter ones at the same length, and from all of them at a smaller length.
-/
import PlainMath.Proofs.Spelling

namespace PlainMath.Node

open PlainMath.Parser (Level)

/-! ## Trees of operators -/

/-- Whether the tree is made of leaves, signs, operators and groups only. -/
def operatorsOnly : Node → Bool
  | .number _ | .constant _ | .identifier _ _ => true
  | .binary _ left right => left.operatorsOnly && right.operatorsOnly
  | .unary _ operand => operand.operatorsOnly
  | .grouping inner => inner.operatorsOnly
  | _ => false

/-- The trees have the same shape and the same operators, and leaf by leaf they are the same or
twins. -/
inductive Alike : Node → Node → Prop where
  | leaf {m n : Node} : SameOrTwins m n → Alike m n
  | binary {op : Kind} {l l' r r' : Node} :
      Alike l l' → Alike r r' → Alike (.binary op l r) (.binary op l' r')
  | unary {op : Kind} {n n' : Node} : Alike n n' → Alike (.unary op n) (.unary op n')
  | grouping {n n' : Node} : Alike n n' → Alike (.grouping n) (.grouping n')

theorem Twins.latex_eq {m n : Node} (h : Twins m n) (mode : Mode) :
    m.latex mode = n.latex mode := by
  cases h <;> rfl

theorem Alike.latex_eq {m n : Node} (h : Alike m n) (mode : Mode) :
    m.latex mode = n.latex mode := by
  induction h with
  | leaf h =>
      rcases h with rfl | h | h
      · rfl
      · exact h.latex_eq mode
      · exact (h.latex_eq mode).symm
  | binary _ _ ihl ihr => simp only [latex, ihl, ihr]
  | unary _ ih => simp only [latex, ih]
  | grouping _ ih => simp only [latex, ih]

/-! ## The text from its end -/

/-- The sign of a sum. -/
def sumSign : Operator → Char
  | .plus => '+'
  | _ => '-'

/-- The sign of a product, from its end. -/
def productSign : Operator → List Char
  | .times => ['*']
  | .over => ['/']
  | _ => ['d', 'o', 'm', 'b', '\\']

/-- The control word of a fraction and the brace behind it, from the end. -/
def fractionStart : List Char := ['\x7b', 'c', 'a', 'r', 'f', '\\']

/-- The characters are the LaTeX of the tree from its end, and the tree is of this level. -/
inductive Written : Level → Node → List Char → Prop where
  | sum {op : Operator} {l r : Node} {s t : List Char} :
      op.isAdditive = true → Written .additive l s → Written .multiplicative r t →
      Written .additive (.binary (.operator op) l r) (t ++ ' ' :: sumSign op :: ' ' :: s)
  | ofProduct {n : Node} {s : List Char} : Written .multiplicative n s → Written .additive n s
  | product {op : Operator} {l r : Node} {s t : List Char} :
      op.isMultiplicative = true → op ≠ .fraction →
      Written .multiplicative l s → Written .unary r t →
      Written .multiplicative (.binary (.operator op) l r)
        (t ++ ' ' :: (productSign op ++ ' ' :: s))
  | fraction {l r : Node} {s t : List Char} :
      Written .multiplicative l s → Written .unary r t →
      Written .multiplicative (.binary (.operator .fraction) l r)
        ('\x7d' :: (t ++ '\x7b' :: '\x7d' :: (s ++ fractionStart)))
  | ofUnary {n : Node} {s : List Char} : Written .unary n s → Written .multiplicative n s
  | sign {op : Operator} {n : Node} {s : List Char} :
      op.isAdditive = true → Written .unary n s →
      Written .unary (.unary (.operator op) n) (s ++ [sumSign op])
  | ofPower {n : Node} {s : List Char} : Written .power n s → Written .unary n s
  | power {b e : Node} {s t : List Char} :
      Written .call b s → Written .unary e t →
      Written .power (.binary (.operator .power) b e) ('\x7d' :: (t ++ '\x7b' :: '^' :: s))
  | ofCall {n : Node} {s : List Char} : Written .call n s → Written .power n s
  | ofPrimary {n : Node} {s : List Char} : Written .primary n s → Written .call n s
  | leaf {n : Node} {s : String} : Leaf n s → Written .primary n s.toList.reverse
  | group {n : Node} {s : List Char} :
      Written .additive n s → Written .primary (.grouping n) (')' :: (s ++ ['(']))

/-! ## Where an expression stops -/

/-- The character is a sign before an operand. -/
def isSignChar (c : Char) : Bool := c == '+' || c == '-'

theorem isLeafChar_of_isSignChar {c : Char} (h : isSignChar c = true) : isLeafChar c = true := by
  simp only [isSignChar, Bool.or_eq_true, beq_iff_eq] at h
  rcases h with rfl | rfl <;> rfl

theorem isSignChar_sumSign (op : Operator) : isSignChar (sumSign op) = true := by
  cases op <;> rfl

/-- Whatever is written there, no expression of the level goes on with it. -/
def Stops : Level → List Char → Prop
  | .additive, x => (∀ c ∈ x.head?, isLeafChar c = false) ∧ x.head? ≠ some ' '
  | .multiplicative, x => (∀ c ∈ x.head?, isLeafChar c = false) ∧
      ∀ op r, op ≠ .fraction → op.isMultiplicative = true → x ≠ ' ' :: (productSign op ++ r)
  | .unary, x => ∀ c ∈ x.head?, isLeafChar c = false
  | .power, x | .call, x | .primary, x =>
      ∃ signs r, (∀ c ∈ signs, isSignChar c = true) ∧ x = signs ++ r ∧
        ∀ c ∈ r.head?, isLeafChar c = false

/-- Expressions of the level with fewer than `k` characters are found without doubt. -/
def Unique (level : Level) (k : Nat) : Prop :=
  ∀ ⦃m n : Node⦄ ⦃s t x y : List Char⦄, Written level m s → Written level n t →
    s.length < k → t.length < k → s ++ x = t ++ y → Stops level x → Stops level y →
    Alike m n ∧ x = y

/-- A text is cut in one way only where a run of characters of one sort ends. -/
theorem append_unique {p : Char → Bool} {u v x y : List Char} (hu : ∀ c ∈ u, p c = true)
    (hv : ∀ c ∈ v, p c = true) (hx : ∀ c ∈ x.head?, p c = false)
    (hy : ∀ c ∈ y.head?, p c = false) (h : u ++ x = v ++ y) : u = v ∧ x = y := by
  have huv : u = v := by
    rw [← Text.takeWhile_append_of_stop hu hx, h, Text.takeWhile_append_of_stop hv hy]
  subst huv
  exact ⟨rfl, List.append_cancel_left h⟩

/-! ## Leaves and groups -/

theorem isSignChar_of_isLeafStart {c : Char} (h : isLeafStart c = true) :
    isSignChar c = false := by
  by_contra hsign
  simp only [Bool.not_eq_false, isSignChar, Bool.or_eq_true, beq_iff_eq] at hsign
  rcases hsign with rfl | rfl <;> cases h

/-- Signs before a leaf are not taken for a part of it, though some numbers hold signs. -/
theorem Leaf.unique {m n : Node} {a b : String} (hm : Leaf m a) (hn : Leaf n b)
    {x y : List Char} (hx : Stops .primary x) (hy : Stops .primary y)
    (h : a.toList.reverse ++ x = b.toList.reverse ++ y) : a = b ∧ x = y := by
  obtain ⟨u, r, hu, rfl, hr⟩ := hx
  obtain ⟨v, r', hv, rfl, hr'⟩ := hy
  have hchars : ∀ {n : Node} {a : String} {u : List Char}, Leaf n a →
      (∀ c ∈ u, isSignChar c = true) → ∀ c ∈ a.toList.reverse ++ u, isLeafChar c = true := by
    intro n a u hn hu c hc
    rcases List.mem_append.mp hc with hc | hc
    · exact hn.chars c (List.mem_reverse.mp hc)
    · exact isLeafChar_of_isSignChar (hu c hc)
  have hfirst : ∀ {n : Node} {a : String}, Leaf n a →
      ∀ c ∈ a.toList.head?, isSignChar c = false := by
    intro n a hn c hc
    obtain ⟨d, rest, ha, hd⟩ := hn.first
    rw [ha] at hc
    cases hc
    exact isSignChar_of_isLeafStart hd
  rw [← List.append_assoc, ← List.append_assoc] at h
  obtain ⟨hrun, rfl⟩ := append_unique (hchars hm hu) (hchars hn hv) hr hr' h
  -- the run is a leaf and the signs before it; from the front, the signs come first
  have hfront : u.reverse ++ a.toList = v.reverse ++ b.toList := by
    simpa using congrArg List.reverse hrun
  have hsigns : ∀ {u : List Char}, (∀ c ∈ u, isSignChar c = true) →
      ∀ c ∈ u.reverse, isSignChar c = true := fun hu c hc => hu c (List.mem_reverse.mp hc)
  obtain ⟨huv, hab⟩ := append_unique (hsigns hu) (hsigns hv) (hfirst hm) (hfirst hn) hfront
  rw [List.reverse_inj.mp huv]
  exact ⟨String.toList_inj.mp hab, rfl⟩

theorem Leaf.last {n : Node} {a : String} (h : Leaf n a) :
    ∃ c r, a.toList.reverse = c :: r ∧ isLeafChar c = true := by
  cases hs : a.toList.reverse with
  | nil =>
      obtain ⟨c, r, ha, -⟩ := h.first
      simp [ha] at hs
  | cons c r => exact ⟨c, r, rfl, h.chars c (List.mem_reverse.mp (hs ▸ List.mem_cons_self))⟩

theorem Leaf.written_ne_group {n : Node} {a : String} (h : Leaf n a) (x z : List Char) :
    a.toList.reverse ++ x ≠ ')' :: z := by
  obtain ⟨c, r, ha, hc⟩ := h.last
  rw [ha]
  rintro ⟨⟩
  cases hc

theorem unique_primary {k : Nat} (ih : Unique .additive k) : Unique .primary (k + 1) := by
  intro m n s t x y hm hn hs ht heq hx hy
  cases hm with
  | leaf hm =>
      cases hn with
      | leaf hn =>
          obtain ⟨rfl, rfl⟩ := hm.unique hn hx hy heq
          exact ⟨.leaf (hm.sameOrTwins hn), rfl⟩
      | group hn => exact absurd heq (hm.written_ne_group _ _)
  | group hm =>
      cases hn with
      | leaf hn => exact absurd heq.symm (hn.written_ne_group _ _)
      | group hn =>
          simp only [List.cons_append, List.append_assoc, List.nil_append, List.cons.injEq,
            true_and, List.length_cons, List.length_append, List.length_nil] at heq hs ht
          have hparen : ∀ z, Stops .additive ('(' :: z) := fun z => by simp [Stops, isLeafChar]
          obtain ⟨halike, hxy⟩ := ih hm hn (by omega) (by omega) heq (hparen x) (hparen y)
          cases hxy
          exact ⟨.grouping halike, rfl⟩

theorem unique_call {k : Nat} (h : Unique .primary k) : Unique .call k := by
  intro m n s t x y hm hn
  cases hm with
  | ofPrimary hm =>
      cases hn with
      | ofPrimary hn => exact h hm hn

/-! ## Powers and signs -/

/-- No call ends with a brace. -/
theorem Written.call_ne_brace {n : Node} {s : List Char} (h : Written .call n s)
    (x z : List Char) : s ++ x ≠ '\x7d' :: z := by
  cases h with
  | ofPrimary h =>
      cases h with
      | group =>
          rintro ⟨⟩
      | leaf h =>
          obtain ⟨c, r, ha, hc⟩ := h.last
          rw [ha]
          rintro ⟨⟩
          cases hc

/-- A brace stops expressions of every level. -/
theorem stops_brace (level : Level) (z : List Char) : Stops level ('\x7b' :: z) := by
  have hleaf : isLeafChar '\x7b' = false := rfl
  cases level with
  | additive | multiplicative | unary => simp [Stops, hleaf]
  | power | call | primary => exact ⟨[], _, by simp, rfl, by simp [hleaf]⟩

theorem unique_power {k : Nat} (hcall : Unique .call (k + 1)) (ih : Unique .unary k) :
    Unique .power (k + 1) := by
  intro m n s t x y hm hn hs ht heq hx hy
  cases hm with
  | ofCall hm =>
      cases hn with
      | ofCall hn => exact hcall hm hn hs ht heq hx hy
      | power => exact absurd heq (hm.call_ne_brace _ _)
  | power hb he =>
      cases hn with
      | ofCall hn => exact absurd heq.symm (hn.call_ne_brace _ _)
      | power hb' he' =>
          simp only [List.cons_append, List.append_assoc, List.cons.injEq, true_and,
            List.length_cons, List.length_append] at heq hs ht
          obtain ⟨hexponent, hrest⟩ := ih he he' (by omega) (by omega) heq
            (stops_brace _ _) (stops_brace _ _)
          simp only [List.cons.injEq, true_and] at hrest
          obtain ⟨hbase, rfl⟩ := hcall hb hb' (by omega) (by omega) hrest hx hy
          exact ⟨.binary hbase hexponent, rfl⟩

/-- Signs before an operand, the innermost one first. -/
def signed (n : Node) (ops : List Operator) : Node :=
  ops.foldl (fun m op => .unary (.operator op) m) n

theorem Alike.signed {m n : Node} (h : Alike m n) (ops : List Operator) :
    Alike (m.signed ops) (n.signed ops) := by
  induction ops generalizing m n with
  | nil => exact h
  | cons op ops ih => exact ih (.unary h)

/-- An expression with signs is one without them, and the signs. -/
theorem Written.exists_signed : ∀ {n : Node} {s : List Char}, Written .unary n s →
    ∃ p ops t, Written .power p t ∧ (∀ op ∈ ops, op.isAdditive = true) ∧ n = p.signed ops ∧
      s = t ++ ops.map sumSign
  | _, _, .ofPower h => ⟨_, [], _, h, by simp, rfl, by simp⟩
  | _, _, @Written.sign op _ _ hop h => by
      obtain ⟨p, ops, t, hp, hops, rfl, rfl⟩ := h.exists_signed
      refine ⟨p, ops ++ [op], t, hp, ?_, by simp [signed], by simp⟩
      simpa [or_imp, forall_and, hop] using hops

theorem sumSign_injective {op op' : Operator} (hop : op.isAdditive = true)
    (hop' : op'.isAdditive = true) (h : sumSign op = sumSign op') : op = op' := by
  cases op <;> cases op' <;> simp_all [Operator.isAdditive, sumSign]

theorem map_sumSign_injective : ∀ {ops ops' : List Operator},
    (∀ op ∈ ops, op.isAdditive = true) → (∀ op ∈ ops', op.isAdditive = true) →
    ops.map sumSign = ops'.map sumSign → ops = ops'
  | [], [], _, _, _ => rfl
  | [], _ :: _, _, _, h => by cases h
  | _ :: _, [], _, _, h => by cases h
  | op :: ops, op' :: ops', hops, hops', h => by
      rw [List.forall_mem_cons] at hops hops'
      rw [List.map_cons, List.map_cons, List.cons.injEq] at h
      rw [sumSign_injective hops.1 hops'.1 h.1, map_sumSign_injective hops.2 hops'.2 h.2]

theorem unique_unary {k : Nat} (h : Unique .power k) : Unique .unary k := by
  intro m n s t x y hm hn hs ht heq hx hy
  obtain ⟨p, ops, u, hp, hops, rfl, rfl⟩ := hm.exists_signed
  obtain ⟨q, ops', v, hq, hops', rfl, rfl⟩ := hn.exists_signed
  have hsigns : ∀ (ops : List Operator), ∀ c ∈ ops.map sumSign, isSignChar c = true := by
    intro ops c hc
    obtain ⟨op, -, rfl⟩ := List.mem_map.mp hc
    exact isSignChar_sumSign op
  have hstop : ∀ {x : List Char}, Stops .unary x → ∀ c ∈ x.head?, isSignChar c = false := by
    intro x hx c hc
    by_contra hsign
    rw [Bool.not_eq_false] at hsign
    have hleaf := hx c hc
    rw [isLeafChar_of_isSignChar hsign] at hleaf
    cases hleaf
  rw [List.append_assoc, List.append_assoc] at heq
  rw [List.length_append] at hs ht
  obtain ⟨halike, hrest⟩ := h hp hq (by omega) (by omega) heq
    ⟨_, x, hsigns ops, rfl, hx⟩ ⟨_, y, hsigns ops', rfl, hy⟩
  obtain ⟨hops_eq, rfl⟩ := append_unique (hsigns ops) (hsigns ops') (hstop hx) (hstop hy) hrest
  obtain rfl := map_sumSign_injective hops hops' hops_eq
  exact ⟨halike.signed ops, rfl⟩

/-! ## Products -/

/-- A unary expression that ends with a brace is a power, with signs before it. -/
theorem Written.exponent_of_brace {n : Node} {s x z : List Char} (h : Written .unary n s)
    (heq : s ++ x = '\x7d' :: z) :
    ∃ e t r, Written .unary e t ∧ t.length < s.length ∧ z = t ++ '\x7b' :: '^' :: r := by
  obtain ⟨p, ops, u, hp, -, rfl, rfl⟩ := h.exists_signed
  rw [List.append_assoc] at heq
  cases hp with
  | ofCall hp => exact absurd heq (hp.call_ne_brace _ _)
  | @power b e _ t hb he =>
      simp only [List.cons_append, List.append_assoc, List.cons.injEq, true_and] at heq
      refine ⟨e, t, _, he, ?_, heq.symm⟩
      simp only [List.length_append, List.length_cons]
      omega

/-- A fraction is not taken for a unary expression, and so not for the end of a product. -/
theorem fraction_ne_unary {k : Nat} (ih : Unique .unary k) {r n : Node} {t s w x : List Char}
    (hr : Written .unary r t) (ht : t.length < k) (hn : Written .unary n s) (hs : s.length ≤ k) :
    '\x7d' :: (t ++ '\x7b' :: '\x7d' :: w) ≠ s ++ x := by
  intro heq
  obtain ⟨e, u, r, he, hu, hrest⟩ := hn.exponent_of_brace heq.symm
  have hbrace := (ih hr he ht (by omega) hrest (stops_brace _ _) (stops_brace _ _)).2
  cases hbrace

theorem stops_blank (z : List Char) : Stops .unary (' ' :: z) := by
  simp [Stops, isLeafChar]

theorem productSign_injective {op op' : Operator} (hop : op.isMultiplicative = true)
    (hne : op ≠ .fraction) (hop' : op'.isMultiplicative = true) (hne' : op' ≠ .fraction)
    {x y : List Char} (h : productSign op ++ x = productSign op' ++ y) : op = op' ∧ x = y := by
  cases op <;> cases op' <;> simp_all [Operator.isMultiplicative, productSign]

theorem unique_multiplicative {k : Nat} (hunary : Unique .unary (k + 1)) (ihu : Unique .unary k)
    (ihm : Unique .multiplicative k) : Unique .multiplicative (k + 1) := by
  intro m n s t x y hm hn hs ht heq hx hy
  have hstop : ∀ {x : List Char}, Stops .multiplicative x → Stops .unary x := fun hx => hx.1
  cases hm with
  | ofUnary hm =>
      cases hn with
      | ofUnary hn => exact hunary hm hn hs ht heq (hstop hx) (hstop hy)
      | product hop hne hl hr =>
          simp only [List.append_assoc, List.cons_append, List.length_append] at heq ht
          obtain ⟨-, rfl⟩ := hunary hm hr hs (by omega) heq (hstop hx) (stops_blank _)
          exact absurd rfl (hx.2 _ _ hne hop)
      | fraction hl hr =>
          simp only [List.append_assoc, List.cons_append, List.length_append,
            List.length_cons] at heq ht
          exact absurd heq.symm (fraction_ne_unary ihu hr (by omega) hm (by omega))
  | product hop hne hl hr =>
      simp only [List.append_assoc, List.cons_append, List.length_append,
        List.length_cons] at heq hs
      cases hn with
      | ofUnary hn =>
          obtain ⟨-, rfl⟩ := hunary hr hn (by omega) ht heq (stops_blank _) (hstop hy)
          exact absurd rfl (hy.2 _ _ hne hop)
      | product hop' hne' hl' hr' =>
          simp only [List.append_assoc, List.cons_append, List.length_append,
            List.length_cons] at heq ht
          obtain ⟨hright, hrest⟩ := hunary hr hr' (by omega) (by omega) heq
            (stops_blank _) (stops_blank _)
          obtain ⟨rfl, hblank⟩ := productSign_injective hop hne hop' hne' (List.cons.inj hrest).2
          obtain ⟨hleft, rfl⟩ := ihm hl hl' (by omega) (by omega) (List.cons.inj hblank).2 hx hy
          exact ⟨.binary hleft hright, rfl⟩
      | fraction hl' hr' =>
          simp only [List.append_assoc, List.cons_append, List.length_append,
            List.length_cons] at heq ht
          exact absurd heq.symm (fraction_ne_unary ihu hr' (by omega) hr (by omega))
  | fraction hl hr =>
      simp only [List.append_assoc, List.cons_append, List.length_append,
        List.length_cons] at heq hs
      cases hn with
      | ofUnary hn => exact absurd heq (fraction_ne_unary ihu hr (by omega) hn (by omega))
      | product hop hne hl' hr' =>
          simp only [List.append_assoc, List.cons_append, List.length_append] at heq ht
          exact absurd heq (fraction_ne_unary ihu hr (by omega) hr' (by omega))
      | fraction hl' hr' =>
          simp only [List.append_assoc, List.cons_append, List.length_append,
            List.length_cons, List.cons.injEq, true_and] at heq ht
          obtain ⟨hright, hrest⟩ := ihu hr hr' (by omega) (by omega) heq
            (stops_brace _ _) (stops_brace _ _)
          simp only [List.cons.injEq, true_and] at hrest
          obtain ⟨hleft, hrest⟩ := ihm hl hl' (by omega) (by omega) hrest
            (stops_brace _ _) (stops_brace _ _)
          exact ⟨.binary hleft hright, List.append_cancel_left hrest⟩

/-! ## Sums -/

theorem unique_additive {k : Nat} (hproduct : Unique .multiplicative (k + 1))
    (ih : Unique .additive k) : Unique .additive (k + 1) := by
  intro m n s t x y hm hn hs ht heq hx hy
  have hstop : ∀ {x : List Char}, Stops .additive x → Stops .multiplicative x := by
    rintro x ⟨hleaf, hblank⟩
    refine ⟨hleaf, ?_⟩
    rintro op r - - rfl
    exact hblank rfl
  have hsign : ∀ (op : Operator) (z : List Char),
      Stops .multiplicative (' ' :: sumSign op :: z) := by
    intro op z
    refine ⟨stops_blank _, fun op' r hne hop' => ?_⟩
    cases op <;> cases op' <;> simp_all [Operator.isMultiplicative, productSign, sumSign]
  cases hm with
  | ofProduct hm =>
      cases hn with
      | ofProduct hn => exact hproduct hm hn hs ht heq (hstop hx) (hstop hy)
      | sum hop hl hr =>
          simp only [List.append_assoc, List.cons_append, List.length_append] at heq ht
          obtain ⟨-, rfl⟩ := hproduct hm hr hs (by omega) heq (hstop hx) (hsign _ _)
          exact absurd rfl hx.2
  | sum hop hl hr =>
      simp only [List.append_assoc, List.cons_append, List.length_append,
        List.length_cons] at heq hs
      cases hn with
      | ofProduct hn =>
          obtain ⟨-, rfl⟩ := hproduct hr hn (by omega) ht heq (hsign _ _) (hstop hy)
          exact absurd rfl hy.2
      | sum hop' hl' hr' =>
          simp only [List.append_assoc, List.cons_append, List.length_append,
            List.length_cons] at heq ht
          obtain ⟨hright, hrest⟩ := hproduct hr hr' (by omega) (by omega) heq
            (hsign _ _) (hsign _ _)
          simp only [List.cons.injEq, true_and] at hrest
          obtain rfl := sumSign_injective hop hop' hrest.1
          obtain ⟨hleft, rfl⟩ := ih hl hl' (by omega) (by omega) hrest.2 hx hy
          exact ⟨.binary hleft hright, rfl⟩

/-- Expressions of every level and length are found without doubt. -/
theorem unique : ∀ (k : Nat) (level : Level), Unique level k
  | 0, _ => by
      intro m n s t x y _ _ hs
      exact absurd hs (Nat.not_lt_zero _)
  | k + 1, level => by
      have hprimary := unique_primary (unique k .additive)
      have hcall := unique_call hprimary
      have hpower := unique_power hcall (unique k .unary)
      have hunary := unique_unary hpower
      have hproduct := unique_multiplicative hunary (unique k .unary) (unique k .multiplicative)
      have hsum := unique_additive hproduct (unique k .additive)
      cases level with
      | additive => exact hsum
      | multiplicative => exact hproduct
      | unary => exact hunary
      | power => exact hpower
      | call => exact hcall
      | primary => exact hprimary

/-! ## What is written is the LaTeX -/

theorem Written.loosen {level : Level} {n : Node} {s : List Char} (h : Written level n s) :
    Written .additive n s := by
  cases level with
  | additive => exact h
  | multiplicative => exact .ofProduct h
  | unary => exact .ofProduct (.ofUnary h)
  | power => exact .ofProduct (.ofUnary (.ofPower h))
  | call => exact .ofProduct (.ofUnary (.ofPower (.ofCall h)))
  | primary => exact .ofProduct (.ofUnary (.ofPower (.ofCall (.ofPrimary h))))

theorem spaced_reverse (sign : String) (s t : List Char) :
    spaced sign (String.ofList s.reverse) (String.ofList t.reverse) =
      String.ofList (t ++ ' ' :: (sign.toList.reverse ++ ' ' :: s)).reverse := by
  simp [spaced, ← String.toList_inj]

theorem Written.latex_eq {level : Level} {n : Node} {s : List Char} (h : Written level n s)
    (mode : Mode) : n.latex mode = .ok (String.ofList s.reverse) := by
  induction h with
  | @sum op l r s t hop _ _ ihl ihr =>
      cases op with
      | plus => exact binary_latex_eq_ok_iff.mpr ⟨_, _, _, rfl, ihl, ihr, spaced_reverse "+" s t⟩
      | minus => exact binary_latex_eq_ok_iff.mpr ⟨_, _, _, rfl, ihl, ihr, spaced_reverse "-" s t⟩
      | _ => cases hop
  | @product op l r s t hop hne _ _ ihl ihr =>
      cases op with
      | times => exact binary_latex_eq_ok_iff.mpr ⟨_, _, _, rfl, ihl, ihr, spaced_reverse "*" s t⟩
      | modulo =>
          exact binary_latex_eq_ok_iff.mpr ⟨_, _, _, rfl, ihl, ihr, spaced_reverse "\\bmod" s t⟩
      | fraction => exact absurd rfl hne
      | plus | minus | power | equals => cases hop
      | _ => exact binary_latex_eq_ok_iff.mpr ⟨_, _, _, rfl, ihl, ihr, spaced_reverse "/" s t⟩
  | fraction _ _ ihl ihr =>
      refine binary_latex_eq_ok_iff.mpr ⟨_, _, _, rfl, ihl, ihr, ?_⟩
      simp [braces, fractionStart, ← String.toList_inj]
  | @sign op n s hop _ ih =>
      cases op with
      | plus | minus =>
          refine unary_latex_eq_ok_iff.mpr ⟨_, _, rfl, ih, ?_⟩
          simp [sumSign]
      | _ => cases hop
  | power _ _ ihb ihe =>
      refine binary_latex_eq_ok_iff.mpr ⟨_, _, _, rfl, ihb, ihe, ?_⟩
      simp [braces, ← String.toList_inj]
  | leaf h => rw [h.latex_eq, List.reverse_reverse, String.ofList_toList]
  | group _ ih =>
      refine grouping_latex_eq_ok_iff.mpr ⟨_, ih, ?_⟩
      simp [← String.toList_inj]
  | ofProduct _ ih | ofUnary _ ih | ofPower _ ih | ofCall _ ih | ofPrimary _ ih => exact ih

/-- Trees of operators with the same LaTeX are alike. -/
theorem Written.alike {level level' : Level} {m n : Node} {s t : List Char}
    (hm : Written level m s) (hn : Written level' n t) {mode : Mode}
    (h : m.latex mode = n.latex mode) : Alike m n := by
  rw [hm.latex_eq, hn.latex_eq, Except.ok.injEq, String.ofList_inj, List.reverse_inj] at h
  subst h
  have hstop : Stops .additive [] := by simp [Stops]
  exact (unique (s.length + 1) .additive hm.loosen hn.loosen (by omega) (by omega) rfl
    hstop hstop).1

/-! ## The trees of sources -/

theorem Proper.exists_leaf {n : Node} (h : n.Proper) (ho : n.operatorsOnly = true)
    (hchildren : n.children = []) : ∃ s, Leaf n s := by
  cases h with
  | leaf h => exact ⟨_, h⟩
  | binary | unary | grouping => cases hchildren
  | text | call | inlineMath | displayMath => cases ho

/-- The tree is a part of another one, or all of it. -/
inductive Within : Node → Node → Prop where
  | refl {n : Node} : Within n n
  | child {m k n : Node} : m ∈ k.children → Within k n → Within m n

end PlainMath.Node

namespace PlainMath.Grammar

open PlainMath.Parser (Level)
open PlainMath.Node (Written)

/-- What the grammar derives from tokens of a source is written as its level says. -/
theorem Derives.written : ∀ {level : Level} {w : List Token} {n : Node},
    Derives Func.Accepts level w n → WellSpelt w → n.operatorsOnly = true →
    ∃ s, Written level n s
  | _, _, _, .sum hl _ hop hr, h, hn => by
      rw [Node.operatorsOnly, Bool.and_eq_true] at hn
      obtain ⟨s, hs⟩ := hl.written (h.mono (by simp)) hn.1
      obtain ⟨t, ht⟩ := hr.written (h.mono (by simp)) hn.2
      exact ⟨_, .sum hop hs ht⟩
  | _, _, _, @Derives.product _ _ _ _ op _ _ hl _ hop hr, h, hn => by
      rw [Node.operatorsOnly, Bool.and_eq_true] at hn
      obtain ⟨s, hs⟩ := hl.written (h.mono (by simp)) hn.1
      obtain ⟨t, ht⟩ := hr.written (h.mono (by simp)) hn.2
      by_cases hfraction : op = .fraction
      · subst hfraction
        exact ⟨_, .fraction hs ht⟩
      · exact ⟨_, .product hop hfraction hs ht⟩
  | _, _, _, .sign _ hop hn, h, ho => by
      obtain ⟨s, hs⟩ := hn.written (h.mono (by simp)) ho
      exact ⟨_, .sign hop hs⟩
  | _, _, _, .power hb _ he, h, hn => by
      rw [Node.operatorsOnly, Bool.and_eq_true] at hn
      obtain ⟨s, hs⟩ := hb.written (h.mono (by simp)) hn.1
      obtain ⟨t, ht⟩ := he.written (h.mono (by simp)) hn.2
      exact ⟨_, .power hs ht⟩
  | _, _, _, .group _ hn _, h, ho => by
      obtain ⟨s, hs⟩ := hn.written (h.mono (by simp)) ho
      exact ⟨_, .group hs⟩
  | _, _, _, .ofProduct hn, h, ho => by
      obtain ⟨s, hs⟩ := hn.written h ho
      exact ⟨s, .ofProduct hs⟩
  | _, _, _, .ofUnary hn, h, ho => by
      obtain ⟨s, hs⟩ := hn.written h ho
      exact ⟨s, .ofUnary hs⟩
  | _, _, _, .ofPower hn, h, ho => by
      obtain ⟨s, hs⟩ := hn.written h ho
      exact ⟨s, .ofPower hs⟩
  | _, _, _, .ofCall hn, h, ho => by
      obtain ⟨s, hs⟩ := hn.written h ho
      exact ⟨s, .ofCall hs⟩
  | _, _, _, .ofPrimary hn, h, ho => by
      obtain ⟨s, hs⟩ := hn.written h ho
      exact ⟨s, .ofPrimary hs⟩
  | _, _, _, .constant _, _, _ => ⟨_, .ofPrimary (.leaf (.constant _))⟩
  | _, _, _, .number ht, h, ho => by
      obtain ⟨s, hs⟩ := ((Derives.number ht).proper h).exists_leaf ho rfl
      exact ⟨_, .leaf hs⟩
  | _, _, _, .greek ht, h, ho => by
      obtain ⟨s, hs⟩ := ((Derives.greek ht).proper h).exists_leaf ho rfl
      exact ⟨_, .leaf hs⟩
  | _, _, _, .identifier ht, h, ho => by
      obtain ⟨s, hs⟩ := ((Derives.identifier ht).proper h).exists_leaf ho rfl
      exact ⟨_, .leaf hs⟩
  | _, _, _, .text _, _, ho | _, _, _, .inlineMath _ _ _, _, ho
  | _, _, _, .displayMath _ _ _, _, ho | _, _, _, .emptyCall _ _ _ _, _, ho
  | _, _, _, .call _ _ _ _ _, _, ho => by
      cases ho

section Parts
variable {allows : Func → Nat → Prop}

theorem Arguments.derives_of_mem {m : Node} : ∀ {w : List Token} {ns : List Node},
    Arguments allows w ns → m ∈ ns → ∃ u, u ⊆ w ∧ Derives allows .additive u m
  | w, _, .one h, hm => by
      obtain rfl := List.mem_singleton.mp hm
      exact ⟨w, List.Subset.refl w, h⟩
  | _, _, .more hs _ h, hm => by
      rcases List.mem_append.mp hm with hm | hm
      · obtain ⟨u, hu, hderives⟩ := hs.derives_of_mem hm
        exact ⟨u, fun t ht => List.mem_append_left _ (hu ht), hderives⟩
      · obtain rfl := List.mem_singleton.mp hm
        exact ⟨_, by simp, h⟩

/-- What stands directly below a tree that the grammar derives is derived from some of the
tokens. -/
theorem Derives.of_mem_children {m : Node} : ∀ {level : Level} {w : List Token} {n : Node},
    Derives allows level w n → m ∈ n.children → ∃ level' u, u ⊆ w ∧ Derives allows level' u m
  | _, _, _, .sum hl _ _ hr, hm | _, _, _, .product hl _ _ hr, hm
  | _, _, _, .power hl _ hr, hm => by
      simp only [Node.children, List.mem_cons, List.not_mem_nil, or_false] at hm
      rcases hm with rfl | rfl
      · exact ⟨_, _, by simp, hl⟩
      · exact ⟨_, _, by simp, hr⟩
  | _, _, _, .sign _ _ h, hm | _, _, _, .group _ h _, hm | _, _, _, .inlineMath _ h _, hm
  | _, _, _, .displayMath _ h _, hm => by
      obtain rfl := List.mem_singleton.mp hm
      exact ⟨_, _, by simp, h⟩
  | _, _, _, .ofProduct h, hm | _, _, _, .ofUnary h, hm | _, _, _, .ofPower h, hm
  | _, _, _, .ofCall h, hm | _, _, _, .ofPrimary h, hm => h.of_mem_children hm
  | _, _, _, .call _ _ hargs _ _, hm => by
      obtain ⟨u, hu, h⟩ := hargs.derives_of_mem hm
      exact ⟨_, u, fun t ht => by simp [hu ht], h⟩
  | _, _, _, .emptyCall _ _ _ _, hm | _, _, _, .constant _, hm | _, _, _, .number _, hm
  | _, _, _, .greek _, hm | _, _, _, .identifier _, hm | _, _, _, .text _, hm => by
      cases hm

end Parts

end PlainMath.Grammar

namespace PlainMath.Parser

open PlainMath.Grammar
open PlainMath.Node (Within Alike)

/-- Every part of a document that is read from a source is derived from tokens of the source. -/
theorem derives_of_within {source : String} {document m : Node}
    (h : parse (.ofSource source) = .ok document) (hm : Within m document) :
    m = document ∨ ∃ level w, WellSpelt w ∧ Derives Func.Accepts level w m := by
  induction hm with
  | refl => exact .inl rfl
  | child hmem _ ih =>
      refine .inr ?_
      rcases ih h with rfl | ⟨level, w, hw, hderives⟩
      · obtain ⟨ns, rfl, hns⟩ := expressions_of_parse h
        obtain ⟨w, hw, hexpr⟩ := hns _ hmem
        exact ⟨_, w, hw, hexpr⟩
      · obtain ⟨level', u, hu, hchild⟩ := hderives.of_mem_children hmem
        exact ⟨level', u, hw.mono hu, hchild⟩

theorem written_of_within {source : String} {document m : Node}
    (h : parse (.ofSource source) = .ok document) (hm : Within m document)
    (ho : m.operatorsOnly = true) : ∃ level s, Node.Written level m s := by
  rcases derives_of_within h hm with rfl | ⟨level, w, hw, hderives⟩
  · obtain ⟨ns, rfl, -⟩ := expressions_of_parse h
    cases ho
  · obtain ⟨s, hs⟩ := hderives.written hw ho
    exact ⟨level, s, hs⟩

/-- Two parts of what is read from sources that are made of leaves, signs, operators and groups
have the same LaTeX exactly if they have the same shape and the same operators, and leaf by leaf
they are the same or twins. -/
theorem latex_eq_iff_alike {source source' : String} {document document' m n : Node}
    (h : parse (.ofSource source) = .ok document)
    (h' : parse (.ofSource source') = .ok document') (hm : Within m document)
    (hn : Within n document') (hmo : m.operatorsOnly = true) (hno : n.operatorsOnly = true)
    (mode : Mode) : m.latex mode = n.latex mode ↔ Alike m n := by
  obtain ⟨_, s, hs⟩ := written_of_within h hm hmo
  obtain ⟨_, t, ht⟩ := written_of_within h' hn hno
  constructor
  · exact hs.alike ht
  · intro halike
    exact halike.latex_eq mode

/-- The tree of `a - -x`, with this leaf for `a`. -/
def minusNegative (leaf : Node) : Node :=
  .binary (.operator .minus) leaf (.unary (.operator .minus) (.identifier "x" none))

/-- An argument of a call and a whole expression, with a pair of twins in them. -/
theorem latex_eq_iff_alike_twins :
    Alike (minusNegative (.constant (.constant .e))) (minusNegative (.identifier "e" none)) := by
  have hconstant : parse (.ofSource "sqrt(E - -x)") = .ok (.document
      [.call (.func .sqrt) "sqrt" [minusNegative (.constant (.constant .e))]]) := rfl
  have hidentifier : parse (.ofSource "e - -x") = .ok (.document
      [minusNegative (.identifier "e" none)]) := rfl
  have hcall : Within (.call (.func .sqrt) "sqrt" [minusNegative (.constant (.constant .e))])
      (.document [.call (.func .sqrt) "sqrt" [minusNegative (.constant (.constant .e))]]) :=
    .child (by simp [Node.children]) .refl
  have hargument : Within (minusNegative (.constant (.constant .e))) _ :=
    .child (by simp [Node.children]) hcall
  have hwhole : Within (minusNegative (.identifier "e" none))
      (.document [minusNegative (.identifier "e" none)]) :=
    .child (by simp [Node.children]) .refl
  exact (latex_eq_iff_alike hconstant hidentifier hargument hwhole rfl rfl .plain).mp rfl

end PlainMath.Parser
