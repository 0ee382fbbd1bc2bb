/-
# `Proofs.SpiltSums` — calls that are typeset as sums

A template that begins or ends with an argument puts no bracket around it.  If that argument is
a sum, one side of it stands before or behind everything else, and the whole reads as a sum with
a smaller call in it: `pow(a + b, n)` and `a + b^n` are both `a + b^{n}`.  The sum may stand deeper
in the argument, as in `times(pow(a + b, n), c)`, and then it comes out step by step.

    what is put into the place of such an argument
    stands at one end of the LaTeX                       (`Grammar.Spellable.exists_frame`)
    so a sum that stands open makes the whole a sum      (`Node.Spills.looksLikeSum`)
    and a source can spell that sum                      (`Typesetting.exists_source`)
    so a call can look like a sum, but only if it leaves
    some sum without any bracket                         (`Typesetting.call_looks_like_sum`)

Only one thing stands in the way.  A sign or a factor before a sum belongs to its first factor, and
before a fraction neither is read so: `-x \\ y` is `\frac{-x}{y}`.  So a tree that begins with a
fraction is not taken apart behind a sign or a factor (`Node.Spills`).
-/
import PlainMath.Proofs.OpenSums
import PlainMath.Proofs.Spellable

namespace PlainMath

/-! ## Templates that begin or end with an argument -/

namespace Template

/-- The argument stands at one end of the template, and nowhere else. -/
def AtEnd (i : Nat) (t : Template) : Prop :=
  ∃ u v, t = u ++ .arg i :: v ∧ .arg i ∉ u ∧ .arg i ∉ v ∧ (u = [] ∨ v = [])

theorem fill_append (t t' : Template) (args : List String) :
    Template.fill (t ++ t') args = t.fill args ++ t'.fill args := by
  simp [fill]

theorem fill_set {i : Nat} (args : List String) (s : String) : ∀ {t : Template}, .arg i ∉ t →
    t.fill (args.set i s) = t.fill args
  | [], _ => rfl
  | p :: t, h => by
      obtain ⟨hp, ht⟩ := not_or.mp (mt List.mem_cons.mpr h)
      have hpiece : p.fill (args.set i s) = p.fill args := by
        cases p with
        | arg j =>
            have hne : i ≠ j := fun heq => hp (congrArg Piece.arg heq)
            simp [Piece.fill, List.getElem?_set_ne hne]
        | _ => rfl
      rw [fill_cons, fill_cons, hpiece, fill_set args s ht]

/-- What is put in the place of such an argument stands at one end of the text. -/
theorem AtEnd.exists_frame {i : Nat} {t : Template} (h : t.AtEnd i) {args : List String}
    (hi : i < args.length) :
    ∃ x y, (x = "" ∧ t.head? = some (.arg i) ∨ y = "") ∧
      ∀ s, t.fill (args.set i s) = x ++ s ++ y := by
  obtain ⟨u, v, rfl, hu, hv, hend⟩ := h
  refine ⟨fill u args, fill v args, ?_, fun s => ?_⟩
  · rcases hend with rfl | rfl
    · exact .inl ⟨rfl, rfl⟩
    · exact .inr rfl
  · rw [fill_append, fill_cons, fill_set args s hu, fill_set args s hv, ← String.append_assoc]
    simp [Piece.fill, hi]

end Template

namespace Func

/-- Whether each argument that is left without a bracket stands at one end of its template. -/
def spills (f : Func) : Form → Bool
  | .shapes templates => templates.all fun p => (List.range p.1).all fun i =>
      !f.leavesOpen p.1 i || (p.2.head? == some (.arg i) && !p.2.tail.contains (.arg i)) ||
        (p.2.getLast? == some (.arg i) && !p.2.dropLast.contains (.arg i))
  | .environment _ => true

theorem spills_form (f : Func) : f.spills f.form = true := by
  cases f <;> decide

/-- Whether the LaTeX of a call with so many arguments begins with this one. -/
def leads (f : Func) (count i : Nat) : Bool :=
  match f.form with
  | .shapes templates => (templates.lookup count).any fun t => t.head? == some (.arg i)
  | .environment _ => false

/-- A function with an argument that it leaves without a bracket has a template, and the argument
stands at one end of it. -/
theorem exists_template {f : Func} {count i : Nat} (h : f.leavesOpen count i = true) :
    ∃ templates t, f.form = .shapes templates ∧ templates.lookup count = some t ∧ t.AtEnd i := by
  obtain ⟨hshown, hlt, -⟩ := Node.leavesOpen_iff.mp h
  have hspills := f.spills_form
  cases hform : f.form with
  | environment name => simp [shown, hform] at hshown
  | shapes templates =>
      cases ht : templates.lookup count with
      | none => simp [shown, hform, ht] at hshown
      | some t =>
          refine ⟨templates, t, rfl, ht, ?_⟩
          simp only [hform, spills, List.all_eq_true, List.mem_range] at hspills
          have hi := hspills _ (Lexeme.lookup_mem ht) i hlt
          simp only [h, Bool.not_true, Bool.false_or, Bool.or_eq_true, Bool.and_eq_true,
            beq_iff_eq, Bool.not_eq_true', List.contains_eq_mem, decide_eq_false_iff_not] at hi
          rcases hi with ⟨hhead, hrest⟩ | ⟨hlast, hrest⟩
          · exact ⟨[], t.tail, (List.cons_head?_tail hhead).symm, List.not_mem_nil, hrest,
              .inl rfl⟩
          · exact ⟨t.dropLast, [], (List.dropLast_append_getLast? _ hlast).symm, hrest,
              List.not_mem_nil, .inr rfl⟩

end Func

/-! ## Their LaTeX -/

namespace Node

theorem forall₂_set {R : Node → String → Prop} {n : Node} {s : String} :
    ∀ {ns : List Node} {parts : List String}, List.Forall₂ R ns parts → R n s →
      ∀ i, List.Forall₂ R (ns.set i n) (parts.set i s)
  | _, _, .nil, _, _ => .nil
  | _, _, .cons _ h, hns, 0 => .cons hns h
  | _, _, .cons hhead h, hns, i + 1 => .cons hhead (forall₂_set h hns i)

/-- What is put in the place of an argument that is left without a bracket stands at one end of
the LaTeX. -/
theorem exists_frame {mode : Mode} {f : Func} (name : String) {args : List Node} {i : Nat}
    {parts : List String} (h : f.leavesOpen args.length i = true)
    (hparts : List.Forall₂ (fun n s => n.latex mode = .ok s) args parts) :
    ∃ x y, (x = "" ∧ f.leads args.length i = true ∨ y = "") ∧
      ∀ {m : Node} {s : String}, m.latex mode = .ok s →
        (Node.call (.func f) name (args.set i m)).latex mode = .ok (x ++ s ++ y) := by
  obtain ⟨templates, t, hform, ht, hend⟩ := Func.exists_template h
  have hlt : i < parts.length := by
    rw [← hparts.length_eq]
    exact (leavesOpen_iff.mp h).2.1
  obtain ⟨x, y, hxy, hfill⟩ := hend.exists_frame hlt
  refine ⟨x, y, hxy.imp_left fun hx => ⟨hx.1, ?_⟩, fun {m s} hm => ?_⟩
  · simp [Func.leads, hform, ht, hx.2]
  · have hset := forall₂_set hparts hm i
    refine call_latex_eq_ok_iff.mpr ⟨_, latexAll_eq_ok_iff.mpr hset, ?_⟩
    simp only [Func.latex?, hform, List.length_set, ← hparts.length_eq, ht, Option.map_some, hfill]

theorem spaced_append_left (sign x left right : String) :
    spaced sign (x ++ left) right = x ++ spaced sign left right := by
  simp only [spaced, String.append_assoc]

theorem spaced_spaced (sign sign' a b c : String) :
    spaced sign a (spaced sign' b c) = spaced sign' (spaced sign a b) c := by
  simp only [spaced, String.append_assoc]

end Node

/-! ## Their arguments -/

namespace Grammar.Spellable

open Node (spaced)

variable {mode : Mode} {op : Operator} {n l r : Node} {s : String}

/-- An argument that is left without a bracket, and what can be put in its place. -/
theorem exists_frame {f : Func} {name : String} {args : List Node} {i : Nat}
    (h : Spellable mode .additive (.call (.func f) name args) s)
    (hopen : f.leavesOpen args.length i = true) (hi : args[i]? = some n) :
    ∃ sn x y, Spellable mode .additive n sn ∧ s = x ++ sn ++ y ∧
      (x = "" ∧ f.leads args.length i = true ∨ y = "") ∧
      ∀ {m : Node} {sm : String}, Spellable mode .additive m sm →
        Spellable mode .call (.call (.func f) name (args.set i m)) (x ++ sm ++ y) := by
  have hne : args ≠ [] := by
    rintro rfl
    cases hi
  obtain ⟨⟨w, hw, hexpr⟩, hs⟩ := h
  obtain ⟨t, o, c, u, rfl, rfl, ht, ho, hc, hargs, hf⟩ := Expression.of_call hexpr hne
  obtain ⟨before, v, after, rfl, hn, hset⟩ := hargs.set hi
  simp only [List.forall_mem_cons, List.forall_mem_append] at hw
  obtain ⟨htok, hotok, ⟨hbefore, hv, hafter⟩, hctok⟩ := hw
  obtain ⟨parts, hlatex, -⟩ := Node.call_latex_eq_ok_iff.mp hs
  have hparts := Node.latexAll_eq_ok_iff.mp hlatex
  have hsn := Node.forall₂_getD hparts hi
  obtain ⟨x, y, hxy, hframe⟩ := Node.exists_frame t.text hopen hparts
  refine ⟨_, x, y, ⟨⟨v, hv, hn⟩, hsn⟩, ?_, hxy, fun {m sm} hm => ?_⟩
  · have hself : args.set i n = args := by
      obtain ⟨hlt, rfl⟩ := List.getElem?_eq_some_iff.mp hi
      exact List.set_getElem_self hlt
    have hcall := hframe hsn
    rw [hself, hs] at hcall
    exact Except.ok.inj hcall
  · obtain ⟨⟨v', hv', hm'⟩, hsm⟩ := hm
    refine ⟨⟨_, ?_, .call ht ho (hset hm') hc (by rwa [List.length_set])⟩, hframe hsm⟩
    simp only [List.forall_mem_cons, List.forall_mem_append]
    exact ⟨htok, hotok, ⟨hbefore, hv', hafter⟩, hctok⟩

section Spilt
variable {wrap : Node → Node} {x : String}

/-- The left side of a sum stands before something that begins with the sum. -/
theorem spilt_left (hop : op.isAdditive = true)
    (h : Spellable mode .additive (.binary (.operator op) l r) s)
    (hwrap : ∀ {m : Node} {sm : String}, Spellable mode .additive m sm →
      Spellable mode .call (wrap m) ("" ++ sm ++ x)) :
    Spellable mode .additive (.binary (.operator op) l (wrap r)) ("" ++ s ++ x) := by
  obtain ⟨sign, sl, sr, hjoin, rfl, hl, hr⟩ := h.of_sum hop
  have hwhole := hl.sum hop hjoin (hwrap hr.ofProduct).ofCall.ofUnary
  simpa only [spaced, String.append_assoc, String.empty_append] using hwhole

/-- The right side of a sum stands behind something that ends with the sum. -/
theorem spilt_right (hop : op.isAdditive = true)
    (h : Spellable mode .additive (.binary (.operator op) l r) s)
    (hwrap : ∀ {m : Node} {sm : String}, Spellable mode .additive m sm →
      Spellable mode .call (wrap m) (x ++ sm ++ "")) :
    Spellable mode .additive (.binary (.operator op) (wrap l) r) (x ++ s ++ "") := by
  obtain ⟨sign, sl, sr, hjoin, rfl, hl, hr⟩ := h.of_sum hop
  have hwhole := (hwrap hl).ofCall.ofUnary.ofProduct.sum hop hjoin hr
  simpa only [spaced, String.append_assoc, String.append_empty] using hwhole

end Spilt

end Grammar.Spellable

/-! ## Sums that come out -/

namespace Node

open Grammar

/-- The first factor is a fraction, if calls are taken apart too. -/
inductive BeginsWithFraction : Node → Prop where
  | fraction {l r : Node} : BeginsWithFraction (.binary (.operator .fraction) l r)
  | left {op : Operator} {l r : Node} :
      BeginsWithFraction l → BeginsWithFraction (.binary (.operator op) l r)
  | argument {f : Func} {name : String} {args : List Node} {i : Nat} {n : Node} :
      f.leavesOpen args.length i = true → f.leads args.length i = true → args[i]? = some n →
      BeginsWithFraction n → BeginsWithFraction (.call (.func f) name args)

/-- A sum stands open in the tree, and what a sign or another factor stands before does not begin
with a fraction. -/
inductive Spills : Node → Prop where
  | sum {op : Operator} {l r : Node} :
      op.isAdditive = true → Spills (.binary (.operator op) l r)
  | left {op : Operator} {l r : Node} :
      op ≠ .fraction → Spills l → Spills (.binary (.operator op) l r)
  | right {op : Operator} {l r : Node} :
      op ≠ .fraction → op ≠ .power → Spills r → ¬BeginsWithFraction r →
      Spills (.binary (.operator op) l r)
  | operand {op : Kind} {n : Node} :
      Spills n → ¬BeginsWithFraction n → Spills (.unary op n)
  | argument {f : Func} {name : String} {args : List Node} {i : Nat} {n : Node} :
      f.leavesOpen args.length i = true → args[i]? = some n → Spills n →
      Spills (.call (.func f) name args)

theorem beginsWithFraction_left {op : Operator} {l r : Node} (hop : op ≠ .fraction)
    (h : BeginsWithFraction (.binary (.operator op) l r)) : BeginsWithFraction l := by
  cases h with
  | fraction => exact absurd rfl hop
  | left h => exact h

theorem beginsWithFraction_of_set {f : Func} {name : String} {args : List Node} {i : Nat}
    {n m : Node} (hi : args[i]? = some n) (hm : m.BeginsWithFraction → n.BeginsWithFraction)
    (h : BeginsWithFraction (.call (.func f) name (args.set i m))) :
    BeginsWithFraction (.call (.func f) name args) := by
  cases h with
  | @argument _ _ _ j k hopen hleads hj hk =>
      rw [List.length_set] at hopen hleads
      rw [List.getElem?_set] at hj
      split at hj
      · next heq =>
          subst heq
          split at hj
          · cases hj
            exact .argument hopen hleads hi (hm hk)
          · cases hj
      · exact .argument hopen hleads hj hk

section Prefix
variable {mode : Mode} {x : String} {P : Prop}

/-- The text can be put before whatever is no product or sum; and what comes of it begins with a
fraction only if the proposition holds. -/
def Fronts (mode : Mode) (x : String) (P : Prop) : Prop :=
  ∀ {n : Node} {s : String}, Spellable mode .unary n s →
    ∃ m, Spellable mode .multiplicative m (x ++ s) ∧ (m.BeginsWithFraction → P)

theorem Fronts.exists_product (hx : Fronts mode x P) : ∀ {w : List Token} {n : Node} {s : String},
    Derives Func.Accepts .multiplicative w n → (∀ t ∈ w, t.Occurs) → n.latex mode = .ok s →
    ¬n.BeginsWithFraction →
    ∃ m, Spellable mode .multiplicative m (x ++ s) ∧ (m.BeginsWithFraction → P)
  | _, _, _, .ofUnary h, hw, hs, _ => hx ⟨⟨_, hw, h⟩, hs⟩
  | _, _, _, @Derives.product _ u v t op l r hl ht hop hr, hw, hs, hbegins => by
      obtain ⟨hu, htv⟩ := List.forall_mem_append.mp hw
      obtain ⟨-, hv⟩ := List.forall_mem_cons.mp htv
      obtain ⟨join, sl, sr, hjoin, hsl, hsr, rfl⟩ := binary_latex_eq_ok_iff.mp hs
      -- before a fraction the text would go into the numerator
      have hfraction : op ≠ .fraction := by
        rintro rfl
        exact hbegins .fraction
      obtain ⟨sign, rfl⟩ := exists_spaced hjoin hfraction (ne_power_of_isMultiplicative hop)
      obtain ⟨m, hm, hP⟩ := Fronts.exists_product hx hl hu hsl fun h => hbegins (.left h)
      have hproduct := hm.product hop hjoin ⟨⟨v, hv, hr⟩, hsr⟩
      rw [spaced_append_left] at hproduct
      exact ⟨_, hproduct, fun h => hP (beginsWithFraction_left hfraction h)⟩

/-- What is put before a sum is put before its first factor. -/
theorem Fronts.exists_sum (hx : Fronts mode x P) : ∀ {w : List Token} {n : Node} {s : String},
    Derives Func.Accepts .additive w n → (∀ t ∈ w, t.Occurs) → n.latex mode = .ok s →
    ¬n.BeginsWithFraction →
    ∃ m, Spellable mode .additive m (x ++ s) ∧ (m.BeginsWithFraction → P)
  | _, _, _, .ofProduct h, hw, hs, hbegins => by
      obtain ⟨m, hm, hP⟩ := hx.exists_product h hw hs hbegins
      exact ⟨m, hm.ofProduct, hP⟩
  | _, _, _, @Derives.sum _ u v t op l r hl ht hop hr, hw, hs, hbegins => by
      obtain ⟨hu, htv⟩ := List.forall_mem_append.mp hw
      obtain ⟨-, hv⟩ := List.forall_mem_cons.mp htv
      obtain ⟨join, sl, sr, hjoin, hsl, hsr, rfl⟩ := binary_latex_eq_ok_iff.mp hs
      obtain ⟨sign, rfl⟩ := exists_spaced hjoin (ne_fraction hop) (ne_power hop)
      obtain ⟨m, hm, hP⟩ := Fronts.exists_sum hx hl hu hsl fun h => hbegins (.left h)
      have hsum := hm.sum hop hjoin ⟨⟨v, hv, hr⟩, hsr⟩
      rw [spaced_append_left] at hsum
      exact ⟨_, hsum, fun h => hP (beginsWithFraction_left (ne_fraction hop) h)⟩

end Prefix

section Spills
variable {mode : Mode}

/-- A sum has the LaTeX, and it begins with a fraction only if the tree does. -/
def LooksLikeSum (mode : Mode) (n : Node) (s : String) : Prop :=
  ∃ (op : Operator) (l r : Node), op.isAdditive = true ∧
    Spellable mode .additive (.binary (.operator op) l r) s ∧
    (l.BeginsWithFraction → n.BeginsWithFraction)

theorem looksLikeSum_self {op : Operator} {l r : Node} {s : String} (hop : op.isAdditive = true)
    (h : Spellable mode .additive (.binary (.operator op) l r) s) :
    LooksLikeSum mode (.binary (.operator op) l r) s :=
  ⟨op, l, r, hop, h, .left⟩

/-- A factor behind a sum goes to its last term, and so does an exponent. -/
theorem looksLikeSum_left {op : Operator} {l r : Node} {s : String} (hop : op ≠ .fraction)
    (ih : ∀ {sl : String}, Spellable mode .additive l sl → LooksLikeSum mode l sl)
    (h : Spellable mode .additive (.binary (.operator op) l r) s) :
    LooksLikeSum mode (.binary (.operator op) l r) s := by
  obtain ⟨join, sl, sr, hjoin, rfl, ⟨hadd, -⟩ | ⟨hmul, hl, hr⟩ | ⟨rfl, hl, hr⟩⟩ := h.binary_cases
  · exact looksLikeSum_self hadd h
  · obtain ⟨op', l', r', hop', hsum, hbegins⟩ := ih hl.ofProduct
    obtain ⟨sign', sl', sr', hjoin', rfl, hl', hr'⟩ := hsum.of_sum hop'
    obtain ⟨sign, rfl⟩ := exists_spaced hjoin hop (ne_power_of_isMultiplicative hmul)
    have hwhole := hl'.sum hop' hjoin' (hr'.product hmul hjoin hr)
    rw [spaced_spaced] at hwhole
    exact ⟨op', l', _, hop', hwhole, fun h => .left (hbegins h)⟩
  · -- the last term may itself be a product or a power, so its power is written as a call
    obtain ⟨op', l', r', hop', hsum, hbegins⟩ := ih hl.ofCall.ofUnary.ofProduct
    obtain ⟨sign', sl', sr', hjoin', rfl, hl', hr'⟩ := hsum.of_sum hop'
    obtain ⟨m, hm⟩ := hr'.ofProduct.exists_pow hr.ofUnary.ofProduct
    have hwhole := hl'.sum hop' hjoin' hm.ofCall.ofUnary
    obtain rfl : (fun left right => left ++ "^" ++ braces right) = join := Option.some.inj hjoin
    refine ⟨op', l', m, hop', ?_, fun h => .left (hbegins h)⟩
    simpa only [spaced, String.append_assoc] using hwhole

/-- A factor before a sum goes to its first term. -/
theorem looksLikeSum_right {op : Operator} {l r : Node} {s : String} (hop : op ≠ .fraction)
    (hpower : op ≠ .power) (hr : ¬r.BeginsWithFraction)
    (ih : ∀ {sr : String}, Spellable mode .additive r sr → LooksLikeSum mode r sr)
    (h : Spellable mode .additive (.binary (.operator op) l r) s) :
    LooksLikeSum mode (.binary (.operator op) l r) s := by
  obtain ⟨join, sl, sr, hjoin, rfl, ⟨hadd, -⟩ | ⟨hmul, hleft, hright⟩ | ⟨rfl, -⟩⟩ := h.binary_cases
  · exact looksLikeSum_self hadd h
  · obtain ⟨op', l', r', hop', hsum, hbegins⟩ := ih hright.ofUnary.ofProduct
    obtain ⟨sign', sl', sr', hjoin', rfl, hl', hr'⟩ := hsum.of_sum hop'
    obtain ⟨sign, rfl⟩ := exists_spaced hjoin hop hpower
    have hfronts : Fronts mode (sl ++ " " ++ sign ++ " ") l.BeginsWithFraction := by
      intro n sn hn
      have hproduct := hleft.product hmul hjoin hn
      exact ⟨_, hproduct, beginsWithFraction_left hop⟩
    obtain ⟨w, hw, hderives⟩ := hl'.derives
    obtain ⟨m, hm, hP⟩ := hfronts.exists_sum hderives hw hl'.latex_eq (mt hbegins hr)
    have hwhole := hm.sum hop' hjoin' hr'
    rw [spaced_append_left] at hwhole
    exact ⟨op', m, r', hop', hwhole, fun h => .left (hP h)⟩
  · exact absurd rfl hpower

/-- A sign before a sum goes to its first term. -/
theorem looksLikeSum_operand {op : Kind} {n : Node} {s : String} (hn : ¬n.BeginsWithFraction)
    (ih : ∀ {sn : String}, Spellable mode .additive n sn → LooksLikeSum mode n sn)
    (h : Spellable mode .additive (.unary op n) s) : LooksLikeSum mode (.unary op n) s := by
  obtain ⟨o, x, sn, rfl, hop, hsign, rfl, hoperand⟩ := h.of_unary
  obtain ⟨op', l', r', hop', hsum, hbegins⟩ := ih hoperand.ofUnary.ofProduct
  obtain ⟨sign', sl', sr', hjoin', rfl, hl', hr'⟩ := hsum.of_sum hop'
  have hfronts : Fronts mode x False := fun hm =>
    ⟨_, (hm.sign hop hsign).ofUnary, fun h => by cases h⟩
  obtain ⟨w, hw, hderives⟩ := hl'.derives
  obtain ⟨m, hm, hP⟩ := hfronts.exists_sum hderives hw hl'.latex_eq (mt hbegins hn)
  have hwhole := hm.sum hop' hjoin' hr'
  rw [spaced_append_left] at hwhole
  exact ⟨op', m, r', hop', hwhole, fun h => (hP h).elim⟩

/-- One side of a sum that a call leaves without a bracket stands before or behind the call. -/
theorem looksLikeSum_argument {f : Func} {name : String} {args : List Node} {i : Nat} {n : Node}
    {s : String} (hopen : f.leavesOpen args.length i = true) (hi : args[i]? = some n)
    (ih : ∀ {sn : String}, Spellable mode .additive n sn → LooksLikeSum mode n sn)
    (h : Spellable mode .additive (.call (.func f) name args) s) :
    LooksLikeSum mode (.call (.func f) name args) s := by
  obtain ⟨sn, x, y, hn, rfl, hxy, hset⟩ := h.exists_frame hopen hi
  obtain ⟨op, l, r, hop, hsum, hbegins⟩ := ih hn
  rcases hxy with ⟨rfl, hleads⟩ | rfl
  · refine ⟨op, l, _, hop, hsum.spilt_left hop hset, fun h => ?_⟩
    exact .argument hopen hleads hi (hbegins h)
  · exact ⟨op, _, r, hop, hsum.spilt_right hop hset, beginsWithFraction_of_set hi hbegins⟩

/-- A sum that stands open makes the whole tree look like a sum. -/
theorem Spills.looksLikeSum {n : Node} (h : n.Spills) : ∀ {s : String},
    Spellable mode .additive n s → LooksLikeSum mode n s := by
  induction h with
  | sum hop => exact looksLikeSum_self hop
  | left hop _ ih => exact looksLikeSum_left hop ih
  | right hop hpower _ hr ih => exact looksLikeSum_right hop hpower hr ih
  | operand _ hn ih => exact looksLikeSum_operand hn ih
  | argument hopen hi _ ih => exact looksLikeSum_argument hopen hi ih

end Spills

/-- A tree that begins with a fraction shows it. -/
theorem BeginsWithFraction.exists_standsOpen {n : Node} (h : n.BeginsWithFraction) :
    ∃ l r, n.StandsOpen true true (.binary (.operator .fraction) l r) := by
  induction h with
  | @fraction l r => exact ⟨l, r, .refl⟩
  | @left op l r _ ih =>
      by_cases hop : op = .fraction
      · subst hop
        exact ⟨l, r, .refl⟩
      · obtain ⟨l', r', hopen⟩ := ih
        exact ⟨l', r', .head (.left hop) hopen⟩
  | argument hleaves _ hi _ ih =>
      obtain ⟨hshown, -, habs, hbinds⟩ := leavesOpen_iff.mp hleaves
      obtain ⟨l', r', hopen⟩ := ih
      exact ⟨l', r', .head (.argument hshown hi (fun _ => habs) fun _ => hbinds) hopen⟩

/-- If no fraction stands open, every sum that does comes out. -/
theorem StandsOpen.spills {op : Operator} {n l r : Node} (hop : op.isAdditive = true)
    (h : n.StandsOpen true true (.binary (.operator op) l r)) :
    (∀ l' r', ¬n.StandsOpen true true (.binary (.operator .fraction) l' r')) → n.Spills := by
  induction h using Relation.ReflTransGen.head_induction_on with
  | refl => exact fun _ => .sum hop
  | @head n m hshows _ ih =>
      intro hfraction
      have hpart : ∀ l' r', ¬m.StandsOpen true true (.binary (.operator .fraction) l' r') :=
        fun l' r' hopen => hfraction l' r' (.head hshows hopen)
      have hbegins : ¬m.BeginsWithFraction := by
        intro h
        obtain ⟨l', r', hopen⟩ := h.exists_standsOpen
        exact hpart l' r' hopen
      cases hshows with
      | left hop' => exact .left hop' (ih hpart)
      | right hop' hpower => exact .right hop' hpower (ih hpart) hbegins
      | operand => exact .operand (ih hpart) hbegins
      | argument hshown hi habs hbinds =>
          obtain ⟨hlt, -⟩ := List.getElem?_eq_some_iff.mp hi
          refine .argument (leavesOpen_iff.mpr ⟨hshown, hlt, habs rfl, hbinds rfl⟩) hi ?_
          exact ih hpart
      | inlineMath hbars | displayMath hbars => cases hbars

end Node

namespace Typesetting

open Grammar

/-- A call is not typeset as a sum if it encloses its sums, be it in brackets or in bars or
between a quantifier and its comma, as far as it is sure which of these belong together.  But it
is typeset as some sum if it has a sum as an argument that it leaves without a bracket, and if a
sum comes out of it from any depth. -/
theorem call_looks_like_sum {mode : Mode} {source : String} {f : Func} {name : String}
    {args : List Node} (hcall : .call (.func f) name args ∈ expressions source) :
    (∀ bars commas, Node.Clear bars commas (.call (.func f) name args) →
      Node.SumsEnclosed bars commas (.call (.func f) name args) →
      ∀ {source' : String} {op : Operator} {l r : Node}, op.isAdditive = true →
        .binary (.operator op) l r ∈ expressions source' →
        (Node.call (.func f) name args).latex mode ≠
          (Node.binary (.operator op) l r).latex mode) ∧
    (∀ {i : Nat} {op : Operator} {l r : Node}, f.leavesOpen args.length i = true →
      args[i]? = some (.binary (.operator op) l r) → op.isAdditive = true →
      ∃ source' l' r', expressions source' = [.binary (.operator op) l' r'] ∧
        (Node.call (.func f) name args).latex mode =
          (Node.binary (.operator op) l' r').latex mode) ∧
    (Node.Spills (.call (.func f) name args) →
      ∃ (source' : String) (op : Operator) (l r : Node), op.isAdditive = true ∧
        expressions source' = [.binary (.operator op) l r] ∧
        (Node.call (.func f) name args).latex mode =
          (Node.binary (.operator op) l r).latex mode) := by
  obtain ⟨s, hspellable⟩ := exists_spellable mode hcall
  have hs := hspellable.latex_eq
  refine ⟨fun bars commas hclear hsums => ?_, fun hopen hi hop => ?_, fun hspills => ?_⟩
  · intro source' op l r hop hsum heq
    exact (proper_of_mem hcall).latex_ne_sum hclear hsums (proper_of_mem hsum) hop hs (heq ▸ hs)
  · obtain ⟨sn, x, y, hsum, rfl, ⟨rfl, -⟩ | rfl, hset⟩ := hspellable.exists_frame hopen hi
    · obtain ⟨source', hsource', hlatex⟩ := exists_source_of_latex hs (hsum.spilt_left hop hset)
      exact ⟨source', _, _, hsource', hlatex⟩
    · obtain ⟨source', hsource', hlatex⟩ := exists_source_of_latex hs (hsum.spilt_right hop hset)
      exact ⟨source', _, _, hsource', hlatex⟩
  · obtain ⟨op, l, r, hop, hsum, -⟩ := hspills.looksLikeSum hspellable
    obtain ⟨source', hsource', hlatex⟩ := exists_source_of_latex hs hsum
    exact ⟨source', op, l, r, hop, hsource', hlatex⟩

/-- The comma of an integral closes what its sign opens; a product has nothing of that kind, not
even around a sum that is the base of a power in it. -/
theorem call_looks_like_sum_integral :
    (∀ {source : String} {op : Operator} {l r : Node}, op.isAdditive = true →
      .binary (.operator op) l r ∈ expressions source →
      (Node.call (.func .integral) "integral"
          [.binary (.operator .plus) (.identifier "a" none) (.identifier "b" none),
            .identifier "x" none]).latex .plain ≠
        (Node.binary (.operator op) l r).latex .plain) ∧
    (∃ source l r, expressions source = [.binary (.operator .plus) l r] ∧
      (Node.call (.func .times) "times"
          [.identifier "x" none,
            .binary (.operator .plus) (.identifier "a" none) (.identifier "b" none)]).latex .plain =
        (Node.binary (.operator .plus) l r).latex .plain) ∧
    ∃ (source : String) (op : Operator) (l r : Node), op.isAdditive = true ∧
      expressions source = [.binary (.operator op) l r] ∧
      (Node.call (.func .times) "times"
          [.call (.func .pow) "pow"
            [.binary (.operator .plus) (.identifier "a" none) (.identifier "b" none),
              .identifier "n" none],
            .identifier "c" none]).latex .plain =
        (Node.binary (.operator op) l r).latex .plain := by
  have hintegral : .call (.func .integral) "integral"
      [.binary (.operator .plus) (.identifier "a" none) (.identifier "b" none),
        .identifier "x" none] ∈ expressions "integral(a + b, x)" := List.mem_singleton_self _
  have htimes : .call (.func .times) "times"
      [.identifier "x" none,
        .binary (.operator .plus) (.identifier "a" none) (.identifier "b" none)] ∈
      expressions "times(x, a + b)" := List.mem_singleton_self _
  have hnested : .call (.func .times) "times"
      [.call (.func .pow) "pow"
        [.binary (.operator .plus) (.identifier "a" none) (.identifier "b" none),
          .identifier "n" none],
        .identifier "c" none] ∈ expressions "times(pow(a + b, n), c)" := List.mem_singleton_self _
  have hshown : Func.integral.shown 2 = [0, 1] := by decide
  refine ⟨(call_looks_like_sum hintegral).1 false true
    ⟨fun h => absurd h Bool.false_ne_true, fun _ g name m hg hopen => ?_⟩ ?_,
    (call_looks_like_sum htimes).2.1 (i := 1) (by decide) rfl rfl,
    (call_looks_like_sum hnested).2.2 (.argument (i := 0) (by decide) rfl
      (.argument (i := 0) (by decide) rfl (.sum rfl)))⟩
  · rcases Node.standsOpen_call hopen with heq | ⟨i, n, hi, hn, -, -, hopen⟩
    · cases heq
    · obtain rfl | rfl : i = 0 ∨ i = 1 := by simpa [hshown] using hi
      · cases hn
        rcases Relation.ReflTransGen.cases_head hopen with heq | ⟨k, hshows, hopen⟩
        · cases heq
        · cases hshows <;> cases Node.standsOpen_identifier hopen
      · cases hn
        cases Node.standsOpen_identifier hopen
  · intro op l r hop hopen
    rcases Node.standsOpen_call hopen with heq | ⟨i, n, hi, hn, -, hbinds, hopen⟩
    · cases heq
    · obtain rfl | rfl : i = 0 ∨ i = 1 := by simpa [hshown] using hi
      · exact absurd (hbinds rfl) (by decide)
      · cases hn
        cases Node.standsOpen_identifier hopen

/-- Nothing keeps the base of a power together. -/
theorem pow_of_sum_eq_sum :
    expressions "pow(a + b, n)" =
      [.call (.func .pow) "pow"
        [.binary (.operator .plus) (.identifier "a" none) (.identifier "b" none),
          .identifier "n" none]] ∧
    expressions "a + b^n" =
      [.binary (.operator .plus) (.identifier "a" none)
        (.binary (.operator .power) (.identifier "b" none) (.identifier "n" none))] ∧
    ∀ mode, (Node.call (.func .pow) "pow"
        [.binary (.operator .plus) (.identifier "a" none) (.identifier "b" none),
          .identifier "n" none]).latex mode =
      (Node.binary (.operator .plus) (.identifier "a" none)
        (.binary (.operator .power) (.identifier "b" none) (.identifier "n" none))).latex mode :=
  ⟨rfl, rfl, fun _ => rfl⟩

/-- Where no fraction stands open, and it is sure which bars and commas belong together, just the
trees with an open sum are typeset as sums. -/
theorem looks_like_sum_iff {mode : Mode} {source : String} {n : Node}
    (hn : n ∈ expressions source) (hclear : n.Clear true true)
    (hfraction : ∀ l r, ¬n.StandsOpen true true (.binary (.operator .fraction) l r)) :
    (∃ (source' : String) (op : Operator) (l r : Node), op.isAdditive = true ∧
      .binary (.operator op) l r ∈ expressions source' ∧
      n.latex mode = (Node.binary (.operator op) l r).latex mode) ↔
    ¬n.SumsEnclosed true true := by
  obtain ⟨s, hspellable⟩ := exists_spellable mode hn
  have hs := hspellable.latex_eq
  constructor
  · rintro ⟨source', op, l, r, hop, hsum, heq⟩ hsums
    exact (proper_of_mem hn).latex_ne_sum hclear hsums (proper_of_mem hsum) hop hs (heq ▸ hs)
  · intro hsums
    simp only [Node.SumsEnclosed, not_forall, not_not] at hsums
    obtain ⟨op, l, r, hop, hopen⟩ := hsums
    obtain ⟨op', l', r', hop', hsum, -⟩ := (hopen.spills hop hfraction).looksLikeSum hspellable
    obtain ⟨source', hsource', hlatex⟩ := exists_source_of_latex hs hsum
    refine ⟨source', op', l', r', hop', ?_, hlatex⟩
    rw [hsource']
    exact List.mem_singleton_self _

end Typesetting

end PlainMath
