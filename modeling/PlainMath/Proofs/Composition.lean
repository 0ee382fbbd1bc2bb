/-
# `Proofs.Composition` — trees are typeset by filling templates

Operators, signs, groups and the delimiters of mathematics are typeset like most functions: the
tree has a template, and its LaTeX is the template filled with the LaTeX of the trees directly
below it.  Only the rows of an environment are put together in another way, since there can be
any number of them.

    which template a tree has                            (`Node.template?`)
    all templates, to be looked through                  (`Node.templates`)
    a template has a place for each child                (`Node.arg_mem_template?`)
    what holds of leaves and characters, and is kept by
    templates and rows, holds of every proper tree       (`Node.Proper.latex_induction`)
    a document is put together from proper trees         (`Typesetting.exists_parts`)
-/
import PlainMath.Proofs.Outline

namespace PlainMath

/-- Of two lists that are related member by member, each member of the second has its partner. -/
theorem exists_of_mem_forall₂ {α β : Type} {R : α → β → Prop} {l : List α} {m : List β}
    (h : List.Forall₂ R l m) {b : β} (hb : b ∈ m) : ∃ a ∈ l, R a b := by
  induction h with
  | nil => cases hb
  | @cons a b' l m hab _ ih =>
      rcases List.mem_cons.mp hb with rfl | hb
      · exact ⟨a, List.mem_cons_self, hab⟩
      · obtain ⟨a', ha', hab'⟩ := ih hb
        exact ⟨a', List.mem_cons_of_mem a ha', hab'⟩

/-! ## The template of a tree -/

/-- The template of a function for so many arguments. -/
def Func.template? (f : Func) (count : Nat) : Option Template :=
  match f.form with
  | .shapes templates => templates.lookup count
  | .environment _ => none

/-- The templates of a form. -/
def Form.templates : Form → List Template
  | .shapes templates => templates.map Prod.snd
  | .environment _ => []

theorem Func.template?_mem {f : Func} {count : Nat} {t : Template}
    (h : f.template? count = some t) : t ∈ f.form.templates := by
  unfold Func.template? at h
  cases hform : f.form with
  | environment name => simp [hform] at h
  | shapes templates =>
      simp only [hform] at h
      exact List.mem_map_of_mem (Lexeme.lookup_mem h)

/-- Whether each template of a form has places for its arguments and for nothing else. -/
def Form.placesArguments : Form → Bool
  | .shapes templates => templates.all fun p =>
      (List.range p.1).all (fun i => p.2.contains (.arg i)) &&
        p.2.all fun piece =>
          match piece with
          | .arg i => i < p.1
          | _ => true
  | .environment _ => true

theorem Func.placesArguments_form (f : Func) : f.form.placesArguments = true := by
  cases f <;> decide

theorem Func.arg_mem_template? {f : Func} {count : Nat} {t : Template}
    (h : f.template? count = some t) {i : Nat} : .arg i ∈ t ↔ i < count := by
  have hplaces := f.placesArguments_form
  unfold Func.template? at h
  cases hform : f.form with
  | environment name => simp [hform] at h
  | shapes templates =>
      simp only [hform] at h hplaces
      have ht := List.all_eq_true.mp hplaces _ (Lexeme.lookup_mem h)
      obtain ⟨hall, honly⟩ := (Bool.and_eq_true _ _).mp ht
      constructor
      · intro hi
        simpa using List.all_eq_true.mp honly _ hi
      · intro hi
        simpa using List.all_eq_true.mp hall i (List.mem_range.mpr hi)

/-- A template with a place for one argument and none for the next tells how many there are. -/
theorem Func.count_of_template? {f : Func} {count : Nat} {t : Template}
    (h : f.template? count = some t) {i : Nat} (hlast : .arg i ∈ t) (hnext : .arg (i + 1) ∉ t) :
    count = i + 1 := by
  have hlt := (Func.arg_mem_template? h).mp hlast
  have hge := mt (Func.arg_mem_template? h).mpr hnext
  omega

namespace Node

/-- The template that a tree is typeset with; a leaf, a text and the rows of an environment have
none. -/
def template? : Node → Option Template
  | .binary (.operator op) _ _ => if op = .equals then none else some (operatorTemplate op)
  | .unary op _ => (sign? op).map fun sign => [.text sign, .arg 0]
  | .call (.func f) _ args => f.template? args.length
  | .grouping _ => some (Template.enclosed .paren [.arg 0])
  | .inlineMath _ => some [.text "$", .arg 0, .text "$"]
  | .displayMath _ => some [.text "$$", .arg 0, .text "$$"]
  | _ => none

/-- The templates of trees with one child that are no calls. -/
def unaryTemplates : List Template :=
  [[.text "+", .arg 0], [.text "-", .arg 0], Template.enclosed .paren [.arg 0],
    [.text "$", .arg 0, .text "$"], [.text "$$", .arg 0, .text "$$"]]

/-- All templates of trees. -/
def templates : List Template :=
  (Operator.all.filter (· ≠ .equals)).map operatorTemplate ++ unaryTemplates ++
    Func.all.flatMap fun f => f.form.templates

theorem template?_cases {n : Node} {t : Template} (h : n.template? = some t) :
    (∃ op l r, op ≠ .equals ∧ n = .binary (.operator op) l r ∧ t = operatorTemplate op) ∨
    (∃ f word args, n = .call (.func f) word args ∧ f.template? args.length = some t) ∨
    (∃ m, n.children = [m]) ∧ t ∈ unaryTemplates := by
  unfold template? at h
  split at h
  · next op l r =>
      split at h
      · cases h
      · next hop =>
          cases h
          exact .inl ⟨op, l, r, hop, rfl, rfl⟩
  · next op m =>
      obtain ⟨sign, hsign, rfl⟩ := Option.map_eq_some_iff.mp h
      refine .inr (.inr ⟨⟨m, rfl⟩, ?_⟩)
      unfold sign? at hsign
      split at hsign
      · cases hsign
        decide
      · cases hsign
        decide
      · cases hsign
  · next f word args => exact .inr (.inl ⟨f, word, args, rfl, h⟩)
  · next m =>
      cases h
      exact .inr (.inr ⟨⟨m, rfl⟩, by decide⟩)
  · next m =>
      cases h
      exact .inr (.inr ⟨⟨m, rfl⟩, by decide⟩)
  · next m =>
      cases h
      exact .inr (.inr ⟨⟨m, rfl⟩, by decide⟩)
  · cases h

theorem template?_mem {n : Node} {t : Template} (h : n.template? = some t) : t ∈ templates := by
  rcases template?_cases h with ⟨op, l, r, hop, -, rfl⟩ | ⟨f, word, args, -, ht⟩ | ⟨-, ht⟩
  · refine List.mem_append_left _ (List.mem_append_left _ (List.mem_map_of_mem ?_))
    exact List.mem_filter.mpr ⟨by cases op <;> decide, decide_eq_true hop⟩
  · refine List.mem_append_right _ (List.mem_flatMap.mpr ⟨f, ?_, Func.template?_mem ht⟩)
    cases f <;> decide
  · exact List.mem_append_left _ (List.mem_append_right _ ht)

/-- A template has places for the children of its tree and for nothing else. -/
theorem arg_mem_template? {n : Node} {t : Template} (h : n.template? = some t) {i : Nat} :
    .arg i ∈ t ↔ i < n.children.length := by
  rcases template?_cases h with ⟨op, l, r, hop, rfl, rfl⟩ | ⟨f, word, args, rfl, ht⟩ | ⟨⟨m, hm⟩, ht⟩
  · have hchildren : (Node.binary (.operator op) l r).children = [l, r] := rfl
    rw [hchildren]
    cases op with
    | equals => exact absurd rfl hop
    | _ =>
        simp [operatorTemplate, Template.between, Template.enclosed]
        omega
  · exact Func.arg_mem_template? ht
  · rw [hm]
    simp only [unaryTemplates, List.mem_cons, List.not_mem_nil, or_false] at ht
    rcases ht with rfl | rfl | rfl | rfl | rfl <;> simp [Template.enclosed]

/-- What holds of leaves and of characters of text, and is kept when a template is filled or rows
are put together, holds of every proper tree and its LaTeX. -/
theorem Proper.latex_induction {mode : Mode} {P : Node → String → Prop}
    (leaf : ∀ {n : Node} {s : String}, Leaf n s → P n s)
    (text : ∀ {c : Char}, Lexeme.hasNoRule c = true →
      P (.text (String.singleton c)) (String.singleton c))
    (fill : ∀ {n : Node} {t : Template} {parts : List String}, n.template? = some t →
      List.Forall₂ P n.children parts → P n (t.fill parts))
    (rows : ∀ {f : Func} {word name : String} {args : List Node} {parts : List String},
      f.form = .environment name → List.Forall₂ P args parts →
      P (.call (.func f) word args) (Func.environmentLatex name parts))
    {n : Node} (hn : n.Proper) : ∀ {s : String}, n.latex mode = .ok s → P n s := by
  induction hn with
  | leaf hleaf =>
      intro s h
      rw [hleaf.latex_eq] at h
      cases h
      exact leaf hleaf
  | text hc =>
      intro s h
      cases h
      exact text hc
  | @binary op l r hop _ _ ihl ihr =>
      intro s h
      obtain ⟨join, sl, sr, hjoin, hl, hr, rfl⟩ := binary_latex_eq_ok_iff.mp h
      rw [join_eq_fill hjoin]
      exact fill (if_neg hop) (.cons (ihl hl) (.cons (ihr hr) .nil))
  | @unary op n _ _ ih =>
      intro s h
      obtain ⟨sign, sn, hsign, hsn, rfl⟩ := unary_latex_eq_ok_iff.mp h
      have hfill : sign ++ sn = Template.fill [.text sign, .arg 0] [sn] := by
        simp [Template.fill, Piece.fill, String.join_cons]
      rw [hfill]
      exact fill (congrArg (Option.map _) hsign) (.cons (ih hsn) .nil)
  | @call f args _ _ ih =>
      intro s h
      obtain ⟨parts, hparts, hs⟩ := call_latex_eq_ok_iff.mp h
      have hargs : List.Forall₂ P args parts :=
        ((List.forall₂_and_left _ _).mpr ⟨ih, latexAll_eq_ok_iff.mp hparts⟩).imp
          fun _ _ h => h.1 h.2
      unfold Func.latex? at hs
      cases hform : f.form with
      | environment name =>
          simp only [hform, Option.some.injEq] at hs
          subst hs
          exact rows hform hargs
      | shapes templates =>
          simp only [hform, Option.map_eq_some_iff] at hs
          obtain ⟨t, ht, rfl⟩ := hs
          refine fill ?_ hargs
          simp only [template?, Func.template?, hform, hargs.length_eq, ht]
  | @grouping n _ ih =>
      intro s h
      obtain ⟨sn, hsn, rfl⟩ := grouping_latex_eq_ok_iff.mp h
      have hfill : "(" ++ sn ++ ")" = (Template.enclosed .paren [.arg 0]).fill [sn] := by
        apply String.toList_inj.mp
        simp [Template.enclosed, Template.fill, Piece.fill, String.join_cons, Bracket.openChar,
          Bracket.closeChar]
      rw [hfill]
      exact fill rfl (.cons (ih hsn) .nil)
  | @inlineMath n _ ih =>
      intro s h
      obtain ⟨sn, hsn, rfl⟩ := inlineMath_latex_eq_ok_iff.mp h
      rw [Mode.wrap, wrap_eq_fill]
      exact fill rfl (.cons (ih hsn) .nil)
  | @displayMath n _ ih =>
      intro s h
      obtain ⟨sn, hsn, rfl⟩ := displayMath_latex_eq_ok_iff.mp h
      rw [Mode.wrap, wrap_eq_fill]
      exact fill rfl (.cons (ih hsn) .nil)

end Node

namespace Typesetting

/-- What is typeset is put together from the LaTeX of proper trees, the expressions of the
source. -/
theorem exists_parts {options : Options} {source latex : String}
    (h : Typesets options source latex) :
    ∃ parts : List String,
      List.Forall₂ (fun n s => n.Proper ∧ n.latex options.mode = .ok s) (expressions source) parts ∧
      latex = Node.assemble options.mode false
        (((expressions source).map Node.isVerbatim).zip parts) := by
  obtain ⟨document, hparse, hlatex⟩ := typesets_iff.mp h
  obtain ⟨ns, rfl, -⟩ := Parser.document_of_source hparse
  have hns : expressions source = ns := by simp only [expressions, hparse]
  obtain ⟨parts, hparts, rfl⟩ := Node.document_latex_eq_ok_iff.mp hlatex
  rw [hns]
  refine ⟨parts, ?_, rfl⟩
  exact (List.forall₂_and_left _ _).mpr
    ⟨Parser.proper_of_parse hparse, Node.latexAll_eq_ok_iff.mp hparts⟩

end Typesetting

end PlainMath
