/-
# `Proofs.Rendering` — the LaTeX of trees and documents

Rendering can fail: each sort of node looks something up.  The first half says that nothing
the grammar derives makes it fail; what a derivation guarantees is just what is looked up.

    an operator between operands    it is not the sign of equality    (`join?_of_ne_equals`)
    an operator before an operand   it is a sign                      (`sign?_of_isAdditive`)
    a call                          its count is accepted             (`latex_of_accepts`)

The other way round, LaTeX that was made can be taken apart into that of the nodes below
(`binary_latex_eq_ok_iff` and the others).

The second half is about documents side by side: all that the second one has to know of the
first is whether its last part was put between delimiters (`document_latex_append`).
-/
import PlainMath.Node.Latex
import PlainMath.Proofs.Grammar

namespace PlainMath

theorem bind_eq_ok_iff {ε α β : Type} {x : Except ε α} {f : α → Except ε β} {b : β} :
    (x >>= f) = .ok b ↔ ∃ a, x = .ok a ∧ f a = .ok b := by
  cases x with
  | error e =>
      constructor
      · intro h
        cases h
      · rintro ⟨a, h, -⟩
        cases h
  | ok a =>
      constructor
      · intro h
        exact ⟨a, rfl, h⟩
      · rintro ⟨a, h, hb⟩
        cases h
        exact hb

/-! ## Tables -/

theorem Template.fill_cons (piece : Piece) (t : Template) (args : List String) :
    Template.fill (piece :: t) args = piece.fill args ++ Template.fill t args := by
  simp [fill, String.join_cons]

theorem Func.environmentLatex_eq (name : String) (rows : List String) :
    environmentLatex name rows = "\\begin\x7b" ++ name ++ "\x7d " ++ " \\\\ ".intercalate rows ++
      " \\end\x7b" ++ name ++ "\x7d" := rfl

/-- A call with an accepted number of arguments has a template. -/
theorem Func.latex_of_accepts {f : Func} {args : List String} (h : f.Accepts args.length) :
    ∃ s, f.latex args = .ok s := by
  unfold Func.Accepts Func.arity at h
  unfold Func.latex Func.latex?
  cases hform : f.form with
  | environment name => exact ⟨_, rfl⟩
  | shapes templates =>
      simp only [hform, Arity.accepts, List.contains_eq_mem, List.mem_map, decide_eq_true_eq] at h
      obtain ⟨⟨count, template⟩, hmem, hcount⟩ := h
      obtain rfl : count = args.length := by exact_mod_cast hcount
      cases hlookup : templates.lookup args.length with
      | some t => exact ⟨t.fill args, by simp [hlookup]⟩
      | none =>
          have hne := List.lookup_eq_none_iff.mp hlookup _ hmem
          simp at hne

namespace Node

section Equations
variable (mode : Mode)

theorem latex_document (nodes : List Node) :
    (Node.document nodes).latex mode = (do
      let parts ← latexAll mode nodes
      return assemble mode false ((nodes.map isVerbatim).zip parts)) := rfl

theorem latex_binary (op : Kind) (left right : Node) :
    (Node.binary op left right).latex mode =
      match join? op with
      | some join => do
        let l ← left.latex mode
        let r ← right.latex mode
        return join l r
      | none => .error (.noOperator op) := rfl

theorem latex_unary (op : Kind) (operand : Node) :
    (Node.unary op operand).latex mode =
      match sign? op with
      | some sign => do
        let s ← operand.latex mode
        return sign ++ s
      | none => .error (.noSign op) := rfl

theorem latex_call (f : Func) (name : String) (args : List Node) :
    (Node.call (.func f) name args).latex mode = latexAll mode args >>= f.latex := rfl

theorem latex_grouping (inner : Node) :
    (Node.grouping inner).latex mode = (do
      let s ← inner.latex mode
      return "(" ++ s ++ ")") := rfl

theorem latex_inlineMath (inner : Node) :
    (Node.inlineMath inner).latex mode = (do
      let s ← inner.latex mode
      return Mode.inline.wrap s) := rfl

theorem latex_displayMath (inner : Node) :
    (Node.displayMath inner).latex mode = (do
      let s ← inner.latex mode
      return Mode.display.wrap s) := rfl

theorem latexAll_nil : latexAll mode [] = .ok [] := rfl

theorem latexAll_cons (n : Node) (rest : List Node) :
    latexAll mode (n :: rest) = (do
      let s ← n.latex mode
      let parts ← latexAll mode rest
      return s :: parts) := rfl

end Equations

/-- Every operator of the grammar puts its operands together; a sign of equality would not. -/
theorem join?_of_ne_equals {op : Operator} (h : op ≠ .equals) :
    ∃ join, join? (.operator op) = some join := by
  cases op with
  | equals => exact absurd rfl h
  | _ => exact ⟨_, rfl⟩

theorem sign?_of_isAdditive {op : Operator} (h : op.isAdditive = true) :
    ∃ sign, sign? (.operator op) = some sign := by
  cases op with
  | plus | minus => exact ⟨_, rfl⟩
  | _ => cases h

theorem ne_fraction {op : Operator} (hop : op.isAdditive = true) : op ≠ .fraction := by
  rintro rfl
  cases hop

theorem ne_power {op : Operator} (hop : op.isAdditive = true) : op ≠ .power := by
  rintro rfl
  cases hop

theorem ne_power_of_isMultiplicative {op : Operator} (hop : op.isMultiplicative = true) :
    op ≠ .power := by
  rintro rfl
  cases hop

/-- Every operator but those of fractions and powers puts a sign between its operands. -/
theorem exists_spaced {op : Operator} {join : String → String → String}
    (hjoin : join? (.operator op) = some join) (hfraction : op ≠ .fraction)
    (hpower : op ≠ .power) : ∃ sign, join = spaced sign := by
  cases op with
  | fraction => exact absurd rfl hfraction
  | power => exact absurd rfl hpower
  | equals => cases hjoin
  | _ => exact ⟨_, (Option.some.inj hjoin).symm⟩

/-! ## Trees of the grammar -/

/-- The tree has LaTeX. -/
def HasLatex (mode : Mode) (n : Node) : Prop := ∃ s, n.latex mode = .ok s

section HasLatex
variable {mode : Mode} {n l r : Node}

theorem HasLatex.binary {op : Operator} (hop : op ≠ .equals) (hl : l.HasLatex mode)
    (hr : r.HasLatex mode) : (Node.binary (.operator op) l r).HasLatex mode := by
  obtain ⟨join, hjoin⟩ := join?_of_ne_equals hop
  obtain ⟨s, hs⟩ := hl
  obtain ⟨t, ht⟩ := hr
  refine ⟨join s t, ?_⟩
  rw [latex_binary, hjoin, hs, ht]
  rfl

theorem HasLatex.unary {op : Operator} (hop : op.isAdditive = true) (h : n.HasLatex mode) :
    (Node.unary (.operator op) n).HasLatex mode := by
  obtain ⟨sign, hsign⟩ := sign?_of_isAdditive hop
  obtain ⟨s, hs⟩ := h
  refine ⟨sign ++ s, ?_⟩
  rw [latex_unary, hsign, hs]
  rfl

theorem latexAll_length : ∀ {ns : List Node} {parts : List String},
    latexAll mode ns = .ok parts → parts.length = ns.length
  | [], _, h => by
      cases h
      rfl
  | n :: ns, parts, h => by
      rw [latexAll_cons] at h
      obtain ⟨s, -, h⟩ := bind_eq_ok_iff.mp h
      obtain ⟨rest, hrest, h⟩ := bind_eq_ok_iff.mp h
      cases h
      simp [latexAll_length hrest]

theorem HasLatex.call {f : Func} {name : String} {args : List Node}
    (haccepts : f.Accepts args.length) (h : ∃ parts, latexAll mode args = .ok parts) :
    (Node.call (.func f) name args).HasLatex mode := by
  obtain ⟨parts, hparts⟩ := h
  obtain ⟨s, hs⟩ := Func.latex_of_accepts (latexAll_length hparts ▸ haccepts)
  refine ⟨s, ?_⟩
  rw [latex_call, hparts]
  exact hs

theorem latexAll_ok : ∀ {ns : List Node}, (∀ n ∈ ns, n.HasLatex mode) →
    ∃ parts, latexAll mode ns = .ok parts
  | [], _ => ⟨[], rfl⟩
  | n :: ns, h => by
      obtain ⟨s, hs⟩ := h n List.mem_cons_self
      obtain ⟨parts, hparts⟩ := latexAll_ok fun m hm => h m (List.mem_cons_of_mem n hm)
      refine ⟨s :: parts, ?_⟩
      rw [latexAll_cons, hs, hparts]
      rfl

theorem document_latex_eq_ok_iff {ns : List Node} {s : String} :
    (Node.document ns).latex mode = .ok s ↔
      ∃ parts, latexAll mode ns = .ok parts ∧
        assemble mode false ((ns.map isVerbatim).zip parts) = s := by
  rw [latex_document, bind_eq_ok_iff]
  simp only [pure, Except.pure, Except.ok.injEq]

/-! ## What the LaTeX of a tree is made of -/

theorem binary_latex_eq_ok_iff {op : Kind} {s : String} :
    (Node.binary op l r).latex mode = .ok s ↔
      ∃ join sl sr, join? op = some join ∧ l.latex mode = .ok sl ∧ r.latex mode = .ok sr ∧
        join sl sr = s := by
  rw [latex_binary]
  cases hjoin : join? op with
  | none => simp
  | some join => simp [bind_eq_ok_iff, pure, Except.pure]

theorem unary_latex_eq_ok_iff {op : Kind} {s : String} :
    (Node.unary op n).latex mode = .ok s ↔
      ∃ sign sn, sign? op = some sign ∧ n.latex mode = .ok sn ∧ sign ++ sn = s := by
  rw [latex_unary]
  cases hsign : sign? op with
  | none => simp
  | some sign => simp [bind_eq_ok_iff, pure, Except.pure]

theorem call_latex_eq_ok_iff {f : Func} {name : String} {args : List Node} {s : String} :
    (Node.call (.func f) name args).latex mode = .ok s ↔
      ∃ parts, latexAll mode args = .ok parts ∧ f.latex? parts = some s := by
  have hfunc : ∀ parts, f.latex parts = .ok s ↔ f.latex? parts = some s := by
    intro parts
    unfold Func.latex
    cases f.latex? parts <;> simp
  rw [latex_call]
  simp only [bind_eq_ok_iff, hfunc]

theorem grouping_latex_eq_ok_iff {s : String} :
    (Node.grouping n).latex mode = .ok s ↔
      ∃ sn, n.latex mode = .ok sn ∧ "(" ++ sn ++ ")" = s := by
  rw [latex_grouping, bind_eq_ok_iff]
  simp only [pure, Except.pure, Except.ok.injEq]

theorem inlineMath_latex_eq_ok_iff {s : String} :
    (Node.inlineMath n).latex mode = .ok s ↔
      ∃ sn, n.latex mode = .ok sn ∧ Mode.inline.wrap sn = s := by
  rw [latex_inlineMath, bind_eq_ok_iff]
  simp only [pure, Except.pure, Except.ok.injEq]

theorem displayMath_latex_eq_ok_iff {s : String} :
    (Node.displayMath n).latex mode = .ok s ↔
      ∃ sn, n.latex mode = .ok sn ∧ Mode.display.wrap sn = s := by
  rw [latex_displayMath, bind_eq_ok_iff]
  simp only [pure, Except.pure, Except.ok.injEq]

/-- Trees side by side have the LaTeX of each of them. -/
theorem latexAll_eq_ok_iff : ∀ {ns : List Node} {parts : List String},
    latexAll mode ns = .ok parts ↔ List.Forall₂ (fun n s => n.latex mode = .ok s) ns parts
  | [], parts => by
      rw [latexAll_nil, List.forall₂_nil_left_iff, Except.ok.injEq, eq_comm]
  | n :: ns, parts => by
      simp only [latexAll_cons, bind_eq_ok_iff, @latexAll_eq_ok_iff ns,
        List.forall₂_cons_left_iff, pure, Except.pure, Except.ok.injEq]
      constructor
      · rintro ⟨s, hs, rest, hrest, rfl⟩
        exact ⟨s, rest, hs, hrest, rfl⟩
      · rintro ⟨s, rest, hs, hrest, rfl⟩
        exact ⟨s, hs, rest, hrest, rfl⟩

theorem exists_of_mem_latexAll {ns : List Node} {parts : List String}
    (h : latexAll mode ns = .ok parts) {s : String} (hs : s ∈ parts) :
    ∃ n ∈ ns, n.latex mode = .ok s := by
  have hforall := latexAll_eq_ok_iff.mp h
  clear h
  induction hforall with
  | nil => cases hs
  | @cons n t ns parts hn _ ih =>
      rcases List.mem_cons.mp hs with rfl | hs
      · exact ⟨n, List.mem_cons_self, hn⟩
      · obtain ⟨m, hm, hlatex⟩ := ih hs
        exact ⟨m, List.mem_cons_of_mem n hm, hlatex⟩

end HasLatex

end Node

namespace Grammar

open PlainMath.Parser (Level)

section Rendered
variable {mode : Mode}

mutual

/-- What the grammar derives has LaTeX. -/
theorem Derives.hasLatex : ∀ {level : Level} {w : List Token} {n : Node},
    Derives Func.Accepts level w n → n.HasLatex mode
  | _, _, _, .sum hl _ hop hr | _, _, _, .product hl _ hop hr =>
      .binary (by rintro rfl; cases hop) hl.hasLatex hr.hasLatex
  | _, _, _, .power hb _ he => .binary (by decide) hb.hasLatex he.hasLatex
  | _, _, _, .sign _ hop h => .unary hop h.hasLatex
  | _, _, _, .ofProduct h | _, _, _, .ofUnary h | _, _, _, .ofPower h | _, _, _, .ofCall h
  | _, _, _, .ofPrimary h => h.hasLatex
  | _, _, _, .emptyCall _ _ _ haccepts => .call haccepts ⟨[], rfl⟩
  | _, _, _, .call _ _ hargs _ haccepts => .call haccepts (Node.latexAll_ok hargs.hasLatex)
  | _, _, _, .group _ h _ | _, _, _, .inlineMath _ h _ | _, _, _, .displayMath _ h _ => by
      obtain ⟨s, hs⟩ : Node.HasLatex mode _ := h.hasLatex
      simp only [Node.HasLatex, Node.latex, hs]
      exact ⟨_, rfl⟩
  | _, _, _, .constant _ | _, _, _, .number _ | _, _, _, .greek _ | _, _, _, .identifier _
  | _, _, _, .text _ => ⟨_, rfl⟩

theorem Arguments.hasLatex : ∀ {w : List Token} {ns : List Node},
    Arguments Func.Accepts w ns → ∀ n ∈ ns, n.HasLatex mode
  | _, _, .one h => List.forall_mem_singleton.mpr h.hasLatex
  | _, _, .more hs _ h =>
      List.forall_mem_append.mpr ⟨hs.hasLatex, List.forall_mem_singleton.mpr h.hasLatex⟩

end

/-- What the grammar spells as a document has LaTeX. -/
theorem Document.hasLatex {w : List Token} {ns : List Node} (h : Document w ns) :
    (Node.document ns).HasLatex mode := by
  obtain ⟨z, es, -, rfl, -, hes, -⟩ := h
  have hall : ∀ n ∈ es.map Stretch.node, n.HasLatex mode := by
    intro n hn
    obtain ⟨e, he, rfl⟩ := List.mem_map.mp hn
    exact (hes e he).1.hasLatex
  obtain ⟨parts, hparts⟩ := Node.latexAll_ok hall
  exact ⟨_, Node.document_latex_eq_ok_iff.mpr ⟨parts, hparts, rfl⟩⟩

end Rendered

end Grammar

/-! ## Documents side by side -/

namespace Node

section Append
variable {mode : Mode}

theorem latexAll_append_iff {ns ms : List Node} {parts : List String} :
    latexAll mode (ns ++ ms) = .ok parts ↔
      ∃ ps qs, latexAll mode ns = .ok ps ∧ latexAll mode ms = .ok qs ∧ parts = ps ++ qs := by
  induction ns generalizing parts with
  | nil =>
      constructor
      · intro h
        exact ⟨[], parts, rfl, h, rfl⟩
      · rintro ⟨ps, qs, h, hqs, rfl⟩
        cases h
        exact hqs
  | cons n ns ih =>
      simp only [List.cons_append, latexAll_cons, bind_eq_ok_iff, ih]
      constructor
      · rintro ⟨s, hs, rest, ⟨ps, qs, hps, hqs, rfl⟩, h⟩
        cases h
        exact ⟨s :: ps, qs, ⟨s, hs, ps, hps, rfl⟩, hqs, rfl⟩
      · rintro ⟨_, qs, ⟨s, hs, ps, hps, h⟩, hqs, rfl⟩
        cases h
        exact ⟨s, hs, ps ++ qs, ⟨ps, qs, hps, hqs, rfl⟩, rfl⟩

/-- Whether a part is put between delimiters at the end of these parts, each of which is
verbatim or not; `wrapped` says it of the part before them. -/
def endsWrapped (wrapped : Bool) (verbatim : List Bool) : Bool :=
  (verbatim.getLast?.map not).getD wrapped

theorem endsWrapped_cons (wrapped v : Bool) (vs : List Bool) :
    endsWrapped wrapped (v :: vs) = endsWrapped (!v) vs := by
  cases h : vs.getLast? <;> simp [endsWrapped, List.getLast?_cons, h]

/-- The parts that follow have to know only how the parts before them end. -/
theorem assemble_append (qs : List (Bool × String)) :
    ∀ (wrapped : Bool) (ps : List (Bool × String)), assemble mode wrapped (ps ++ qs) =
      assemble mode wrapped ps ++ assemble mode (endsWrapped wrapped (ps.map (·.1))) qs
  | _, [] => by simp [assemble, endsWrapped]
  | wrapped, (true, s) :: ps => by
      simp only [List.cons_append, assemble, List.map_cons, endsWrapped_cons,
        assemble_append qs false ps, Bool.not_true, String.append_assoc]
  | wrapped, (false, s) :: ps => by
      simp only [List.cons_append, assemble, List.map_cons, endsWrapped_cons,
        assemble_append qs true ps, Bool.not_false, String.append_assoc]

/-- What keeps two documents apart: a line end, if the last expression of the first and the
first one of the second are both put between delimiters. -/
def separator (mode : Mode) (ns ms : List Node) : String :=
  match ns.getLast?, ms.head? with
  | some n, some m => if mode ≠ .plain ∧ !n.isVerbatim ∧ !m.isVerbatim then "\n" else ""
  | _, _ => ""

theorem assemble_endsWrapped (ns ms : List Node) {qs : List String} (h : qs.length = ms.length) :
    assemble mode (endsWrapped false (ns.map isVerbatim)) ((ms.map isVerbatim).zip qs) =
      separator mode ns ms ++ assemble mode false ((ms.map isVerbatim).zip qs) := by
  cases ms with
  | nil => cases hn : ns.getLast? <;> simp [assemble, separator, hn]
  | cons m ms =>
      obtain ⟨q, qs, rfl⟩ := List.exists_cons_of_length_eq_add_one h
      cases hn : ns.getLast? with
      | none => simp [endsWrapped, separator, hn]
      | some n =>
          cases hverbatim : n.isVerbatim <;> cases hm : m.isVerbatim <;>
            simp [endsWrapped, separator, hn, hm, hverbatim, assemble, String.append_assoc]

/-- Two documents side by side have LaTeX if each of them has, and it is the one, what keeps
them apart, and the other. -/
theorem document_latex_append {ns ms : List Node} {s : String} :
    (Node.document (ns ++ ms)).latex mode = .ok s ↔
      ∃ l r, (Node.document ns).latex mode = .ok l ∧ (Node.document ms).latex mode = .ok r ∧
        s = l ++ separator mode ns ms ++ r := by
  simp only [document_latex_eq_ok_iff, latexAll_append_iff]
  have hassemble : ∀ {ps qs : List String}, latexAll mode ns = .ok ps → latexAll mode ms = .ok qs →
      assemble mode false (((ns ++ ms).map isVerbatim).zip (ps ++ qs)) =
        assemble mode false ((ns.map isVerbatim).zip ps) ++ separator mode ns ms ++
          assemble mode false ((ms.map isVerbatim).zip qs) := by
    intro ps qs hps hqs
    have hlength : (ns.map isVerbatim).length = ps.length := by
      rw [List.length_map, latexAll_length hps]
    rw [List.map_append, List.zip_append hlength, assemble_append,
      List.map_fst_zip hlength.le, assemble_endsWrapped ns ms (latexAll_length hqs),
      String.append_assoc]
  constructor
  · rintro ⟨_, ⟨ps, qs, hps, hqs, rfl⟩, rfl⟩
    exact ⟨_, _, ⟨ps, hps, rfl⟩, ⟨qs, hqs, rfl⟩, hassemble hps hqs⟩
  · rintro ⟨_, _, ⟨ps, hps, rfl⟩, ⟨qs, hqs, rfl⟩, rfl⟩
    exact ⟨_, ⟨ps, qs, hps, hqs, rfl⟩, hassemble hps hqs⟩

end Append

end Node

end PlainMath
