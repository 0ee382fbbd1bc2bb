/-
# `Proofs.Brackets` — LaTeX is well bracketed

The brackets of a text, in their order and without anything else, are its `marks`.  They are
`Nested` if each closing one answers the last opening one that is not answered yet, over all
three kinds together.

    the definition is decided with a stack          (`nested_iff_closes`)
    a template keeps what is nested nested          (`Template.nested_fill`)
    so does every function, by inspection           (`Func.bracketsMatch_form`)
    and so every proper tree                        (`Node.Proper.nested`)

What a leaf, a single character or a separator adds has no marks at all; that is all that has
to be known of them.
-/
import PlainMath.Proofs.Spelling

namespace PlainMath

namespace Bracket

/-! ## Bracket words -/

/-- A bracket in a text. -/
inductive Mark where
  | opening (b : Bracket)
  | closing (b : Bracket)
  deriving DecidableEq

/-- The bracket that a character is. -/
def mark? (c : Char) : Option Mark :=
  match all.find? (·.openChar == c), all.find? (·.closeChar == c) with
  | some b, _ => some (.opening b)
  | none, some b => some (.closing b)
  | none, none => none

/-- The brackets of a text. -/
def marks (s : String) : List Mark := s.toList.filterMap mark?

/-- Every bracket that is opened is closed by one of its kind, and what stands between the two
is nested. -/
inductive Nested : List Mark → Prop where
  | nil : Nested []
  | cons {b : Bracket} {u v : List Mark} :
      Nested u → Nested v → Nested (.opening b :: (u ++ .closing b :: v))

/-- Whether the marks close the brackets that are open, the last one first, and all that they
open themselves. -/
def closes : List Bracket → List Mark → Bool
  | stack, [] => stack.isEmpty
  | stack, .opening b :: w => closes (b :: stack) w
  | a :: stack, .closing b :: w => a == b && closes stack w
  | [], .closing _ :: _ => false

theorem Nested.append {u v : List Mark} (hu : Nested u) (hv : Nested v) : Nested (u ++ v) := by
  induction hu with
  | nil => exact hv
  | @cons b u₁ u₂ hu₁ _ _ ih₂ =>
      rw [List.cons_append, List.append_assoc, List.cons_append]
      exact .cons hu₁ ih₂

theorem Nested.enclosed (b : Bracket) {u : List Mark} (hu : Nested u) :
    Nested (.opening b :: (u ++ [.closing b])) :=
  .cons hu .nil

/-- What is nested does not matter to the brackets that are open. -/
theorem Nested.closes_append {u : List Mark} (hu : Nested u) :
    ∀ (stack : List Bracket) (v : List Mark), closes stack (u ++ v) = closes stack v := by
  induction hu with
  | nil => exact fun _ _ => rfl
  | @cons b u₁ u₂ _ _ ih₁ ih₂ =>
      intro stack v
      simp only [List.cons_append, List.append_assoc, closes, ih₁, beq_self_eq_true,
        Bool.true_and, ih₂]

theorem closes_append_congr {v w : List Mark} (h : ∀ stack, closes stack v = closes stack w) :
    ∀ (u : List Mark) (stack : List Bracket), closes stack (u ++ v) = closes stack (u ++ w)
  | [], stack => h stack
  | .opening b :: u, stack => closes_append_congr h u (b :: stack)
  | .closing _ :: _, [] => rfl
  | .closing b :: u, a :: stack => congrArg (a == b && ·) (closes_append_congr h u stack)

/-- The marks close the brackets that are open, with nested ones before each of them. -/
def Closing : List Bracket → List Mark → Prop
  | [], w => Nested w
  | b :: stack, w => ∃ u v, Nested u ∧ w = u ++ .closing b :: v ∧ Closing stack v

theorem Closing.append {u v : List Mark} (hu : Nested u) :
    ∀ {stack : List Bracket}, Closing stack v → Closing stack (u ++ v)
  | [], hv => hu.append hv
  | _ :: _, ⟨u', v', hu', hv, hv'⟩ => ⟨u ++ u', v', hu.append hu', by simp [hv], hv'⟩

theorem closing_of_closes : ∀ {stack : List Bracket} {w : List Mark},
    closes stack w = true → Closing stack w
  | [], [], _ => .nil
  | stack, .opening b :: w, h => by
      -- the partner of the bracket is the first one that closes it from the stack
      obtain ⟨u, v, hu, rfl, hv⟩ := closing_of_closes (show closes (b :: stack) w = true from h)
      have happend := hv.append (hu.enclosed b)
      rwa [List.cons_append, List.append_assoc] at happend
  | a :: stack, .closing b :: w, h => by
      simp only [closes, Bool.and_eq_true, beq_iff_eq] at h
      obtain ⟨rfl, h⟩ := h
      exact ⟨[], w, .nil, rfl, closing_of_closes h⟩

theorem nested_iff_closes {w : List Mark} : Nested w ↔ closes [] w = true := by
  constructor
  · intro h
    have happend := h.closes_append [] []
    rwa [List.append_nil] at happend
  · exact closing_of_closes

instance : DecidablePred Nested := fun _ => decidable_of_iff _ nested_iff_closes.symm

/-! ## The marks of a text -/

@[simp] theorem marks_append (s t : String) : marks (s ++ t) = marks s ++ marks t := by
  simp [marks]

theorem marks_eq_nil_iff {s : String} : marks s = [] ↔ ∀ c ∈ s.toList, mark? c = none :=
  List.filterMap_eq_nil_iff

theorem marks_singleton (c : Char) : marks (String.singleton c) = (mark? c).toList := by
  cases h : mark? c <;> simp [marks, h]

/-- A character of a sort that no bracket is of is no bracket. -/
theorem mark?_eq_none {p : Char → Bool}
    (hp : ∀ b ∈ all, p b.openChar = false ∧ p b.closeChar = false) {c : Char} (hc : p c = true) :
    mark? c = none := by
  have hopen : all.find? (·.openChar == c) = none := by
    refine List.find?_eq_none.mpr fun b hb hbc => ?_
    have hb' := (hp b hb).1
    rw [beq_iff_eq.mp hbc, hc] at hb'
    cases hb'
  have hclose : all.find? (·.closeChar == c) = none := by
    refine List.find?_eq_none.mpr fun b hb hbc => ?_
    have hb' := (hp b hb).2
    rw [beq_iff_eq.mp hbc, hc] at hb'
    cases hb'
  simp only [mark?, hopen, hclose]

end Bracket

open PlainMath.Bracket (marks Nested closes)

/-! ## Templates -/

namespace Template

variable {args : List String}

theorem nested_getD (hargs : ∀ s ∈ args, Nested (marks s)) (i : Nat) :
    Nested (marks (args.getD i "")) := by
  rw [List.getD_eq_getElem?_getD]
  cases h : args[i]? with
  | none => exact .nil
  | some s => exact hargs s (List.mem_of_getElem? h)

/-- A filled piece opens and closes what it does without any arguments. -/
theorem closes_fill_piece (hargs : ∀ s ∈ args, Nested (marks s)) (piece : Piece)
    (stack : List Bracket) (w : List Bracket.Mark) :
    closes stack (marks (piece.fill args) ++ w) = closes stack (marks (piece.fill []) ++ w) := by
  cases piece with
  | text | control | opening | closing => rfl
  | arg i => exact (nested_getD hargs i).closes_append stack w

/-- A filled template opens and closes what it does without any arguments. -/
theorem closes_fill (hargs : ∀ s ∈ args, Nested (marks s)) :
    ∀ (t : Template) (stack : List Bracket),
      closes stack (marks (t.fill args)) = closes stack (marks (t.fill []))
  | [], _ => rfl
  | piece :: t, stack => by
      rw [fill_cons, fill_cons, Bracket.marks_append, Bracket.marks_append,
        closes_fill_piece hargs piece]
      exact Bracket.closes_append_congr (closes_fill hargs t) _ stack

theorem nested_fill (hargs : ∀ s ∈ args, Nested (marks s)) {t : Template}
    (ht : Nested (marks (t.fill []))) : Nested (marks (t.fill args)) := by
  rw [Bracket.nested_iff_closes] at ht ⊢
  rw [closes_fill hargs, ht]

end Template

/-! ## Functions -/

/-- Whether the brackets in the templates match. -/
def Form.bracketsMatch : Form → Bool
  | .shapes templates => templates.all fun p => decide (Nested (marks (p.2.fill [])))
  | .environment name => (marks name).isEmpty

theorem Func.bracketsMatch_form (f : Func) : f.form.bracketsMatch = true := by
  cases f <;> decide

theorem Bracket.nested_intercalate {separator : String} (hseparator : marks separator = []) :
    ∀ {rows : List String}, (∀ s ∈ rows, Nested (marks s)) →
      Nested (marks (separator.intercalate rows))
  | [], _ => .nil
  | [s], h => by simpa using h
  | s :: t :: rows, h => by
      rw [String.intercalate_cons_cons, marks_append, marks_append, hseparator, List.append_nil]
      have hrest := nested_intercalate hseparator fun u hu => h u (List.mem_cons_of_mem s hu)
      exact (h s List.mem_cons_self).append hrest

theorem Func.nested_environmentLatex {name : String} (hname : marks name = [])
    {rows : List String} (hrows : ∀ s ∈ rows, Nested (marks s)) :
    Nested (marks (environmentLatex name rows)) := by
  have hbegin : marks "\\begin\x7b" = [.opening .brace] := by decide
  have hend : marks " \\end\x7b" = [.opening .brace] := by decide
  have hclose : marks "\x7d" = [.closing .brace] := by decide
  have hclose' : marks "\x7d " = [.closing .brace] := by decide
  have hseparator : marks " \\\\ " = [] := by decide
  simp only [environmentLatex_eq, Bracket.marks_append, hname, hbegin, hend, hclose, hclose',
    List.append_assoc, List.cons_append, List.nil_append]
  exact .cons .nil ((Bracket.nested_intercalate hseparator hrows).append (.cons .nil .nil))

theorem Func.nested_latex? {f : Func} {args : List String} {s : String}
    (hargs : ∀ a ∈ args, Nested (marks a)) (h : f.latex? args = some s) : Nested (marks s) := by
  have hform := f.bracketsMatch_form
  unfold Func.latex? at h
  cases hf : f.form with
  | shapes templates =>
      simp only [hf, Option.map_eq_some_iff] at h
      obtain ⟨t, ht, rfl⟩ := h
      simp only [hf, Form.bracketsMatch, List.all_eq_true, decide_eq_true_eq] at hform
      have hempty := hform _ (Lexeme.lookup_mem ht)
      exact Template.nested_fill hargs hempty
  | environment name =>
      simp only [hf, Option.some.injEq] at h
      simp only [hf, Form.bracketsMatch, List.isEmpty_iff] at hform
      subst h
      exact Func.nested_environmentLatex hform hargs

/-! ## Trees -/

namespace Node

theorem Leaf.marks_eq_nil {n : Node} {s : String} (h : Leaf n s) : marks s = [] :=
  Bracket.marks_eq_nil_iff.mpr fun c hc =>
    Bracket.mark?_eq_none (by decide) (h.chars c hc)

theorem nested_braces {s : String} (hs : Nested (marks s)) : Nested (marks (braces s)) := by
  have hopen : marks "\x7b" = [.opening .brace] := by decide
  have hclose : marks "\x7d" = [.closing .brace] := by decide
  simp only [braces, Bracket.marks_append, hopen, hclose, List.cons_append, List.nil_append]
  exact hs.enclosed .brace

theorem nested_spaced {sign l r : String} (hsign : marks sign = []) (hl : Nested (marks l))
    (hr : Nested (marks r)) : Nested (marks (spaced sign l r)) := by
  have hblank : marks " " = [] := by decide
  simp only [spaced, Bracket.marks_append, hsign, hblank, List.append_nil]
  exact hl.append hr

theorem nested_join {op : Operator} {join : String → String → String}
    (h : join? (.operator op) = some join) {l r : String} (hl : Nested (marks l))
    (hr : Nested (marks r)) : Nested (marks (join l r)) := by
  cases op with
  | equals => cases h
  | fraction =>
      cases h
      have hfrac : marks "\\frac" = [] := by decide
      simp only [Bracket.marks_append, hfrac, List.nil_append]
      exact (nested_braces hl).append (nested_braces hr)
  | power =>
      cases h
      have hcaret : marks "^" = [] := by decide
      simp only [Bracket.marks_append, hcaret, List.append_nil]
      exact hl.append (nested_braces hr)
  | _ =>
      cases h
      exact nested_spaced (by decide) hl hr

theorem marks_wrap (mode : Mode) (s : String) : marks (mode.wrap s) = marks s := by
  have hdollar : marks "$" = [] := by decide
  have hdollars : marks "$$" = [] := by decide
  cases mode <;> simp [Mode.wrap, hdollar, hdollars]

/-- The LaTeX of a proper tree is well bracketed. -/
theorem Proper.nested {mode : Mode} {n : Node} (hn : n.Proper) :
    ∀ {s : String}, n.latex mode = .ok s → Nested (marks s) := by
  induction hn with
  | leaf hleaf =>
      intro s h
      rw [hleaf.latex_eq] at h
      cases h
      rw [hleaf.marks_eq_nil]
      exact .nil
  | @text c hc =>
      intro s h
      cases h
      rw [Bracket.marks_singleton, Bracket.mark?_eq_none (by decide) hc]
      exact .nil
  | binary hop _ _ ihl ihr =>
      intro s h
      obtain ⟨join, sl, sr, hjoin, hl, hr, rfl⟩ := binary_latex_eq_ok_iff.mp h
      exact nested_join hjoin (ihl hl) (ihr hr)
  | @unary op n hop _ ih =>
      intro s h
      obtain ⟨sign, sn, hsign, hsn, rfl⟩ := unary_latex_eq_ok_iff.mp h
      have hmarks : marks sign = [] := by
        cases op with
        | plus | minus =>
            cases hsign
            decide
        | _ => cases hop
      rw [Bracket.marks_append, hmarks]
      exact ih hsn
  | call _ _ ih =>
      intro s h
      obtain ⟨parts, hparts, hs⟩ := call_latex_eq_ok_iff.mp h
      refine Func.nested_latex? (fun a ha => ?_) hs
      obtain ⟨m, hm, hlatex⟩ := exists_of_mem_latexAll hparts ha
      exact ih m hm hlatex
  | grouping _ ih =>
      intro s h
      obtain ⟨sn, hsn, rfl⟩ := grouping_latex_eq_ok_iff.mp h
      have hopen : marks "(" = [.opening .paren] := by decide
      have hclose : marks ")" = [.closing .paren] := by decide
      simp only [Bracket.marks_append, hopen, hclose, List.cons_append, List.nil_append]
      exact (ih hsn).enclosed .paren
  | inlineMath _ ih =>
      intro s h
      obtain ⟨sn, hsn, rfl⟩ := inlineMath_latex_eq_ok_iff.mp h
      rw [marks_wrap]
      exact ih hsn
  | displayMath _ ih =>
      intro s h
      obtain ⟨sn, hsn, rfl⟩ := displayMath_latex_eq_ok_iff.mp h
      rw [marks_wrap]
      exact ih hsn

theorem nested_assemble {mode : Mode} : ∀ {wrapped : Bool} {parts : List (Bool × String)},
    (∀ p ∈ parts, Nested (marks p.2)) → Nested (marks (assemble mode wrapped parts))
  | _, [], _ => .nil
  | wrapped, (verbatim, s) :: parts, h => by
      have hs : Nested (marks s) := h (verbatim, s) List.mem_cons_self
      have hrest : ∀ wrapped, Nested (marks (assemble mode wrapped parts)) := fun wrapped =>
        nested_assemble fun p hp => h p (List.mem_cons_of_mem _ hp)
      have hseparator : marks (if wrapped && mode != .plain then "\n" else "") = [] := by
        split <;> decide
      cases verbatim with
      | true =>
          rw [assemble, Bracket.marks_append]
          exact hs.append (hrest false)
      | false =>
          rw [assemble, Bracket.marks_append, Bracket.marks_append, hseparator, marks_wrap]
          exact hs.append (hrest true)

end Node

namespace Typesetting

/-- The brackets of what is typeset are nested, the three kinds together: each one that is
closed is the last one that was opened and is still open, and none is left open. -/
theorem typesets_nested {options : Options} {source latex : String}
    (h : Typesets options source latex) : Nested (marks latex) := by
  obtain ⟨document, hparse, hlatex⟩ := typesets_iff.mp h
  obtain ⟨ns, rfl, -⟩ := Parser.document_of_source hparse
  obtain ⟨parts, hparts, rfl⟩ := Node.document_latex_eq_ok_iff.mp hlatex
  refine Node.nested_assemble fun p hp => ?_
  obtain ⟨n, hn, hs⟩ := Node.exists_of_mem_latexAll hparts (List.of_mem_zip hp).2
  exact (Parser.proper_of_parse hparse n hn).nested hs

/-- All three kinds, one inside the other. -/
theorem typesets_nested_root :
    Typesets ⟨.inline, false⟩ "sqrt(n, a^(b - c))" "$\\sqrt[n]\x7ba^\x7b(b - c)\x7d\x7d$" ∧
      Nested (marks "$\\sqrt[n]\x7ba^\x7b(b - c)\x7d\x7d$") := by
  have h : Typesets ⟨.inline, false⟩ "sqrt(n, a^(b - c))"
      "$\\sqrt[n]\x7ba^\x7b(b - c)\x7d\x7d$" := typesets_iff.mpr ⟨_, rfl, rfl⟩
  exact ⟨h, typesets_nested h⟩

end Typesetting

end PlainMath
