/-
# `Proofs.Regions` — the delimiters of mathematics in a document

Whoever reads a document takes two dollars for one delimiter before taking one, and closes a
region of mathematics with the delimiter that opened it (`Region.scan`).  Each expression of a
document that is no text is meant to be one region.  Two expressions that were both put between
delimiters are kept apart by a line end, but an expression that stands between delimiters of
its own is not kept apart from its neighbours.  So a region that ends with one dollar runs into
a region directly behind it:

    $x$ then y     `$x$$y$`      the second and third dollar are read as one delimiter
    $$x$$ then y   `$$x$$$y$`    the delimiters are read as they are meant

The regions of a document are the intended ones exactly if no two expressions `clash` in this
way, and there is no reading at all if two of them do (`regions_of_typesets`).
-/
import PlainMath.Proofs.Spelling
import PlainMath.Proofs.Text.Lines

namespace PlainMath

/-! ## Reading regions -/

/-- What mathematics is put between. -/
inductive Delimiter where
  /-- One dollar. -/
  | single
  /-- Two dollars. -/
  | double
  deriving DecidableEq

def Delimiter.chars : Delimiter → List Char
  | .single => ['$']
  | .double => ['$', '$']

/-- A delimiter or any other character. -/
inductive Sign where
  | delimiter (d : Delimiter)
  | other (c : Char)

/-- The signs of a text: two dollars are taken for one delimiter before one is. -/
def Sign.read : List Char → List Sign
  | [] => []
  | '$' :: '$' :: cs => .delimiter .double :: read cs
  | '$' :: cs => .delimiter .single :: read cs
  | c :: cs => .other c :: read cs

/-- Mathematics in a text, with the delimiter on both sides of it. -/
structure Region where
  delimiter : Delimiter
  body : List Char
  deriving DecidableEq

namespace Region

/-- The regions from here on, where one may be open already; none if a region is closed by
another delimiter than its own, or never. -/
def scan : Option Region → List Sign → Option (List Region)
  | none, [] => some []
  | some _, [] => none
  | none, .other _ :: w => scan none w
  | none, .delimiter d :: w => scan (some ⟨d, []⟩) w
  | some r, .other c :: w => scan (some ⟨r.delimiter, r.body ++ [c]⟩) w
  | some r, .delimiter d :: w => if r.delimiter = d then (scan none w).map (r :: ·) else none

/-- The regions of a text. -/
def all? (cs : List Char) : Option (List Region) := scan none (Sign.read cs)

/-- The text of a region. -/
def chars (r : Region) : List Char := r.delimiter.chars ++ r.body ++ r.delimiter.chars

/-! ### Laws of reading -/

theorem read_append {cs : List Char} (h : '$' ∉ cs) (rest : List Char) :
    Sign.read (cs ++ rest) = cs.map .other ++ Sign.read rest := by
  induction cs with
  | nil => rfl
  | cons c cs ih =>
      rw [List.mem_cons, not_or] at h
      rw [List.cons_append, Sign.read, ih h.2, List.map_cons, List.cons_append]
      · exact fun _ hc _ => h.1 hc.symm
      · exact fun hc => h.1 hc.symm

theorem read_single {rest : List Char} (h : rest.head? ≠ some '$') :
    Sign.read ('$' :: rest) = .delimiter .single :: Sign.read rest := by
  cases rest with
  | nil => rfl
  | cons c rest =>
      rw [Sign.read]
      intro cs hcs
      rw [hcs] at h
      exact h rfl

theorem scan_none_append (cs : List Char) (w : List Sign) :
    scan none (cs.map .other ++ w) = scan none w := by
  induction cs with
  | nil => rfl
  | cons c cs ih => exact ih

theorem scan_some_append (cs : List Char) (w : List Sign) : ∀ r : Region,
    scan (some r) (cs.map .other ++ w) = scan (some ⟨r.delimiter, r.body ++ cs⟩) w := by
  induction cs with
  | nil =>
      intro r
      simp
  | cons c cs ih =>
      intro r
      rw [List.map_cons, List.cons_append, scan, ih]
      simp

/-- What is no delimiter is passed over. -/
theorem all?_append {cs : List Char} (h : '$' ∉ cs) (rest : List Char) :
    all? (cs ++ rest) = all? rest := by
  rw [all?, read_append h, scan_none_append]
  rfl

theorem head?_append_ne {body : List Char} (hne : body ≠ []) (h : '$' ∉ body)
    (rest : List Char) : (body ++ rest).head? ≠ some '$' := by
  obtain ⟨c, cs, rfl⟩ := List.exists_cons_of_ne_nil hne
  rintro ⟨⟩
  exact h List.mem_cons_self

/-- The region that is open takes the characters up to the next delimiter. -/
theorem scan_body (d : Delimiter) {body : List Char} (h : '$' ∉ body) (rest : List Char) :
    scan (some ⟨d, []⟩) (Sign.read (body ++ rest)) = scan (some ⟨d, body⟩) (Sign.read rest) := by
  rw [read_append h, scan_some_append, List.nil_append]

/-- A region is read as it is meant, unless it ends with one dollar and another one follows. -/
theorem all?_chars_append {r : Region} (hne : r.body ≠ []) (h : '$' ∉ r.body)
    (rest : List Char) :
    all? (r.chars ++ rest) =
      if r.delimiter = .single ∧ rest.head? = some '$' then none
      else (all? rest).map (r :: ·) := by
  obtain ⟨d, body⟩ := r
  rw [chars, List.append_assoc, List.append_assoc, all?]
  cases d with
  | double =>
      simp only [Delimiter.chars, List.cons_append, List.nil_append, Sign.read, scan]
      rw [scan_body .double h]
      rfl
  | single =>
      simp only [Delimiter.chars, List.cons_append, List.nil_append]
      rw [read_single (head?_append_ne hne h _), scan, scan_body .single h]
      by_cases hrest : rest.head? = some '$'
      · rw [if_pos ⟨trivial, hrest⟩]
        obtain ⟨rest', rfl⟩ := List.head?_eq_some_iff.mp hrest
        rfl
      · rw [if_neg fun hand => hrest hand.2, read_single hrest]
        rfl

end Region

/-! ## What stands between the delimiters -/

/-- The text is not empty and holds no dollar. -/
def DollarFree (s : String) : Prop := s.toList ≠ [] ∧ '$' ∉ s.toList

instance (s : String) : Decidable (DollarFree s) := inferInstanceAs (Decidable (_ ∧ _))

theorem DollarFree.append_right {s t : String} (hs : '$' ∉ s.toList) (ht : DollarFree t) :
    DollarFree (s ++ t) := by
  simp only [DollarFree, String.toList_append, List.mem_append, not_or]
  exact ⟨List.append_ne_nil_of_right_ne_nil _ ht.1, hs, ht.2⟩

namespace Template

/-- What a template is made of: its own characters and those of the arguments. -/
theorem mem_fill {c : Char} {args : List String} (hargs : ∀ s ∈ args, c ∉ s.toList) :
    ∀ {t : Template}, c ∈ (t.fill args).toList → c ∈ (t.fill []).toList
  | [], h => h
  | piece :: t, h => by
      rw [fill_cons, String.toList_append, List.mem_append] at h ⊢
      refine h.imp (fun h => ?_) (mem_fill hargs)
      cases piece with
      | text | control | opening | closing => exact h
      | arg i =>
          rw [Piece.fill, List.getD_eq_getElem?_getD] at h
          cases hi : args[i]? with
          | none => simp [hi] at h
          | some s =>
              rw [hi] at h
              exact absurd h (hargs s (List.mem_of_getElem? hi))

/-- Arguments only add to what a template is without them. -/
theorem fill_ne_nil (args : List String) :
    ∀ {t : Template}, (t.fill []).toList ≠ [] → (t.fill args).toList ≠ []
  | [], h => h
  | piece :: t, h => by
      simp only [fill_cons, String.toList_append, ne_eq, List.append_eq_nil_iff, not_and_or] at h ⊢
      refine h.imp (fun h => ?_) (fill_ne_nil args)
      cases piece with
      | text | control | opening | closing => exact h
      | arg i => exact absurd rfl h

theorem dollarFree_fill {args : List String} (hargs : ∀ s ∈ args, '$' ∉ s.toList) {t : Template}
    (ht : DollarFree (t.fill [])) : DollarFree (t.fill args) :=
  ⟨fill_ne_nil args ht.1, fun h => ht.2 (mem_fill hargs h)⟩

end Template

/-- Whether the templates are not empty and hold no dollar. -/
def Form.isDollarFree : Form → Bool
  | .shapes templates =>
    templates.all fun p => decide (DollarFree (p.2.fill []))
  | .environment name => '$' ∉ name.toList

theorem Func.isDollarFree_form (f : Func) : f.form.isDollarFree = true := by
  cases f <;> decide

theorem Func.dollarFree_latex? {f : Func} {args : List String} {s : String}
    (hargs : ∀ a ∈ args, '$' ∉ a.toList) (h : f.latex? args = some s) : DollarFree s := by
  have hform := f.isDollarFree_form
  unfold Func.latex? at h
  cases hf : f.form with
  | shapes templates =>
      simp only [hf, Option.map_eq_some_iff] at h
      obtain ⟨t, ht, rfl⟩ := h
      simp only [hf, Form.isDollarFree, List.all_eq_true, decide_eq_true_eq] at hform
      have hempty := hform _ (Lexeme.lookup_mem ht)
      exact Template.dollarFree_fill hargs hempty
  | environment name =>
      simp only [hf, Option.some.injEq] at h
      simp only [hf, Form.isDollarFree, decide_eq_true_eq] at hform
      have hrows : '$' ∉ (" \\\\ ".intercalate args).toList :=
        Text.not_mem_intercalate (by decide) hargs
      rw [← h, environmentLatex_eq]
      generalize " \\\\ ".intercalate args = rows at hrows
      simp [DollarFree, hform, hrows]

namespace Node

mutual

/-- Whether mathematics between delimiters of its own is part of the tree. -/
def hasMath : Node → Bool
  | .inlineMath _ | .displayMath _ => true
  | .binary _ left right => left.hasMath || right.hasMath
  | .unary _ operand => operand.hasMath
  | .call _ _ args => anyHasMath args
  | .grouping inner => inner.hasMath
  | .document nodes => anyHasMath nodes
  | _ => false

def anyHasMath : List Node → Bool
  | [] => false
  | n :: ns => n.hasMath || anyHasMath ns

end

theorem anyHasMath_eq_false {ns : List Node} :
    anyHasMath ns = false ↔ ∀ n ∈ ns, n.hasMath = false := by
  induction ns with
  | nil => simp [anyHasMath]
  | cons n ns ih => simp [anyHasMath, ih]

theorem dollarFree_spaced {sign l r : String} (hsign : '$' ∉ sign.toList) (hl : DollarFree l)
    (hr : DollarFree r) : DollarFree (spaced sign l r) := by
  simp [DollarFree, spaced, hl.2, hr.2, hsign]

theorem dollarFree_join {op : Operator} {join : String → String → String}
    (h : join? (.operator op) = some join) {l r : String} (hl : DollarFree l)
    (hr : DollarFree r) : DollarFree (join l r) := by
  cases op with
  | equals => cases h
  | fraction | power =>
      cases h
      simp [DollarFree, braces, hl.2, hr.2]
  | _ =>
      cases h
      exact dollarFree_spaced (by decide) hl hr

theorem isLeafChar_dollar : isLeafChar '$' = false := by decide

/-- Without delimiters of its own, the LaTeX of a proper tree holds no dollar. -/
theorem Proper.dollarFree {mode : Mode} {n : Node} (hn : n.Proper) :
    n.hasMath = false → ∀ {s : String}, n.latex mode = .ok s → DollarFree s := by
  induction hn with
  | @leaf n t hleaf =>
      intro _ s h
      rw [hleaf.latex_eq] at h
      cases h
      obtain ⟨c, rest, ht, -⟩ := hleaf.first
      refine ⟨by simp [ht], fun hmem => ?_⟩
      have hdollar := hleaf.chars '$' hmem
      rw [isLeafChar_dollar] at hdollar
      cases hdollar
  | @text c hc =>
      intro _ s h
      cases h
      refine ⟨by simp, fun hmem => ?_⟩
      obtain rfl : '$' = c := by simpa using hmem
      exact absurd hc (by decide)
  | binary hop _ _ ihl ihr =>
      intro hmath s h
      simp only [hasMath, Bool.or_eq_false_iff] at hmath
      obtain ⟨join, sl, sr, hjoin, hl, hr, rfl⟩ := binary_latex_eq_ok_iff.mp h
      exact dollarFree_join hjoin (ihl hmath.1 hl) (ihr hmath.2 hr)
  | @unary op n hop _ ih =>
      intro hmath s h
      obtain ⟨sign, sn, hsign, hsn, rfl⟩ := unary_latex_eq_ok_iff.mp h
      have hdollar : '$' ∉ sign.toList := by
        cases op with
        | plus | minus =>
            cases hsign
            decide
        | _ => cases hop
      exact .append_right hdollar (ih hmath hsn)
  | call _ _ ih =>
      intro hmath s h
      rw [hasMath, anyHasMath_eq_false] at hmath
      obtain ⟨parts, hparts, hs⟩ := call_latex_eq_ok_iff.mp h
      refine Func.dollarFree_latex? (fun a ha => ?_) hs
      obtain ⟨m, hm, hlatex⟩ := exists_of_mem_latexAll hparts ha
      exact (ih m hm (hmath m hm) hlatex).2
  | grouping _ ih =>
      intro hmath s h
      obtain ⟨sn, hsn, rfl⟩ := grouping_latex_eq_ok_iff.mp h
      simp [DollarFree, (ih hmath hsn).2]
  | inlineMath | displayMath =>
      intro hmath
      cases hmath

end Node

/-! ## Documents -/

/-- The delimiter that a mode puts around an expression. -/
def Mode.delimiter? : Mode → Option Delimiter
  | .plain => none
  | .inline => some .single
  | .display => some .double

theorem Mode.toList_wrap {mode : Mode} {d : Delimiter} (h : mode.delimiter? = some d)
    (s : String) : (mode.wrap s).toList = (⟨d, s.toList⟩ : Region).chars := by
  cases mode <;> cases h <;> simp [Mode.wrap, Region.chars, Delimiter.chars]

namespace Node

/-- The delimiter that an expression of a document stands between. -/
def delimiter? (mode : Mode) : Node → Option Delimiter
  | .text _ => none
  | .inlineMath _ => some .single
  | .displayMath _ => some .double
  | _ => mode.delimiter?

/-- Whether the node is a character of text. -/
def isText : Node → Bool
  | .text _ => true
  | _ => false

/-- What stands between the delimiters of an expression. -/
def content : Node → Node
  | .inlineMath inner => inner
  | .displayMath inner => inner
  | n => n

/-- Whether the delimiter behind the first expression runs into the one before the second: it is
one dollar, and no line end is put between the two. -/
def clash (mode : Mode) (m n : Node) : Bool :=
  m.delimiter? mode == some .single && (n.delimiter? mode).isSome &&
    (m.isVerbatim || n.isVerbatim)

/-- The region is that of the expression. -/
structure IsRegion (mode : Mode) (n : Node) (r : Region) : Prop where
  delimiter : n.delimiter? mode = some r.delimiter
  body : n.content.latex mode = .ok (String.ofList r.body)

/-- How an expression appears in a document. -/
inductive Shown (mode : Mode) (n : Node) : List Char → Prop where
  | loose {cs : List Char} : n.delimiter? mode = none → cs ≠ [] → '$' ∉ cs → Shown mode n cs
  | region {r : Region} : IsRegion mode n r → r.body ≠ [] → '$' ∉ r.body → Shown mode n r.chars

/-- What an expression adds to a document, given its LaTeX. -/
def part (mode : Mode) (n : Node) (s : String) : String :=
  if n.isVerbatim then s else mode.wrap s

theorem delimiter?_of_wrapped {n : Node} (h : n.isVerbatim = false) (mode : Mode) :
    n.delimiter? mode = mode.delimiter? := by
  cases n with
  | text | inlineMath | displayMath => cases h
  | _ => rfl

theorem content_of_wrapped {n : Node} (h : n.isVerbatim = false) : n.content = n := by
  cases n with
  | text | inlineMath | displayMath => cases h
  | _ => rfl

section Shown
variable {mode : Mode} {n : Node} {s : String}

theorem shown_of_wrap {outer : Mode} {d : Delimiter} (hd : outer.delimiter? = some d)
    (hdelimiter : n.delimiter? mode = some d) (hcontent : n.content.latex mode = .ok s)
    (hfree : DollarFree s) : Shown mode n (outer.wrap s).toList := by
  rw [Mode.toList_wrap hd]
  have hregion : IsRegion mode n ⟨d, s.toList⟩ :=
    ⟨hdelimiter, hcontent.trans (by rw [String.ofList_toList])⟩
  exact .region hregion hfree.1 hfree.2

theorem shown_wrapped (hverbatim : n.isVerbatim = false) (hfree : DollarFree s)
    (h : n.latex mode = .ok s) : Shown mode n (part mode n s).toList := by
  have hdelimiter := delimiter?_of_wrapped hverbatim mode
  have hpart : part mode n s = mode.wrap s := by simp [part, hverbatim]
  rw [hpart]
  cases hd : mode.delimiter? with
  | none =>
      obtain rfl : mode = .plain := by cases mode <;> simp_all [Mode.delimiter?]
      exact .loose hdelimiter hfree.1 hfree.2
  | some d =>
      rw [← content_of_wrapped hverbatim] at h
      exact shown_of_wrap hd (hdelimiter.trans hd) h hfree

theorem Proper.shown (hn : n.Proper) (hmath : n.content.hasMath = false)
    (h : n.latex mode = .ok s) : Shown mode n (part mode n s).toList := by
  have hproper := hn
  cases hn with
  | leaf hleaf =>
      have hverbatim : n.isVerbatim = false := by cases hleaf <;> rfl
      rw [content_of_wrapped hverbatim] at hmath
      exact shown_wrapped hverbatim (hproper.dollarFree hmath h) h
  | binary | unary | call | grouping =>
      exact shown_wrapped rfl (hproper.dollarFree hmath h) h
  | text =>
      have hfree := hproper.dollarFree hmath h
      exact .loose rfl hfree.1 hfree.2
  | @inlineMath m hm =>
      obtain ⟨sm, hsm, rfl⟩ := inlineMath_latex_eq_ok_iff.mp h
      have hd : Mode.inline.delimiter? = some .single := rfl
      exact shown_of_wrap (n := .inlineMath m) hd rfl hsm (hm.dollarFree hmath hsm)
  | @displayMath m hm =>
      obtain ⟨sm, hsm, rfl⟩ := displayMath_latex_eq_ok_iff.mp h
      have hd : Mode.display.delimiter? = some .double := rfl
      exact shown_of_wrap (n := .displayMath m) hd rfl hsm (hm.dollarFree hmath hsm)

end Shown

/-! ### One expression after another -/

/-- The text is read as the expressions are meant, if no two neighbours clash, and cannot be read
otherwise. -/
def ReadsAs (mode : Mode) (ns : List Node) (cs : List Char) : Prop :=
  (ns.IsChain (clash mode · · = false) → ∃ rs, Region.all? cs = some rs ∧
    List.Forall₂ (IsRegion mode) (ns.filter fun n => (n.delimiter? mode).isSome) rs) ∧
  (¬ ns.IsChain (clash mode · · = false) → Region.all? cs = none)

section Assembled
variable {mode : Mode}

/-- What is put before an expression: a line end, if it and the one before it are both put
between delimiters. -/
def gap (mode : Mode) (wrapped : Bool) (n : Node) : String :=
  if wrapped && mode != .plain && !n.isVerbatim then "\n" else ""

theorem assemble_cons (wrapped : Bool) (n : Node) (s : String) (ps : List (Bool × String)) :
    assemble mode wrapped ((n.isVerbatim, s) :: ps) =
      gap mode wrapped n ++ part mode n s ++ assemble mode (!n.isVerbatim) ps := by
  cases h : n.isVerbatim <;> simp [assemble, gap, part, h]

theorem dollar_not_mem_gap (wrapped : Bool) (n : Node) : '$' ∉ (gap mode wrapped n).toList := by
  unfold gap
  split <;> decide

/-- An expression that is shown begins with a dollar exactly if it stands between delimiters. -/
theorem Shown.head? {n : Node} {cs : List Char} (h : Shown mode n cs) (rest : List Char) :
    (cs ++ rest).head? = some '$' ↔ (n.delimiter? mode).isSome = true := by
  cases h with
  | loose hd hne hcs =>
      rw [hd]
      exact iff_of_false (Region.head?_append_ne hne hcs rest) Bool.false_ne_true
  | @region r hr _ _ =>
      rw [hr.delimiter]
      cases hd : r.delimiter <;> simp [Region.chars, Delimiter.chars, hd]

/-- A dollar follows directly behind an expression that ends with one exactly if it clashes with
the next one. -/
theorem head?_assemble {n : Node} {ns : List Node} {parts : List String}
    (hn : n.delimiter? mode = some .single)
    (h : List.Forall₂ (fun n s => Shown mode n (part mode n s).toList) ns parts) :
    (assemble mode (!n.isVerbatim) ((ns.map isVerbatim).zip parts)).toList.head? = some '$' ↔
      ∃ m ∈ ns.head?, clash mode n m = true := by
  cases h with
  | nil => simp [assemble]
  | @cons m s ns parts hm _ =>
      simp only [List.map_cons, List.zip_cons_cons, assemble_cons, List.head?_cons,
        Option.mem_some_iff, exists_eq_left', String.toList_append, List.append_assoc]
      by_cases hverbatim : (n.isVerbatim || m.isVerbatim) = true
      · -- nothing is put between the two
        have hgap : gap mode (!n.isVerbatim) m = "" := by
          cases hnv : n.isVerbatim <;> cases hmv : m.isVerbatim <;> simp_all [gap]
        rw [hgap, String.toList_empty, List.nil_append, hm.head?]
        simp [clash, hn, hverbatim]
      · have hnv : n.isVerbatim = false := by simp_all
        have hmv : m.isVerbatim = false := by simp_all
        refine iff_of_false (fun hhead => ?_) (by simp [clash, hnv, hmv])
        rw [delimiter?_of_wrapped hnv] at hn
        have hmode : mode ≠ .plain := by
          rintro rfl
          cases hn
        simp [gap, hnv, hmv, hmode] at hhead

/-- Expressions one after another are read as they are meant, unless two of them clash. -/
theorem readsAs_assemble {ns : List Node} {parts : List String}
    (h : List.Forall₂ (fun n s => Shown mode n (part mode n s).toList) ns parts) :
    ∀ wrapped, ReadsAs mode ns
      (assemble mode wrapped ((ns.map isVerbatim).zip parts)).toList := by
  induction h with
  | nil => exact fun _ => ⟨fun _ => ⟨[], rfl, .nil⟩, fun hchain => absurd .nil hchain⟩
  | @cons n s ns parts hn hrest ih =>
      intro wrapped
      have hhead := fun hsingle => head?_assemble (n := n) hsingle hrest
      obtain ⟨hreads, hclash⟩ := ih (!n.isVerbatim)
      simp only [List.map_cons, List.zip_cons_cons, assemble_cons, String.toList_append,
        List.append_assoc]
      generalize (assemble mode (!n.isVerbatim) ((ns.map isVerbatim).zip parts)).toList = rest
        at hhead hreads hclash ⊢
      rw [ReadsAs, Region.all?_append (dollar_not_mem_gap wrapped n), List.isChain_cons]
      generalize (part mode n s).toList = cs at hn
      cases hn with
      | loose hd _ hcs =>
          have hfirst : ∀ m ∈ ns.head?, clash mode n m = false := by simp [clash, hd]
          rw [Region.all?_append hcs, and_iff_right hfirst, List.filter_cons_of_neg (by simp [hd])]
          exact ⟨hreads, hclash⟩
      | @region r hr hne hbody =>
          rw [Region.all?_chars_append hne hbody,
            List.filter_cons_of_pos (by simp [hr.delimiter])]
          by_cases hdollar : r.delimiter = .single ∧ rest.head? = some '$'
          · obtain ⟨m, hm, hmclash⟩ := (hhead (hdollar.1 ▸ hr.delimiter)).mp hdollar.2
            rw [if_pos hdollar]
            refine ⟨fun hchain => ?_, fun _ => rfl⟩
            rw [hchain.1 m hm] at hmclash
            cases hmclash
          · have hfirst : ∀ m ∈ ns.head?, clash mode n m = false := by
              intro m hm
              by_contra hmclash
              rw [Bool.not_eq_false] at hmclash
              have hsingle : n.delimiter? mode = some .single := by
                simp only [clash, Bool.and_eq_true, beq_iff_eq] at hmclash
                exact hmclash.1.1
              refine hdollar ⟨?_, (hhead hsingle).mpr ⟨m, hm, hmclash⟩⟩
              exact Option.some.inj (hr.delimiter.symm.trans hsingle)
            rw [if_neg hdollar, and_iff_right hfirst]
            constructor
            · intro hchain
              obtain ⟨rs, hrs, hregions⟩ := hreads hchain
              exact ⟨r :: rs, by rw [hrs]; rfl, .cons hr hregions⟩
            · intro hchain
              rw [hclash hchain]
              rfl

end Assembled

theorem isSome_delimiter? {mode : Mode} (hmode : mode ≠ .plain) (n : Node) :
    (n.delimiter? mode).isSome = !n.isText := by
  have hsome : mode.delimiter?.isSome = true := by
    cases mode with
    | plain => exact absurd rfl hmode
    | inline | display => rfl
  cases n with
  | text | inlineMath | displayMath => rfl
  | _ => exact hsome

end Node

namespace Typesetting

open Node

/-- In the modes with delimiters, the regions of what is typeset are those of the expressions
that are no text, in their order, if no two neighbours clash.  If two neighbours clash, some
region is closed by another delimiter than its own or not closed at all. -/
theorem regions_of_typesets {options : Options} {source latex : String}
    (hmode : options.mode ≠ .plain)
    (hmath : ∀ n ∈ expressions source, n.content.hasMath = false)
    (h : Typesets options source latex) :
    ((expressions source).IsChain (clash options.mode · · = false) →
      ∃ regions, Region.all? latex.toList = some regions ∧
        List.Forall₂ (IsRegion options.mode)
          ((expressions source).filter fun n => !n.isText) regions) ∧
    (¬ (expressions source).IsChain (clash options.mode · · = false) →
      Region.all? latex.toList = none) := by
  obtain ⟨document, hparse, hlatex⟩ := typesets_iff.mp h
  obtain ⟨ns, rfl, -⟩ := Parser.document_of_source hparse
  have hns : expressions source = ns := by simp only [expressions, hparse]
  rw [hns] at hmath ⊢
  obtain ⟨parts, hparts, rfl⟩ := document_latex_eq_ok_iff.mp hlatex
  have hproper := Parser.proper_of_parse hparse
  have hshown : List.Forall₂ (fun n s => Shown options.mode n (part options.mode n s).toList)
      ns parts := by
    refine (List.forall₂_iff_zip.mpr ⟨(latexAll_length hparts).symm, ?_⟩)
    intro n s hmem
    have hn := (List.of_mem_zip hmem).1
    exact (hproper n hn).shown (hmath n hn)
      ((List.forall₂_iff_zip.mp (latexAll_eq_ok_iff.mp hparts)).2 hmem)
  have hreads := readsAs_assemble hshown false
  simpa only [ReadsAs, isSome_delimiter? hmode] using hreads

/-- Two dollars may stand before one, and text keeps regions apart. -/
theorem regions_of_typesets_display_first :
    Typesets ⟨.inline, false⟩ "$$x$$ y & $z$" "$$x$$$y$&$z$" ∧
      ∃ regions, Region.all? "$$x$$$y$&$z$".toList = some regions ∧
        List.Forall₂ (IsRegion .inline)
          [.displayMath (.identifier "x" none), .identifier "y" none,
            .inlineMath (.identifier "z" none)] regions := by
  have h : Typesets ⟨.inline, false⟩ "$$x$$ y & $z$" "$$x$$$y$&$z$" :=
    typesets_iff.mpr ⟨_, rfl, rfl⟩
  have hexpressions : expressions "$$x$$ y & $z$" =
      [.displayMath (.identifier "x" none), .identifier "y" none, .text "&",
        .inlineMath (.identifier "z" none)] := rfl
  have hregions := regions_of_typesets (by decide) (by rw [hexpressions]; decide) h
  rw [hexpressions] at hregions
  exact ⟨h, hregions.1 (by decide)⟩

/-- An expression between its own dollars and one between those of the mode: the two dollars in
the middle are read as one delimiter. -/
theorem regions_lost_behind_inlineMath :
    Typesets ⟨.inline, false⟩ "$x$ y" "$x$$y$" ∧
      (∀ n ∈ expressions "$x$ y", n.content.hasMath = false) ∧
      Region.all? "$x$$y$".toList = none := by
  have hexpressions : expressions "$x$ y" =
      [.inlineMath (.identifier "x" none), .identifier "y" none] := rfl
  refine ⟨typesets_iff.mpr ⟨_, rfl, rfl⟩, ?_, by decide⟩
  rw [hexpressions]
  decide

end Typesetting

end PlainMath
