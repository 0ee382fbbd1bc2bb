/-
# `Proofs.Dump` — a dump determines its tree

A dump lists the labels of a tree, each node before the nodes below it.  Labels leave things out:
the kind of a Greek letter and of a function, and whether a literal is a number or a constant.
In what is read from a source they can be made up for, because a word decides its kind and no
number is spelt like a constant (`Named`).  A label also tells how many nodes stand directly
below, so that the dump of a tree is never a proper beginning of another one:

    equal labels, and equal nodes below, are equal nodes    (`Named.sameAbove`)
    a dump ends where its tree ends                         (`Sourced.endsItself`)
    equal dumps are dumps of equal documents                (`dump_injective`)
-/
import PlainMath.Proofs.Rereading
import PlainMath.Proofs.Text.Quoted
import PlainMath.Proofs.Unambiguous

namespace PlainMath

/-- A reserved word has the kind that the table gives it. -/
theorem Keyword.kindOf_of_mem_table : ∀ p ∈ Keyword.table, Keyword.kindOf p.1 = p.2 := by
  decide +kernel

theorem Greek.kindOf_word (g : Greek) : Keyword.kindOf g.word = .greek g := by
  have hg : g ∈ Greek.all := by cases g <;> decide
  refine Keyword.kindOf_of_mem_table (g.word, .greek g) ?_
  simp [Keyword.table, hg]

theorem Func.kindOf_word (f : Func) : Keyword.kindOf f.word = .func f := by
  have hf : f ∈ Func.all := by cases f <;> decide
  refine Keyword.kindOf_of_mem_table (f.word, .func f) ?_
  simp [Keyword.table, hf]

namespace Node

/-! ## Labels -/

/-- The label names everything that the node holds besides the nodes below it. -/
inductive Named : Node → Prop where
  | number (rank : Nat) : Named (.number (some (.ofRank false rank)))
  | constant (c : Constant) : Named (.constant (.constant c))
  | greek (g : Greek) : Named (.identifier g.word (some (.greek g)))
  | identifier {name : String} :
      Keyword.kindOf name = .identifier → Named (.identifier name none)
  | text (raw : String) : Named (.text raw)
  | binary (op : Operator) (left right : Node) : Named (.binary (.operator op) left right)
  | unary (op : Operator) (operand : Node) : Named (.unary (.operator op) operand)
  | call (f : Func) (args : List Node) : Named (.call (.func f) f.word args)
  | grouping (inner : Node) : Named (.grouping inner)
  | inlineMath (inner : Node) : Named (.inlineMath inner)
  | displayMath (inner : Node) : Named (.displayMath inner)

/-- The forms of labels. -/
inductive LabelForm where
  | literal
  | name
  | text
  | binary
  | unary
  | call
  | grouping
  | inlineMath
  | displayMath

/-- The form of the label of a node. -/
def labelForm? : Node → Option LabelForm
  | .number _ | .constant _ => some .literal
  | .identifier _ _ => some .name
  | .text _ => some .text
  | .binary _ _ _ => some .binary
  | .unary _ _ => some .unary
  | .call _ _ _ => some .call
  | .grouping _ => some .grouping
  | .inlineMath _ => some .inlineMath
  | .displayMath _ => some .displayMath
  | .document _ | .unknown _ => none

/-- The form of a label, which its first two characters tell. -/
def LabelForm.ofChars? : List Char → Option LabelForm
  | 'L' :: _ => some .literal
  | 'I' :: 'd' :: _ => some .name
  | 'T' :: _ => some .text
  | 'B' :: _ => some .binary
  | 'U' :: _ => some .unary
  | 'C' :: _ => some .call
  | 'G' :: _ => some .grouping
  | 'I' :: 'n' :: _ => some .inlineMath
  | 'D' :: 'i' :: _ => some .displayMath
  | _ => none

theorem Named.labelForm?_eq {n : Node} (h : n.Named) :
    n.labelForm? = LabelForm.ofChars? n.label.toList := by
  cases h with
  | _ => simp [labelForm?, label, LabelForm.ofChars?]

theorem constant_name_injective {c c' : Constant}
    (h : (Kind.constant c).name = (Kind.constant c').name) : c = c' := by
  have hnodup : (Constant.all.map fun c => (Kind.constant c).name).Nodup := by decide
  have hall : ∀ c : Constant, c ∈ Constant.all := by
    intro c
    cases c <;> decide
  exact List.inj_on_of_nodup_map hnodup (hall c) (hall c') h

theorem operator_name_injective {op op' : Operator}
    (h : (Kind.operator op).name = (Kind.operator op').name) : op = op' := by
  have hnodup : (Operator.all.map fun op => (Kind.operator op).name).Nodup := by decide
  have hall : ∀ op : Operator, op ∈ Operator.all := by
    intro op
    cases op <;> decide
  exact List.inj_on_of_nodup_map hnodup (hall op) (hall op') h

/-- No number is spelt like a constant. -/
theorem number_text_ne_constant_name (rank : Nat) (c : Constant) :
    (Binary64.ofRank false rank).text ≠ (Kind.constant c).name := by
  have hname : (Kind.constant c).name.toList.head?.any Char.isDigit = false ∧
      (Kind.constant c).name ≠ "inf" := by
    cases c <;> decide
  intro heq
  rcases number_latex_cases rank with hdigit | hinfinite
  · rw [heq, hname.1] at hdigit
    cases hdigit
  · rw [hinfinite] at heq
    exact hname.2 heq.symm

theorem toString_injective {k k' : Nat} (h : toString k = toString k') : k = k' := by
  have hvalue : ∀ k : Nat, Nat.ofDigitChars 10 (toString k).toList 0 = k := by
    intro k
    rw [Nat.toString_eq_ofList_toDigits, String.toList_ofList]
    exact Nat.ofDigitChars_toDigits (by decide) (by decide)
  rw [← hvalue k, h, hvalue]

/-- The word and the number of arguments of a call can be told apart in its label. -/
theorem call_label_injective {f f' : Func} {args args' : List Node}
    (h : (call (.func f) f.word args).label = (call (.func f') f'.word args').label) :
    f = f' ∧ args.length = args'.length := by
  have hcomma : ∀ f : Func, ∀ c ∈ f.word.toList, (c != ',') = true := by
    intro f c hc
    have hword : ∀ f ∈ Func.all, ',' ∉ f.word.toList := by decide +kernel
    have hf : f ∈ Func.all := by cases f <;> decide
    exact bne_iff_ne.mpr fun heq => hword f hf (heq ▸ hc)
  have hchars := congrArg String.toList h
  simp only [label, String.append_assoc, String.toList_append, List.append_cancel_left_eq] at hchars
  obtain ⟨hword, hcount⟩ := append_unique (hcomma f) (hcomma f') (by simp) (by simp) hchars
  constructor
  · have hkind := congrArg Keyword.kindOf (String.toList_inj.mp hword)
    rw [Func.kindOf_word, Func.kindOf_word] at hkind
    exact Kind.func.inj hkind
  · simp only [List.append_cancel_left_eq, List.append_cancel_right_eq] at hcount
    exact toString_injective (String.toList_inj.mp hcount)

/-- A literal is told by its label. -/
theorem Named.eq_of_literal {n n' : Node} (hn : n.Named) (hn' : n'.Named)
    (hform : n.labelForm? = some .literal) (hform' : n'.labelForm? = some .literal)
    (h : n.label = n'.label) : n = n' := by
  cases hn with
  | number rank =>
      cases hn' with
      | number rank' =>
          have htext : (Binary64.ofRank false rank).text = (Binary64.ofRank false rank').text := by
            simpa [label, numberText] using h
          rw [Binary64.text_ofRank_injective htext]
      | constant c =>
          exact absurd (by simpa [label, numberText] using h) (number_text_ne_constant_name rank c)
      | _ => cases hform'
  | constant c =>
      cases hn' with
      | number rank =>
          exact absurd (by simpa [label, numberText] using h.symm)
            (number_text_ne_constant_name rank c)
      | constant c' =>
          have hname : (Kind.constant c).name = (Kind.constant c').name := by
            simpa [label] using h
          rw [constant_name_injective hname]
      | _ => cases hform'
  | _ => cases hform

/-- A name is told by its label: the word decides which letter it is, if it is one. -/
theorem Named.eq_of_name {n n' : Node} (hn : n.Named) (hn' : n'.Named)
    (hform : n.labelForm? = some .name) (hform' : n'.labelForm? = some .name)
    (h : n.label = n'.label) : n = n' := by
  cases hn with
  | greek g =>
      cases hn' with
      | greek g' =>
          have hword : g.word = g'.word := by simpa [label] using h
          have hkind := congrArg Keyword.kindOf hword
          rw [Greek.kindOf_word, Greek.kindOf_word] at hkind
          rw [Kind.greek.inj hkind]
      | @identifier name hname =>
          have hword : g.word = name := by simpa [label] using h
          rw [← hword, Greek.kindOf_word] at hname
          cases hname
      | _ => cases hform'
  | @identifier name hname =>
      cases hn' with
      | greek g =>
          have hword : name = g.word := by simpa [label] using h
          rw [hword, Greek.kindOf_word] at hname
          cases hname
      | @identifier name' _ =>
          have hword : name = name' := by simpa [label] using h
          rw [hword]
      | _ => cases hform'
  | _ => cases hform

/-- The node is the other one as soon as the nodes below are the same, and there are as many of
them. -/
structure SameAbove (n n' : Node) : Prop where
  length_eq : n.children.length = n'.children.length
  eq_of_children_eq : n.children = n'.children → n = n'

theorem SameAbove.of_eq {n n' : Node} (h : n = n') : SameAbove n n' := ⟨h ▸ rfl, fun _ => h⟩

/-- Nodes with the same label differ at most in the nodes below them. -/
theorem Named.sameAbove {n n' : Node} (hn : n.Named) (hn' : n'.Named) (h : n.label = n'.label) :
    SameAbove n n' := by
  have hform : n.labelForm? = n'.labelForm? := by
    rw [hn.labelForm?_eq, hn'.labelForm?_eq, h]
  have hnamed := hn
  cases hn with
  | number | constant => exact .of_eq (hnamed.eq_of_literal hn' rfl hform.symm h)
  | greek | identifier => exact .of_eq (hnamed.eq_of_name hn' rfl hform.symm h)
  | text raw =>
      cases hn' with
      | text raw' =>
          have hquoted : Text.quoted raw = Text.quoted raw' := by simpa [label] using h
          exact .of_eq (congrArg Node.text (Text.quoted_injective hquoted))
      | _ => cases hform
  | binary op left right =>
      cases hn' with
      | binary op' left' right' =>
          have hname : (Kind.operator op).name = (Kind.operator op').name := by
            simpa [label] using h
          rw [operator_name_injective hname]
          exact ⟨rfl, fun heq => by simp_all [children]⟩
      | _ => cases hform
  | unary op operand =>
      cases hn' with
      | unary op' operand' =>
          have hname : (Kind.operator op).name = (Kind.operator op').name := by
            simpa [label] using h
          rw [operator_name_injective hname]
          exact ⟨rfl, fun heq => by simp_all [children]⟩
      | _ => cases hform
  | call f args =>
      cases hn' with
      | call f' args' =>
          obtain ⟨rfl, hlength⟩ := call_label_injective h
          exact ⟨hlength, fun heq => by simp_all [children]⟩
      | _ => cases hform
  | grouping inner =>
      cases hn' with
      | grouping inner' => exact ⟨rfl, fun heq => by simp_all [children]⟩
      | _ => cases hform
  | inlineMath inner =>
      cases hn' with
      | inlineMath inner' => exact ⟨rfl, fun heq => by simp_all [children]⟩
      | _ => cases hform
  | displayMath inner =>
      cases hn' with
      | displayMath inner' => exact ⟨rfl, fun heq => by simp_all [children]⟩
      | _ => cases hform

end Node

/-! ## Trees of a source -/

/-- The token is spelt as its kind wants, and an identifier is no reserved word. -/
structure Token.Faithful (t : Token) : Prop where
  wellSpelt : t.WellSpelt
  notReserved : t.kind = .identifier → Keyword.kindOf t.text = .identifier

theorem Token.faithful_of_mem_body {source : String} {t : Token}
    (ht : t ∈ (Stream.ofSource source).body) : t.Faithful :=
  ⟨Token.wellSpelt_of_mem_body ht, Token.kindOf_of_mem_body ht⟩

namespace Grammar

open PlainMath.Parser (Level)

/-- Labels name what the grammar derives. -/
theorem Derives.named : ∀ {level : Level} {w : List Token} {n : Node},
    Derives Func.Accepts level w n → (∀ t ∈ w, t.Faithful) → n.Named
  | _, _, _, .sum _ _ _ _, _ | _, _, _, .product _ _ _ _, _ | _, _, _, .power _ _ _, _ =>
      .binary _ _ _
  | _, _, _, .sign _ _ _, _ => .unary _ _
  | _, _, _, .ofProduct h, hw | _, _, _, .ofUnary h, hw | _, _, _, .ofPower h, hw
  | _, _, _, .ofCall h, hw | _, _, _, .ofPrimary h, hw => h.named hw
  | _, _, _, .constant _, _ => .constant _
  | _, _, _, .emptyCall ht _ _ _, hw | _, _, _, .call ht _ _ _ _, hw => by
      have hword := (hw _ List.mem_cons_self).wellSpelt
      simp only [Token.WellSpelt, ht] at hword
      rw [hword]
      exact .call _ _
  | _, _, _, .number ht, hw => by
      have hliteral := (hw _ List.mem_cons_self).wellSpelt
      simp only [Token.WellSpelt, ht] at hliteral
      obtain ⟨rank, hrank⟩ := hliteral
      rw [hrank]
      exact .number rank
  | _, _, _, .greek ht, hw => by
      have hword := (hw _ List.mem_cons_self).wellSpelt
      simp only [Token.WellSpelt, ht] at hword
      rw [hword]
      exact .greek _
  | _, _, _, .identifier ht, hw => .identifier ((hw _ List.mem_cons_self).notReserved ht)
  | _, _, _, .text _, _ => .text _
  | _, _, _, .group _ _ _, _ => .grouping _
  | _, _, _, .inlineMath _ _ _, _ => .inlineMath _
  | _, _, _, .displayMath _ _ _, _ => .displayMath _

end Grammar

namespace Node

open Grammar

/-- The tree is derived from tokens of a source. -/
def Sourced (n : Node) : Prop :=
  ∃ level w, (∀ t ∈ w, t.Faithful) ∧ Derives Func.Accepts level w n

theorem Sourced.named {n : Node} (h : n.Sourced) : n.Named := by
  obtain ⟨level, w, hw, hderives⟩ := h
  exact hderives.named hw

theorem Sourced.of_mem_children {m n : Node} (h : n.Sourced) (hm : m ∈ n.children) :
    m.Sourced := by
  obtain ⟨level, w, hw, hderives⟩ := h
  obtain ⟨level', u, hu, hchild⟩ := hderives.of_mem_children hm
  exact ⟨level', u, fun t ht => hw t (hu ht), hchild⟩

theorem sizeOf_lt_of_mem_children {m n : Node} (h : m ∈ n.children) : sizeOf m < sizeOf n := by
  cases n with
  | call function name args =>
      have hlt : sizeOf m < sizeOf args := List.sizeOf_lt_of_mem h
      simp only [call.sizeOf_spec]
      omega
  | document nodes =>
      have hlt : sizeOf m < sizeOf nodes := List.sizeOf_lt_of_mem h
      simp only [document.sizeOf_spec]
      omega
  | binary op left right =>
      simp only [children, List.mem_cons, List.not_mem_nil, or_false] at h
      rcases h with rfl | rfl
      all_goals simp only [binary.sizeOf_spec]; omega
  | unary | grouping | inlineMath | displayMath =>
      obtain rfl := List.mem_singleton.mp h
      simp
  | number | constant | identifier | text | unknown => cases h

/-! ## Dumps -/

/-- The label of a node, and then the dumps of the nodes below it. -/
theorem dump_eq (n : Node) (depth : Int) :
    n.dump depth = indented depth n.label :: dumpAll (depth + 1) n.children := by
  cases n with
  | _ => simp [dump, dumpAll, children]

theorem indented_injective {depth : Int} {a b : String} (h : indented depth a = indented depth b) :
    a = b := by
  simpa [indented] using h

/-- What follows the dump of the tree can be told from the dump. -/
def EndsItself (n : Node) : Prop :=
  ∀ (depth : Int) (n' : Node) (rest rest' : List String), n'.Sourced →
    n.dump depth ++ rest = n'.dump depth ++ rest' → n = n' ∧ rest = rest'

/-- Dumps side by side are told apart if it is known how many they are, or that nothing
follows. -/
theorem dumpAll_append_inj {depth : Int} : ∀ {ns ns' : List Node} {rest rest' : List String},
    (∀ n ∈ ns, n.EndsItself) → (∀ n ∈ ns', n.Sourced) →
    (ns.length = ns'.length ∨ rest = [] ∧ rest' = []) →
    dumpAll depth ns ++ rest = dumpAll depth ns' ++ rest' → ns = ns' ∧ rest = rest' := by
  intro ns
  induction ns with
  | nil =>
      intro ns' rest rest' _ _ hends h
      cases ns' with
      | nil => exact ⟨rfl, h⟩
      | cons n' ns' =>
          rcases hends with hlength | ⟨rfl, rfl⟩
          · cases hlength
          · simp [dumpAll, dump_eq] at h
  | cons n ns ih =>
      intro ns' rest rest' hns hns' hends h
      rw [List.forall_mem_cons] at hns
      cases ns' with
      | nil =>
          rcases hends with hlength | ⟨rfl, rfl⟩
          · cases hlength
          · simp [dumpAll, dump_eq] at h
      | cons n' ns' =>
          rw [List.forall_mem_cons] at hns'
          simp only [dumpAll, List.append_assoc] at h
          obtain ⟨rfl, htail⟩ := hns.1 depth n' _ _ hns'.1 h
          have hends' : ns.length = ns'.length ∨ rest = [] ∧ rest' = [] :=
            hends.imp_left Nat.succ.inj
          obtain ⟨rfl, hrest⟩ := ih hns.2 hns'.2 hends' htail
          exact ⟨rfl, hrest⟩

/-- The dump of a tree of a source is not the beginning of another one. -/
theorem Sourced.endsItself {n : Node} (hn : n.Sourced) : n.EndsItself := by
  intro depth n' rest rest' hn' h
  have hchildren : ∀ m ∈ n.children, m.EndsItself := fun m hm =>
    have := sizeOf_lt_of_mem_children hm
    (hn.of_mem_children hm).endsItself
  rw [dump_eq n, dump_eq n', List.cons_append, List.cons_append, List.cons.injEq] at h
  obtain ⟨hlabel, hbelow⟩ := h
  have hsame := hn.named.sameAbove hn'.named (indented_injective hlabel)
  obtain ⟨heq, hrest⟩ := dumpAll_append_inj hchildren (fun m hm => hn'.of_mem_children hm)
    (.inl hsame.length_eq) hbelow
  exact ⟨hsame.eq_of_children_eq heq, hrest⟩
termination_by sizeOf n

end Node

namespace Parser

open Grammar

theorem sourced_of_parse {source : String} {n : Node} (h : parse (.ofSource source) = .ok n) :
    ∃ ns, n = .document ns ∧ ∀ m ∈ ns, m.Sourced := by
  obtain ⟨ns, rfl, hdocument⟩ := document_of_source h
  refine ⟨ns, rfl, fun m hm => ?_⟩
  obtain ⟨w, hw, hexpression⟩ := hdocument.expression_of_mem hm
  exact ⟨_, w, fun t ht => Token.faithful_of_mem_body (hw ht), hexpression⟩

/-- Two documents that are read from sources and have the same dump, at whatever depth, are the
same. -/
theorem dump_injective {source source' : String} {document document' : Node}
    (h : parse (.ofSource source) = .ok document)
    (h' : parse (.ofSource source') = .ok document') (depth : Int)
    (hdump : document.dump depth = document'.dump depth) : document = document' := by
  obtain ⟨ns, rfl, hns⟩ := sourced_of_parse h
  obtain ⟨ns', rfl, hns'⟩ := sourced_of_parse h'
  rw [Node.dump_eq, Node.dump_eq, List.cons.injEq] at hdump
  have hbelow : Node.dumpAll (depth + 1) ns ++ [] = Node.dumpAll (depth + 1) ns' ++ [] :=
    congrArg (· ++ []) hdump.2
  obtain ⟨rfl, -⟩ := Node.dumpAll_append_inj (fun n hn => (hns n hn).endsItself) hns'
    (.inr ⟨rfl, rfl⟩) hbelow
  rfl

/-- Spaces and line breaks are read over, and so they are not seen in the dump either. -/
theorem dump_injective_spaced :
    ∃ document document' : Node,
      parse (.ofSource "sin(x) - PI\n") = .ok document ∧
      parse (.ofSource " sin( x )-PI") = .ok document' ∧
      document.dump 3 = document'.dump 3 ∧ document = document' := by
  let tree : Node := .document [.binary (.operator .minus)
    (.call (.func .sin) "sin" [.identifier "x" none]) (.constant (.constant .pi))]
  have h : parse (.ofSource "sin(x) - PI\n") = .ok tree := rfl
  have h' : parse (.ofSource " sin( x )-PI") = .ok tree := rfl
  exact ⟨tree, tree, h, h', rfl, dump_injective h h' 3 rfl⟩

end Parser

end PlainMath
