/-
# `Proofs.ControlWords` — the control words of what is typeset

A control word is a backslash and the letters behind it, as many as there are.  Those that are
meant are in the tables of constants, letters and templates.  A text that goes on with a letter
where a control word has ended would make another word of it.

    no piece of a template goes on with a control word   (`Clean.of_fill`)
    so the LaTeX of a tree has control words of the
    tables only, and ends with few of them               (`Node.Proper.clean`)
    delimiters keep neighbours apart; without them two
    neighbours can fuse, and the result is in no table   (`isChain_iff_controlWords`)
-/
import PlainMath.Proofs.Composition
import PlainMath.Proofs.Regions
import PlainMath.Proofs.Unambiguous

namespace PlainMath

/-! ## The control words of a text -/

/-- The letters behind a backslash, if there are any. -/
def wordAt (c : Char) (cs : List Char) : Option (List Char) :=
  if c = '\\' ∧ cs.takeWhile Char.isAlpha ≠ [] then some (cs.takeWhile Char.isAlpha) else none

/-- The control words of a text, without their backslashes. -/
def controlWords : List Char → List (List Char)
  | [] => []
  | c :: cs => (wordAt c cs).toList ++ controlWords cs

/-- The letters behind the last backslash, if nothing else stands behind it: what comes next can
go on with this control word. -/
def unfinished : List Char → Option (List Char)
  | [] => none
  | c :: cs => (unfinished cs).or (if c = '\\' ∧ cs.all Char.isAlpha then some cs else none)

section Texts
variable {s t : List Char}

theorem controlWords_append (h : settled s = true ∨ NoLetterFirst t) :
    controlWords (s ++ t) = controlWords s ++ controlWords t := by
  induction s with
  | nil => rfl
  | cons c s ih =>
      have hs : settled s = true ∨ NoLetterFirst t :=
        h.imp_left fun h => ((Bool.and_eq_true _ _).mp h).2
      have hword : wordAt c (s ++ t) = wordAt c s := by
        by_cases hc : c = '\\'
        · have htake : (s ++ t).takeWhile Char.isAlpha = s.takeWhile Char.isAlpha := by
            rcases h with h | h
            · simp only [settled, hc, bne_self_eq_false, Bool.false_or, Bool.and_eq_true] at h
              exact takeWhile_append_of_any h.1 t
            · exact takeWhile_append_of_head h s
          rw [wordAt, wordAt, htake]
        · simp [wordAt, hc]
      rw [List.cons_append, controlWords, controlWords, hword, ih hs, List.append_assoc]

theorem settled_iff : settled s = true ↔ unfinished s = none := by
  induction s with
  | nil => simp [settled, unfinished]
  | cons c s ih => simp [settled, unfinished, ih, and_comm, imp_iff_not_or]

theorem unfinished_append (h : settled s = true ∨ t ≠ [] ∧ NoLetterFirst t) :
    unfinished (s ++ t) = unfinished t := by
  induction s with
  | nil => rfl
  | cons c s ih =>
      have hs : settled s = true ∨ t ≠ [] ∧ NoLetterFirst t :=
        h.imp_left fun h => ((Bool.and_eq_true _ _).mp h).2
      have hother : ¬ (c = '\\' ∧ (s ++ t).all Char.isAlpha = true) := by
        rintro ⟨rfl, hall⟩
        rw [List.all_append, Bool.and_eq_true] at hall
        rcases h with h | ⟨hne, hfirst⟩
        · simp only [settled, bne_self_eq_false, Bool.false_or, Bool.and_eq_true] at h
          obtain ⟨d, hd, hletter⟩ := List.any_eq_true.mp h.1
          rw [List.all_eq_true.mp hall.1 d hd] at hletter
          cases hletter
        · obtain ⟨d, t, rfl⟩ := List.exists_cons_of_ne_nil hne
          have hd := List.all_eq_true.mp hall.2 d List.mem_cons_self
          rw [hfirst d rfl] at hd
          cases hd
      rw [List.cons_append, unfinished, ih hs, if_neg hother, Option.or_none]

theorem settled_append (hs : settled s = true) (ht : settled t = true) :
    settled (s ++ t) = true := by
  rw [settled_iff] at ht ⊢
  rw [unfinished_append (.inl hs), ht]

/-- A letter behind an unfinished control word goes on with it. -/
theorem fused_mem_controlWords {w : List Char} (hs : unfinished s = some w)
    (ht : t.takeWhile Char.isAlpha ≠ []) :
    w ++ t.takeWhile Char.isAlpha ∈ controlWords (s ++ t) := by
  induction s with
  | nil => cases hs
  | cons c s ih =>
      rw [List.cons_append, controlWords, List.mem_append]
      rw [unfinished, Option.or_eq_some_iff] at hs
      rcases hs with hs | ⟨-, hs⟩
      · exact .inr (ih hs)
      · refine .inl ?_
        split at hs
        · next hc =>
            have hw : s = w := Option.some.inj hs
            subst hw
            have hall : ∀ d ∈ s, d.isAlpha = true := List.all_eq_true.mp hc.2
            have htake : (s ++ t).takeWhile Char.isAlpha = s ++ t.takeWhile Char.isAlpha :=
              List.takeWhile_append_of_pos hall
            have hne : s ++ t.takeWhile Char.isAlpha ≠ [] := List.append_ne_nil_of_right_ne_nil s ht
            simp [wordAt, hc.1, htake, hne]
        · cases hs

theorem controlWords_of_not_mem (h : '\\' ∉ s) : controlWords s = [] := by
  induction s with
  | nil => rfl
  | cons c s ih =>
      rw [List.mem_cons, not_or] at h
      rw [controlWords, ih h.2, wordAt, if_neg fun hc => h.1 hc.1.symm]
      rfl

theorem settled_of_not_mem (h : '\\' ∉ s) : settled s = true := by
  induction s with
  | nil => rfl
  | cons c s ih =>
      rw [List.mem_cons, not_or] at h
      simp [settled, ih h.2, Ne.symm h.1]

end Texts

/-! ## The tables -/

/-- The LaTeX in the tables of constants, letters, operators and functions. -/
def tableTexts : List String :=
  Constant.all.map Constant.latex ++ Greek.all.map Greek.latex ++
    Node.templates.map (fun t => t.fill []) ++
    Func.all.filterMap fun f =>
      match f.form with
      | .environment name => some (Func.environmentLatex name [])
      | .shapes _ => none

/-- The control words of the tables. -/
def tableWords : List (List Char) := tableTexts.flatMap fun s => controlWords s.toList

/-- The control words that something in the tables ends with. -/
def finalWords : List (List Char) := tableTexts.filterMap fun s => unfinished s.toList

/-- A control word that can stand at the end is not the beginning of another one. -/
theorem eq_of_finalWord_isPrefix : ∀ w ∈ finalWords, ∀ v ∈ tableWords, w <+: v → v = w := by
  decide +kernel

/-- The text has control words of the tables only, and if it ends with one then with one that can
stand at the end. -/
structure Clean (s : List Char) : Prop where
  words : ∀ w ∈ controlWords s, w ∈ tableWords
  ending : ∀ w, unfinished s = some w → w ∈ finalWords

namespace Clean
variable {s t : List Char}

theorem of_mem {s : String} (h : s ∈ tableTexts) : Clean s.toList where
  words _ hw := List.mem_flatMap.mpr ⟨s, h, hw⟩
  ending _ hw := List.mem_filterMap.mpr ⟨s, h, hw⟩

theorem of_not_mem (h : '\\' ∉ s) : Clean s where
  words w hw := by
    rw [controlWords_of_not_mem h] at hw
    cases hw
  ending w hw := by
    rw [settled_iff.mp (settled_of_not_mem h)] at hw
    cases hw

theorem append (hs : Clean s) (ht : Clean t)
    (hjoin : settled s = true ∨ t ≠ [] ∧ NoLetterFirst t) : Clean (s ++ t) where
  words w hw := by
    rw [controlWords_append (hjoin.imp_right And.right)] at hw
    rcases List.mem_append.mp hw with hw | hw
    · exact hs.words w hw
    · exact ht.words w hw
  ending w hw := by
    rw [unfinished_append hjoin] at hw
    exact ht.ending w hw

end Clean

/-! ## Templates -/

theorem fill_ne_nil_of_beginsSoftly {p : Piece} (h : p.beginsSoftly = true) (args : List String) :
    (p.fill args).toList ≠ [] := by
  cases p with
  | text s =>
      intro hs
      rw [Piece.fill] at hs
      simp [Piece.beginsSoftly, hs] at h
  | arg i => cases h
  | control | opening | closing => simp [Piece.fill]

/-- A template ends as its last piece does. -/
theorem unfinished_fill {args : List String} : ∀ {t : Template}, t.legible = true →
    ∀ p ∈ t.getLast?, unfinished (t.fill args).toList = unfinished (p.fill args).toList
  | [], _, p, hp => by cases hp
  | [q], _, p, hp => by
      cases hp
      simp [Template.fill]
  | q :: q' :: t, h, p, hp => by
      obtain ⟨hjoin, ht⟩ := Template.legible_cons h
      rw [Template.fill_cons, String.toList_append, unfinished_append ?_]
      · exact unfinished_fill ht p (by simpa using hp)
      · refine hjoin.imp_right fun hsoft => ⟨?_, noLetterFirst_fill hsoft⟩
        rw [Template.fill_cons, String.toList_append]
        exact List.append_ne_nil_of_left_ne_nil (fill_ne_nil_of_beginsSoftly hsoft args) _

theorem Clean.getD {args : List String} (hargs : ∀ s ∈ args, Clean s.toList) (i : Nat) :
    Clean (args.getD i "").toList := by
  rw [List.getD_eq_getElem?_getD]
  cases h : args[i]? with
  | none => exact .of_not_mem (by simp)
  | some s => exact hargs s (List.mem_of_getElem? h)

/-- The words of a filled template are its own and those of the arguments. -/
theorem Clean.of_fill {t : Template} {args : List String} (hlegible : t.legible = true)
    (ht : Clean (t.fill []).toList) (hargs : ∀ s ∈ args, Clean s.toList) :
    Clean (t.fill args).toList where
  words w hw := by
    rw [Template.read_fill rfl controlWords_append hlegible] at hw
    obtain ⟨p, hp, hw⟩ := List.mem_flatMap.mp hw
    cases p with
    | arg i => exact (Clean.getD hargs i).words w hw
    | text | control | opening | closing =>
        refine ht.words w ?_
        rw [Template.read_fill rfl controlWords_append hlegible]
        exact List.mem_flatMap.mpr ⟨_, hp, hw⟩
  ending w hw := by
    cases hlast : t.getLast? with
    | none =>
        rw [List.getLast?_eq_none_iff.mp hlast] at hw
        cases hw
    | some p =>
        rw [unfinished_fill hlegible p hlast] at hw
        cases p with
        | arg i => exact (Clean.getD hargs i).ending w hw
        | text | control | opening | closing =>
            refine ht.ending w ?_
            rw [unfinished_fill hlegible _ hlast]
            exact hw

/-! ## Trees -/

namespace Node

theorem templates_legible : ∀ t ∈ templates, t.legible = true ∧ (t.fill []).toList ≠ [] := by
  decide

theorem fill_mem_tableTexts {t : Template} (h : t ∈ templates) : t.fill [] ∈ tableTexts :=
  List.mem_append_left _ (List.mem_append_right _ (List.mem_map_of_mem h))

theorem environmentLatex_mem_tableTexts {f : Func} {name : String}
    (h : f.form = .environment name) : Func.environmentLatex name [] ∈ tableTexts := by
  refine List.mem_append_right _ (List.mem_filterMap.mpr ⟨f, by cases f <;> decide, ?_⟩)
  simp only [h]

theorem clean_rows : ∀ {rows : List String}, (∀ s ∈ rows, Clean s.toList) →
    Clean (" \\\\ ".intercalate rows).toList
  | [], _ => .of_not_mem (by simp)
  | [s], h => by simpa using h s List.mem_cons_self
  | s :: t :: rows, h => by
      have hrest := clean_rows fun u hu => h u (List.mem_cons_of_mem s hu)
      have hnone :
          unfinished (Template.fill [.arg 0, .text " \\\\ ", .arg 1] []).toList = none := by
        decide
      rw [intercalate_eq_fill]
      refine .of_fill (by decide) ⟨by decide, fun w hw => ?_⟩ ?_
      · cases hnone.symm.trans hw
      · exact List.forall_mem_cons.mpr
          ⟨h s List.mem_cons_self, List.forall_mem_singleton.mpr hrest⟩

theorem clean_environment {f : Func} {name : String} (hform : f.form = .environment name)
    {rows : List String} (hrows : ∀ s ∈ rows, Clean s.toList) :
    Clean (Func.environmentLatex name rows).toList := by
  have horderly : (environmentTemplate name).orderly = true := by
    have houtlines := f.outlines_form
    rw [hform] at houtlines
    exact ((Bool.and_eq_true _ _).mp houtlines).1
  have hempty : (environmentTemplate name).fill [] = Func.environmentLatex name [] := by
    rw [environmentLatex_eq_fill]
    rfl
  rw [environmentLatex_eq_fill]
  refine .of_fill ((Bool.and_eq_true _ _).mp horderly).1 ?_ ?_
  · rw [hempty]
    exact .of_mem (environmentLatex_mem_tableTexts hform)
  · exact List.forall_mem_singleton.mpr (clean_rows hrows)

/-- No character of text in the tree is a backslash. -/
def BackslashFree (n : Node) : Prop := ∀ m, Within m n → m ≠ .text "\\"

theorem Within.of_mem_children {m k n : Node} (h : Within m k) (hk : k ∈ n.children) :
    Within m n := by
  induction h with
  | refl => exact .child hk .refl
  | child hm _ ih => exact .child hm (ih hk)

theorem BackslashFree.of_mem_children {m n : Node} (h : BackslashFree n) (hm : m ∈ n.children) :
    BackslashFree m := fun k hk => h k (hk.of_mem_children hm)

theorem Leaf.clean {n : Node} {s : String} (h : Leaf n s) : Clean s.toList := by
  cases h with
  | number rank =>
      refine .of_not_mem ?_
      rcases Binary64.text_ofRank rank with ⟨-, d, hd, -⟩ | ⟨-, htext⟩
      · exact fun hmem => absurd (hd.chars _ hmem) (by decide)
      · rw [htext]
        decide
  | constant c =>
      refine .of_mem (List.mem_append_left _ (List.mem_append_left _ (List.mem_append_left _ ?_)))
      exact List.mem_map_of_mem (by cases c <;> decide)
  | greek g =>
      refine .of_mem (List.mem_append_left _ (List.mem_append_left _ (List.mem_append_right _ ?_)))
      exact List.mem_map_of_mem (by cases g <;> decide)
  | identifier hname =>
      obtain ⟨c, rest, hs, hc, hrest⟩ := isWord_iff.mp hname
      refine .of_not_mem fun hmem => ?_
      rw [hs] at hmem
      rcases List.mem_cons.mp hmem with rfl | hmem
      · exact absurd hc (by decide)
      · exact absurd (hrest _ hmem) (by decide)

/-- The LaTeX of a tree has control words of the tables only. -/
theorem Proper.clean {mode : Mode} {n : Node} (hn : n.Proper) {s : String}
    (h : n.latex mode = .ok s) : BackslashFree n → s.toList ≠ [] ∧ Clean s.toList := by
  have hall : ∀ {ns : List Node} {parts : List String},
      List.Forall₂ (fun n s => BackslashFree n → s.toList ≠ [] ∧ Clean s.toList) ns parts →
      (∀ n ∈ ns, BackslashFree n) → ∀ s ∈ parts, Clean s.toList := by
    intro ns parts hparts hfree s hs
    obtain ⟨n, hn, hclean⟩ := exists_of_mem_forall₂ hparts hs
    exact (hclean (hfree n hn)).2
  refine hn.latex_induction (P := fun n s => BackslashFree n → s.toList ≠ [] ∧ Clean s.toList)
    ?_ ?_ ?_ ?_ h
  · intro n s hleaf _
    obtain ⟨c, rest, hs, -⟩ := hleaf.first
    exact ⟨by simp [hs], hleaf.clean⟩
  · intro c hc hfree
    refine ⟨by simp, .of_not_mem fun hmem => ?_⟩
    obtain rfl : '\\' = c := by simpa using hmem
    exact hfree _ .refl rfl
  · intro n t parts ht hparts hfree
    obtain ⟨hlegible, hne⟩ := templates_legible t (template?_mem ht)
    refine ⟨Template.fill_ne_nil parts hne, .of_fill hlegible ?_ ?_⟩
    · exact .of_mem (fill_mem_tableTexts (template?_mem ht))
    · exact hall hparts fun m hm => hfree.of_mem_children hm
  · intro f word name args parts hform hparts hfree
    refine ⟨by simp [Func.environmentLatex_eq], clean_environment hform ?_⟩
    exact hall hparts fun m hm => hfree.of_mem_children hm

end Node

/-! ## Where a tree has its texts from -/

namespace Grammar

open PlainMath.Parser (Level)
open PlainMath.Node (Within)

variable {allows : Func → Nat → Prop} {w : List Token}

theorem Derives.of_within {level : Level} {m n : Node} (h : Derives allows level w n)
    (hm : Within m n) : ∃ level' u, u ⊆ w ∧ Derives allows level' u m := by
  induction hm with
  | refl => exact ⟨level, w, List.Subset.refl w, h⟩
  | child hmem _ ih =>
      obtain ⟨level', u, hu, hk⟩ := ih h
      obtain ⟨level'', v, hv, hm⟩ := hk.of_mem_children hmem
      exact ⟨level'', v, List.Subset.trans hv hu, hm⟩

theorem Derives.loosen {level : Level} {n : Node} (h : Derives allows level w n) :
    Derives allows .additive w n := by
  cases level with
  | additive => exact h
  | multiplicative => exact .ofProduct h
  | unary => exact .ofProduct (.ofUnary h)
  | power => exact .ofProduct (.ofUnary (.ofPower h))
  | call => exact .ofProduct (.ofUnary (.ofPower (.ofCall h)))
  | primary => exact .ofProduct (.ofUnary (.ofPower (.ofCall (.ofPrimary h))))

/-- A text is spelt by a token of its own. -/
theorem Derives.text_mem {level : Level} {raw : String}
    (h : Derives allows level w (.text raw)) : ∃ t ∈ w, t.kind = .text ∧ t.text = raw := by
  cases h.loosen with | ofProduct h =>
  cases h with | ofUnary h =>
  cases h with | ofPower h =>
  cases h with | ofCall h =>
  cases h with | ofPrimary h =>
  cases h with | text hkind => exact ⟨_, List.mem_cons_self, hkind, rfl⟩

end Grammar

/-- No text of the source is a backslash. -/
def Typesetting.BackslashFree (source : String) : Prop :=
  ∀ t ∈ (Stream.ofSource source).tokens, t.kind = .text → t.text ≠ "\\"

instance (source : String) : Decidable (Typesetting.BackslashFree source) :=
  inferInstanceAs (Decidable (∀ _ ∈ _, _))

theorem Typesetting.BackslashFree.of_mem {source : String} (h : BackslashFree source) {n : Node}
    (hn : n ∈ expressions source) : n.BackslashFree := by
  rintro m hm rfl
  obtain ⟨w, hw, hexpr⟩ := expression_of_mem hn
  obtain ⟨level, u, hu, hm⟩ := hexpr.of_within hm
  obtain ⟨t, ht, hkind, htext⟩ := hm.text_mem
  exact h t (List.mem_append_left _ (hw (hu ht))) hkind htext

/-! ## Neighbours -/

/-- The first text ends with a control word, and the second one begins with a letter. -/
def fuse (s t : List Char) : Bool := !settled s && t.head?.any Char.isAlpha

theorem noLetterFirst_of_not_any {t : List Char} (h : t.head?.any Char.isAlpha = false) :
    NoLetterFirst t := by
  intro c hc
  rw [Option.mem_def.mp hc] at h
  exact h

/-- Clean texts side by side have control words of the tables only exactly if no two neighbours
fuse. -/
theorem isChain_iff_controlWords : ∀ {ss : List (List Char)}, (∀ s ∈ ss, s ≠ [] ∧ Clean s) →
    ((∀ w ∈ controlWords ss.flatten, w ∈ tableWords) ↔ ss.IsChain (fuse · · = false))
  | [], _ => by simp [controlWords]
  | [s], h => by simpa using (h s List.mem_cons_self).2.words
  | s :: t :: ss, h => by
      obtain ⟨⟨-, hs⟩, hrest⟩ := List.forall_mem_cons.mp h
      have ih := isChain_iff_controlWords hrest
      obtain ⟨c, t, rfl⟩ := List.exists_cons_of_ne_nil (hrest t List.mem_cons_self).1
      rw [List.isChain_cons_cons, ← ih, List.flatten_cons]
      have hfirst : (List.flatten ((c :: t) :: ss)).head? = some c := rfl
      cases hfuse : fuse s (c :: t) with
      | false =>
          have hjoin : settled s = true ∨ NoLetterFirst (List.flatten ((c :: t) :: ss)) := by
            simp only [fuse, Bool.and_eq_false_imp, Bool.not_eq_true'] at hfuse
            cases hsettled : settled s with
            | true => exact .inl rfl
            | false => exact .inr (noLetterFirst_of_not_any (hfuse hsettled))
          rw [controlWords_append hjoin, List.forall_mem_append, and_iff_right hs.words,
            and_iff_right rfl]
      | true =>
          refine iff_of_false (fun hwords => ?_) (fun hchain => absurd hchain.1 nofun)
          simp only [fuse, Bool.and_eq_true, Bool.not_eq_true'] at hfuse
          obtain ⟨w, hw⟩ : ∃ w, unfinished s = some w := by
            cases hunfinished : unfinished s with
            | none =>
                rw [settled_iff.mpr hunfinished] at hfuse
                cases hfuse.1
            | some w => exact ⟨w, rfl⟩
          have hletters : (List.flatten ((c :: t) :: ss)).takeWhile Char.isAlpha ≠ [] := by
            have hc : c.isAlpha = true := hfuse.2
            simp [hc]
          -- the fused word goes on behind a final word, so it is in no table
          have hfused := hwords _ (fused_mem_controlWords hw hletters)
          have heq := eq_of_finalWord_isPrefix w (hs.ending w hw) _ hfused (List.prefix_append w _)
          exact hletters (List.append_right_eq_self.mp heq)

/-! ## Documents -/

namespace Node

/-- The LaTeX of a tree in a document without delimiters. -/
def plainLatex (n : Node) : List Char :=
  match n.latex .plain with
  | .ok s => s.toList
  | .error _ => []

/-- Two neighbours fuse in a document without delimiters. -/
def fuses (m n : Node) : Bool := fuse m.plainLatex n.plainLatex

theorem plainLatex_of_latex {n : Node} {s : String} (h : n.latex .plain = .ok s) :
    n.plainLatex = s.toList := by
  rw [plainLatex, h]

theorem toList_assemble_plain {ns : List Node} {parts : List String}
    (h : List.Forall₂ (fun n s => n.latex .plain = .ok s) ns parts) : ∀ wrapped : Bool,
    (assemble .plain wrapped ((ns.map isVerbatim).zip parts)).toList =
      (ns.map plainLatex).flatten := by
  induction h with
  | nil => exact fun _ => rfl
  | @cons n s ns parts hs _ ih =>
      intro wrapped
      have hgap : gap .plain wrapped n = "" := by simp [gap]
      have hpart : part .plain n s = s := by simp [part, Mode.wrap]
      rw [List.map_cons, List.zip_cons_cons, assemble_cons, hgap, hpart, String.empty_append,
        String.toList_append, ih, List.map_cons, List.flatten_cons, plainLatex_of_latex hs]

/-- A text between dollars. -/
theorem clean_wrap {mode : Mode} (hmode : mode ≠ .plain) {s : String} (hs : Clean s.toList) :
    Clean (mode.wrap s).toList ∧ settled (mode.wrap s).toList = true := by
  have hfence : ∀ {fence : String} {c : Char} {cs : List Char}, fence.toList = c :: cs →
      c.isAlpha = false → '\\' ∉ fence.toList →
      Clean (fence ++ s ++ fence).toList ∧ settled (fence ++ s ++ fence).toList = true := by
    intro fence c cs hchars hc hfree
    have hjoin : fence.toList ≠ [] ∧ NoLetterFirst fence.toList := by
      rw [hchars]
      exact ⟨List.cons_ne_nil c cs, fun d hd => Option.some.inj hd ▸ hc⟩
    have hclean : Clean fence.toList := .of_not_mem hfree
    have hsettled : settled fence.toList = true := settled_of_not_mem hfree
    rw [String.toList_append, String.toList_append]
    refine ⟨(hclean.append hs (.inl hsettled)).append hclean (.inr hjoin), ?_⟩
    rw [settled_iff, unfinished_append (.inr hjoin)]
    exact settled_iff.mp hsettled
  cases mode with
  | plain => exact absurd rfl hmode
  | inline => exact hfence (c := '$') rfl rfl (by decide)
  | display => exact hfence (c := '$') rfl rfl (by decide)

/-- With delimiters, no part of a document ends with a control word. -/
theorem clean_part {mode : Mode} (hmode : mode ≠ .plain) {n : Node} (hn : n.Proper) {s : String}
    (h : n.latex mode = .ok s) (hfree : BackslashFree n) :
    Clean (part mode n s).toList ∧ settled (part mode n s).toList = true := by
  obtain ⟨-, hs⟩ := hn.clean h hfree
  cases hverbatim : n.isVerbatim with
  | false =>
      rw [part, hverbatim]
      exact clean_wrap hmode hs
  | true =>
      rw [part, hverbatim]
      refine ⟨hs, ?_⟩
      cases hn with
      | leaf hleaf => cases hleaf <;> cases hverbatim
      | binary | unary | call | grouping => cases hverbatim
      | @text c =>
          cases h
          refine settled_of_not_mem fun hmem => ?_
          obtain rfl : '\\' = c := by simpa using hmem
          exact hfree _ .refl rfl
      | @inlineMath n hn =>
          obtain ⟨s, hlatex, rfl⟩ := inlineMath_latex_eq_ok_iff.mp h
          have hinner := hn.clean hlatex (hfree.of_mem_children List.mem_cons_self)
          have hinline : Mode.inline ≠ .plain := by decide
          exact (clean_wrap hinline hinner.2).2
      | @displayMath n hn =>
          obtain ⟨s, hlatex, rfl⟩ := displayMath_latex_eq_ok_iff.mp h
          have hinner := hn.clean hlatex (hfree.of_mem_children List.mem_cons_self)
          have hdisplay : Mode.display ≠ .plain := by decide
          exact (clean_wrap hdisplay hinner.2).2

/-- With delimiters, a document has control words of the tables only. -/
theorem clean_assemble {mode : Mode} (hmode : mode ≠ .plain) {ns : List Node}
    {parts : List String}
    (h : List.Forall₂ (fun n s => n.Proper ∧ n.latex mode = .ok s) ns parts)
    (hfree : ∀ n ∈ ns, BackslashFree n) : ∀ wrapped : Bool,
    Clean (assemble mode wrapped ((ns.map isVerbatim).zip parts)).toList := by
  induction h with
  | nil => exact fun _ => .of_not_mem (by simp [assemble])
  | @cons n s ns parts hs _ ih =>
      intro wrapped
      obtain ⟨hn, hrest⟩ := List.forall_mem_cons.mp hfree
      obtain ⟨hpart, hsettled⟩ := clean_part hmode hs.1 hs.2 hn
      have hgap : '\\' ∉ (gap mode wrapped n).toList := by
        unfold gap
        split <;> decide
      rw [List.map_cons, List.zip_cons_cons, assemble_cons, String.toList_append,
        String.toList_append]
      have hgapSettled := settled_of_not_mem hgap
      exact (((Clean.of_not_mem hgap).append hpart (.inl hgapSettled)).append (ih hrest _)
        (.inl (settled_append hgapSettled hsettled)))

end Node

namespace Typesetting

open Node

/-- The control words of what is typeset are those of the tables: always, if the expressions are
put between delimiters, and otherwise exactly if no expression that ends with a control word is
followed by one that begins with a letter. -/
theorem controlWords_in_tables_iff {options : Options} {source latex : String}
    (hfree : BackslashFree source) (h : Typesets options source latex) :
    (∀ w ∈ controlWords latex.toList, w ∈ tableWords) ↔
      (options.mode = .plain → (expressions source).IsChain (fuses · · = false)) := by
  obtain ⟨parts, hparts, rfl⟩ := exists_parts h
  by_cases hmode : options.mode = .plain
  · rw [hmode] at hparts ⊢
    have hclean : ∀ s ∈ (expressions source).map plainLatex, s ≠ [] ∧ Clean s := by
      intro s hs
      obtain ⟨n, hn, rfl⟩ := List.mem_map.mp hs
      obtain ⟨tex, -, hproper, htex⟩ := exists_of_mem_forall₂ hparts.flip hn
      rw [plainLatex_of_latex htex]
      exact hproper.clean htex (hfree.of_mem hn)
    rw [toList_assemble_plain (hparts.imp fun _ _ hn => hn.2), isChain_iff_controlWords hclean,
      List.isChain_map]
    exact ⟨fun hchain _ => hchain, fun hchain => hchain rfl⟩
  · have hclean := clean_assemble hmode hparts (fun n hn => hfree.of_mem hn) false
    exact iff_of_true hclean.words fun hplain => absurd hplain hmode

/-- Control words before a control word and before a bracket: nothing fuses. -/
theorem controlWords_in_tables_iff_ceil :
    BackslashFree "ceil(x) sqrt(PI)" ∧
      Typesets ⟨.plain, false⟩ "ceil(x) sqrt(PI)" "\\lceil x \\rceil\\sqrt\x7b\\pi\x7d" ∧
      ∀ w ∈ controlWords "\\lceil x \\rceil\\sqrt\x7b\\pi\x7d".toList, w ∈ tableWords := by
  have hfree : BackslashFree "ceil(x) sqrt(PI)" := by decide +kernel
  have h : Typesets ⟨.plain, false⟩ "ceil(x) sqrt(PI)"
      "\\lceil x \\rceil\\sqrt\x7b\\pi\x7d" := typesets_iff.mpr ⟨_, rfl, rfl⟩
  exact ⟨hfree, h, (controlWords_in_tables_iff hfree h).mpr fun _ => by decide +kernel⟩

/-- Without delimiters a constant runs into the letter behind it. -/
theorem controlWords_fused :
    BackslashFree "PI x" ∧ Typesets ⟨.plain, false⟩ "PI x" "\\pix" ∧
      ∃ w ∈ controlWords "\\pix".toList, w ∉ tableWords :=
  ⟨by decide +kernel, typesets_iff.mpr ⟨_, rfl, rfl⟩, ['p', 'i', 'x'], by decide,
    by decide +kernel⟩

end Typesetting

end PlainMath
