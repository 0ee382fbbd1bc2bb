/-
# `Proofs.Prose.Pattern` — fragments as matches of patterns

The five shapes of a fragment are written down as patterns, and the fragment at a place is the
first match of the first shape that has one.

    two runs with a sign between them                     (`prefers_joined`)
    of some words only the whole word that stands there
    can be followed by the end of a word                  (`head?_ends_oneOf_seq`)
    the length of a fragment is that of the match         (`matchEnd?_eq`)

The search in the shapes never has to go back: each class of characters and what may follow it are
disjoint.
-/
import PlainMath.Proofs.Text.Pattern
import PlainMath.Prose.Fragment

namespace PlainMath.Prose

open Text (Pattern charBefore? wordBefore wordBehind run run? any_run any_of_lt_run)
open Text.Pattern

/-! ## The five shapes -/

/-- Blanks, if there are any. -/
def blanks : Pattern := .many Text.isBlank

/-- Two runs of a class with a sign between them. -/
def joined (p : Char → Bool) (sign : Pattern) : Pattern :=
  .seq (.atLeastOne p) <| .seq blanks <| .seq sign <| .seq blanks <| .atLeastOne p

/-- Blanks, and then characters in parentheses up to the first closing one. -/
def arguments : Pattern :=
  .seq blanks <| .seq (.char '(') <| .seq (.many (· != ')')) <| .char ')'

/-- A call: one of some words with its arguments. -/
def call (words : List String) : Pattern := .seq .edge <| .seq (.oneOf words) arguments

/-- One of some words, by itself. -/
def constant (words : List String) : Pattern := .seq .edge <| .seq (.oneOf words) .edge

/-- The longer words first, and those of one length in the order of their characters. -/
def longestFirst (words : List String) : List String :=
  words.mergeSort fun v w =>
    w.length < v.length ||
      (v.length == w.length && !w.toList.lex v.toList fun c d => decide (c.toNat < d.toNat))

/-- The shapes of a fragment. -/
def shapes : List Pattern :=
  [call (longestFirst functionWords), constant (longestFirst constantWords),
    joined Text.isDecimalDigit (.one ['+', '-', '*', '/', '^'].contains),
    joined Text.isWordChar (.seq (.char '\\') (.char '\\')),
    joined Text.isWordChar (.char '^')]

/-- Some shape matches at a place. -/
def Admits (cs : List Char) (i : Nat) : Prop := ∃ shape ∈ shapes, shape.ends cs i ≠ []

/-- Where the match ends that begins at a place: the preferred one of the first shape that has
any. -/
def matchEnd? (cs : List Char) (i : Nat) : Option Nat :=
  shapes.findSome? fun shape => (shape.ends cs i).head?

theorem admits_iff {cs : List Char} {i : Nat} : Admits cs i ↔ ∃ j, matchEnd? cs i = some j := by
  rw [← Option.isSome_iff_exists, matchEnd?, List.findSome?_isSome_iff, Admits]
  simp only [List.isSome_head?]

variable {cs : List Char} {p : Char → Bool} {i j : Nat} {b : Pattern}

/-! ## Two runs with a sign between them -/

theorem prefers_joined {sign : Pattern} {length? : List Char → Option Nat}
    (hblank : ∀ c, p c = true → Text.isBlank c = false) (hp : sign.Refuses p)
    (hsign : sign.Refuses Text.isBlank) (hsole : sign.Sole) (hprefers : sign.Prefers length?) :
    (joined p sign).Prefers (joinedLength? p length?) := by
  have hblank' : ∀ c, Text.isBlank c = true → p c = false := by
    intro c hc
    cases hpc : p c with
    | false => rfl
    | true => rw [hblank c hpc] at hc; cases hc
  have hspaces := prefers_many Text.isBlank
  have hsecond := hspaces.seq (prefers_atLeastOne p) (refuses_atLeastOne hblank').commits_many
  have hjoin := hspaces.seq (hprefers.seq hsecond (hsole.commits _)) (hsign.seq _).commits_many
  refine ((prefers_atLeastOne p).seq hjoin
    ((hp.seq _).many_seq hblank).commits_atLeastOne).congr fun ds => ?_
  simp only [andThen, joinedLength?, List.drop_drop, Option.bind_some, Option.bind_eq_bind,
    Option.pure_def, Option.map_eq_bind, Function.comp_def, Option.bind_assoc, Nat.add_assoc]

theorem prefers_arithmeticSign :
    (Pattern.one ['+', '-', '*', '/', '^'].contains).Prefers arithmeticSign := by
  refine (prefers_one _).congr fun ds => ?_
  cases ds <;> rfl

theorem prefers_fractionSign :
    (Pattern.seq (.char '\\') (.char '\\')).Prefers fractionSign := by
  refine ((prefers_char '\\').seq (prefers_char '\\') ((sole_char '\\').commits _)).congr
    fun ds => ?_
  rcases ds with _ | ⟨c, _ | ⟨d, rest⟩⟩
  · rfl
  · simp [andThen, fractionSign]
  · by_cases hc : c = '\\'
    · by_cases hd : d = '\\'
      · subst hc hd
        rfl
      · simp [andThen, hc, hd, fractionSign]
    · simp [andThen, hc, fractionSign]

theorem prefers_powerSign : (Pattern.char '^').Prefers powerSign := by
  refine (prefers_char '^').congr fun ds => ?_
  rcases ds with _ | ⟨c, rest⟩
  · rfl
  · by_cases hc : c = '^'
    · subst hc
      rfl
    · simp [hc, powerSign]

/-! ## Words -/

/-- Nothing but characters of words, and at least one of them. -/
def IsWord (w : String) : Prop := w ≠ "" ∧ ∀ c ∈ w.toList, Text.isWordChar c = true

/-- The word that stands at a place. -/
def wordAt (cs : List Char) (i : Nat) : List Char := (cs.drop i).takeWhile Text.isWordChar

theorem wordBehind_of_lt {k : Nat} (h : k < (wordAt cs i).length) :
    wordBehind cs (i + k) = true := by
  have hany := any_of_lt_run (p := Text.isWordChar) h
  rwa [List.getElem?_drop] at hany

theorem wordBefore_of_le {k : Nat} (hpos : k ≠ 0) (h : k ≤ (wordAt cs i).length) :
    wordBefore cs (i + k) = true := by
  obtain ⟨k, rfl⟩ := Nat.exists_eq_succ_of_ne_zero hpos
  exact wordBehind_of_lt h

theorem wordBehind_wordAt (cs : List Char) (i : Nat) :
    wordBehind cs (i + (wordAt cs i).length) = false := by
  have hany := any_run Text.isWordChar (cs.drop i)
  rwa [List.getElem?_drop] at hany

theorem ends_oneOf_cons_seq (w : String) (words : List String) (b : Pattern) (i : Nat) :
    (Pattern.seq (.oneOf (w :: words)) b).ends cs i =
      (if w.toList.isPrefixOf (cs.drop i) then b.ends cs (i + w.toList.length) else []) ++
        (Pattern.seq (.oneOf words) b).ends cs i := by
  simp only [ends, List.filter_cons]
  split <;> simp

/-- Of some words only the one that stands there as a whole can be followed by something that
does not match in the middle of a word. -/
theorem head?_ends_oneOf_seq {words : List String} (hwords : ∀ w ∈ words, IsWord w)
    (hb : ∀ j, wordBefore cs j = true → wordBehind cs j = true → b.ends cs j = []) (i : Nat) :
    ((Pattern.seq (.oneOf words) b).ends cs i).head? =
      if String.ofList (wordAt cs i) ∈ words then
        (b.ends cs (i + (wordAt cs i).length)).head?
      else none := by
  have hpart : ∀ w : String, IsWord w → w.toList <+: cs.drop i → w.toList ≠ wordAt cs i →
      b.ends cs (i + w.toList.length) = [] := by
    intro w hw hfront hne
    have hwordAt : w.toList <+: wordAt cs i := by
      obtain ⟨rest, hrest⟩ := hfront
      rw [wordAt, ← hrest, List.takeWhile_append_of_pos hw.2]
      exact List.prefix_append _ _
    have hlength : w.toList.length ≠ 0 := by simpa using hw.1
    have hlt : w.toList.length < (wordAt cs i).length :=
      lt_of_le_of_ne hwordAt.length_le fun heq => hne (hwordAt.eq_of_length heq)
    exact hb _ (wordBefore_of_le hlength hlt.le) (wordBehind_of_lt hlt)
  induction words with
  | nil => rfl
  | cons w words ih =>
      rw [List.forall_mem_cons] at hwords
      rw [ends_oneOf_cons_seq, List.head?_append, ih hwords.2]
      by_cases hwhole : String.ofList (wordAt cs i) = w
      · subst hwhole
        have hfront : (String.ofList (wordAt cs i)).toList <+: cs.drop i := by
          rw [String.toList_ofList]
          exact List.takeWhile_prefix _
        rw [if_pos (List.isPrefixOf_iff_prefix.mpr hfront)]
        simp only [String.toList_ofList, List.mem_cons, true_or, if_true]
        split <;> simp
      · have hends : (if w.toList.isPrefixOf (cs.drop i) then b.ends cs (i + w.toList.length)
            else []) = [] := by
          split
          · next hfront =>
              refine hpart w hwords.1 (List.isPrefixOf_iff_prefix.mp hfront) fun h => hwhole ?_
              rw [← h, String.ofList_toList]
          · rfl
        rw [hends]
        simp [hwhole]

theorem ends_edge_seq (b : Pattern) (i : Nat) :
    (Pattern.seq .edge b).ends cs i =
      if wordBefore cs i != wordBehind cs i then b.ends cs i else [] := by
  rw [ends, ends]
  split <;> simp

theorem length_wordAt_ne_zero {words : List String} (hwords : ∀ w ∈ words, IsWord w)
    (hmem : String.ofList (wordAt cs i) ∈ words) : (wordAt cs i).length ≠ 0 := by
  intro hzero
  exact (hwords _ hmem).1 (by rw [List.eq_nil_of_length_eq_zero hzero])

/-- A pattern that begins with a word has to begin where a word begins. -/
theorem head?_ends_edge_oneOf_seq {words : List String} (hwords : ∀ w ∈ words, IsWord w)
    (hb : ∀ j, wordBefore cs j = true → wordBehind cs j = true → b.ends cs j = []) (i : Nat) :
    ((Pattern.seq .edge (.seq (.oneOf words) b)).ends cs i).head? =
      if wordBefore cs i = false ∧ String.ofList (wordAt cs i) ∈ words then
        (b.ends cs (i + (wordAt cs i).length)).head?
      else none := by
  rw [ends_edge_seq]
  by_cases hmem : String.ofList (wordAt cs i) ∈ words
  · have hbehind : wordBehind cs i = true :=
      wordBehind_of_lt (Nat.pos_of_ne_zero (length_wordAt_ne_zero hwords hmem))
    cases hbefore : wordBefore cs i with
    | true => simp [hbehind]
    | false => simp [hbehind, hmem, head?_ends_oneOf_seq hwords hb]
  · have hnone : ((Pattern.seq (.oneOf words) b).ends cs i).head? = none := by
      rw [head?_ends_oneOf_seq hwords hb, if_neg hmem]
    simp only [hmem, and_false, if_false]
    split
    · exact hnone
    · rfl

/-! ## Classes of characters -/

theorem contains_of_class {ds : List Char} (h : ds.any p = false) :
    ∀ c, p c = true → ds.contains c = false := by
  intro c hc
  cases hmem : ds.contains c with
  | false => rfl
  | true =>
      rw [List.any_eq_true.mpr ⟨c, List.contains_iff_mem.mp hmem, hc⟩] at h
      cases h

/-- The code points of the blanks. -/
def blankPoints : List Nat :=
  [9, 10, 11, 12, 13, 28, 29, 30, 31, 32, 0x85, 0xA0, 0x1680, 0x2000, 0x2001, 0x2002, 0x2003,
    0x2004, 0x2005, 0x2006, 0x2007, 0x2008, 0x2009, 0x200A, 0x2028, 0x2029, 0x202F, 0x205F, 0x3000]

theorem toNat_mem_blankPoints {c : Char} (h : Text.isBlank c = true) :
    c.toNat ∈ blankPoints := by
  simp only [Text.isBlank, Bool.or_eq_true, Bool.and_eq_true, decide_eq_true_eq,
    beq_iff_eq] at h
  simp only [blankPoints, List.mem_cons, List.not_mem_nil, or_false]
  omega

theorem blankPoints_outside :
    blankPoints.any (fun n =>
      Text.isWordChar (Char.ofNat n) || Text.isDecimalDigit (Char.ofNat n)) = false := by
  decide +kernel

theorem not_blank_of_inner {c : Char}
    (h : Text.isWordChar c = true ∨ Text.isDecimalDigit c = true) : Text.isBlank c = false := by
  cases hblank : Text.isBlank c with
  | false => rfl
  | true =>
      have hinner := List.any_eq_false.mp blankPoints_outside _ (toNat_mem_blankPoints hblank)
      rw [Char.ofNat_toNat, Bool.or_eq_true] at hinner
      exact absurd h hinner

/-! ## Calls and constants -/

theorem isWord_longestFirst {words : List String}
    (h : words.all (fun w => w != "" && w.toList.all Text.isWordChar) = true) :
    ∀ w ∈ longestFirst words, IsWord w := by
  intro w hw
  have hall := List.all_eq_true.mp h w (List.mem_mergeSort.mp hw)
  rwa [Bool.and_eq_true, bne_iff_ne, List.all_eq_true] at hall

theorem isWord_functionWords : ∀ w ∈ longestFirst functionWords, IsWord w :=
  isWord_longestFirst (by decide)

theorem isWord_constantWords : ∀ w ∈ longestFirst constantWords, IsWord w :=
  isWord_longestFirst (by decide)

theorem constantLength?_drop (cs : List Char) (i : Nat) :
    constantLength? (cs.drop i) =
      if constantWords.contains (String.ofList (wordAt cs i)) then some (wordAt cs i).length
      else none := rfl

theorem head?_ends_constant (cs : List Char) (i : Nat) :
    ((constant (longestFirst constantWords)).ends cs i).head? =
      (if !wordBefore cs i then constantLength? (cs.drop i) else none).map (i + ·) := by
  have hedge : ∀ j, wordBefore cs j = true → wordBehind cs j = true → edge.ends cs j = [] := by
    intro j hbefore hbehind
    simp [ends, hbefore, hbehind]
  rw [constant, head?_ends_edge_oneOf_seq isWord_constantWords hedge, constantLength?_drop]
  cases wordBefore cs i with
  | true => rfl
  | false =>
      by_cases hmem : String.ofList (wordAt cs i) ∈ longestFirst constantWords
      · have hpos := length_wordAt_ne_zero isWord_constantWords hmem
        have hend : edge.ends cs (i + (wordAt cs i).length) = [i + (wordAt cs i).length] := by
          rw [ends, wordBefore_of_le hpos le_rfl, wordBehind_wordAt]
          rfl
        have hcontains := List.contains_iff_mem.mpr (List.mem_mergeSort.mp hmem)
        simp only [hmem, hcontains, hend, and_true, if_true, List.head?_cons]
        rfl
      · have hmem' : String.ofList (wordAt cs i) ∉ constantWords := fun h =>
          hmem (List.mem_mergeSort.mpr h)
        simp [hmem, hmem']

/-- The length of what follows the word of a call, blanks and characters in parentheses. -/
def argumentsLength? (ds : List Char) : Option Nat :=
  match ds.drop (run Text.isBlank ds) with
  | '(' :: rest =>
    if run (· != ')') rest < rest.length then
      some (run Text.isBlank ds + run (· != ')') rest + 2)
    else none
  | _ => none

theorem callLength?_drop (cs : List Char) (i : Nat) :
    callLength? (cs.drop i) =
      if functionWords.contains (String.ofList (wordAt cs i)) then
        (argumentsLength? (cs.drop (i + (wordAt cs i).length))).map ((wordAt cs i).length + ·)
      else none := by
  rw [callLength?, argumentsLength?, ← wordAt]
  simp only [List.drop_drop, Nat.add_assoc]
  generalize run Text.isBlank (cs.drop (i + (wordAt cs i).length)) = width
  split
  · rcases cs.drop (i + ((wordAt cs i).length + width)) with _ | ⟨c, rest⟩
    · rfl
    · by_cases hc : c = '('
      · subst hc
        simp only
        split <;> rfl
      · simp [hc]
  · rfl

theorem getElem?_run_bne {d : Char} {ds : List Char} :
    ds[run (· != d) ds]? = some d ↔ run (· != d) ds < ds.length := by
  have hstop := any_run (· != d) ds
  by_cases hlt : run (· != d) ds < ds.length
  · rw [List.getElem?_eq_getElem hlt] at hstop ⊢
    simpa [hlt] using hstop
  · simp [hlt]

theorem prefers_arguments : arguments.Prefers argumentsLength? := by
  have hclose : (Pattern.char ')').Refuses (· != ')') := refuses_char (by decide)
  have hopen : (Pattern.char '(').Refuses Text.isBlank := refuses_char (by decide)
  have hinner := (prefers_many (· != ')')).seq (prefers_char ')') hclose.commits_many
  have hparens := (prefers_char '(').seq hinner ((sole_char '(').commits _)
  refine ((prefers_many Text.isBlank).seq hparens (hopen.seq _).commits_many).congr fun ds => ?_
  simp only [andThen, argumentsLength?, Option.bind_some]
  rcases ds.drop (run Text.isBlank ds) with _ | ⟨c, rest⟩
  · rfl
  · by_cases hc : c = '('
    · subst hc
      simp only [List.head?_cons, if_true, Option.bind_some, List.drop_one, List.tail_cons,
        List.head?_drop, getElem?_run_bne]
      split
      · simp only [Option.map_some, Option.some.injEq]
        omega
      · rfl
    · simp [hc]

theorem head?_ends_call (cs : List Char) (i : Nat) :
    ((call (longestFirst functionWords)).ends cs i).head? =
      (if !wordBefore cs i then callLength? (cs.drop i) else none).map (i + ·) := by
  have hopen : (Pattern.char '(').Refuses Text.isWordChar := refuses_char (by decide)
  have hword : arguments.Refuses Text.isWordChar :=
    (hopen.seq _).many_seq fun c hc => not_blank_of_inner (.inl hc)
  rw [call, head?_ends_edge_oneOf_seq isWord_functionWords fun j _ hj => hword cs j hj,
    callLength?_drop]
  cases wordBefore cs i with
  | true => rfl
  | false =>
      by_cases hmem : String.ofList (wordAt cs i) ∈ longestFirst functionWords
      · have hcontains := List.contains_iff_mem.mpr (List.mem_mergeSort.mp hmem)
        simp only [hmem, hcontains, and_true, if_true, prefers_arguments cs]
        cases argumentsLength? (cs.drop (i + (wordAt cs i).length)) with
        | none => rfl
        | some length => simp [Nat.add_assoc]
      · have hmem' : functionWords.contains (String.ofList (wordAt cs i)) = false := by
          simpa using fun h => hmem (List.mem_mergeSort.mpr h)
        simp only [hmem, hmem', and_false, if_false]
        rfl

/-! ## Fragments -/

/-- The length of a fragment is that of the match. -/
theorem matchEnd?_eq (cs : List Char) (i : Nat) :
    matchEnd? cs i = (fragmentLength? (charBefore? cs i) (cs.drop i)).map (i + ·) := by
  have harithmetic := prefers_joined (fun c hc => not_blank_of_inner (.inr hc))
    (refuses_one (contains_of_class (by decide))) (refuses_one (contains_of_class (by decide)))
    (sole_one _) prefers_arithmeticSign cs i
  have hfraction := prefers_joined (fun c hc => not_blank_of_inner (.inl hc))
    ((refuses_char (by decide)).seq _) ((refuses_char (by decide)).seq _)
    ((sole_char _).seq (sole_char _)) prefers_fractionSign cs i
  have hpower := prefers_joined (fun c hc => not_blank_of_inner (.inl hc))
    (refuses_char (by decide)) (refuses_char (by decide)) (sole_char _) prefers_powerSign cs i
  rw [matchEnd?, ← List.head?_flatMap, fragmentLength?]
  simp only [shapes, List.flatMap_cons, List.flatMap_nil, List.append_nil, List.head?_append,
    head?_ends_call, head?_ends_constant, harithmetic, hfraction, hpower, ← Option.map_or,
    Option.orElse_eq_orElse, Option.orElse_eq_or]
  rfl

theorem nil_mem_mul {A B : Language Char} : [] ∈ A * B ↔ [] ∈ A ∧ [] ∈ B := by
  simp [Language.mem_mul]

/-- A fragment has at least one character. -/
theorem nil_notMem_shapes : ∀ shape ∈ shapes, [] ∉ shape.language := by
  have hjoined : ∀ p sign, [] ∉ (joined p sign).language := by
    intro p sign hnil
    obtain ⟨c, -, hempty⟩ := (nil_mem_mul.mp (nil_mem_mul.mp hnil).1).1
    cases hempty
  have honeOf : ∀ {words : List String}, (∀ w ∈ words, IsWord w) → ∀ b,
      [] ∉ (Pattern.seq .edge (.seq (.oneOf words) b)).language := by
    intro words hwords b hnil
    exact (hwords _ (nil_mem_mul.mp (nil_mem_mul.mp hnil).2).1).1 rfl
  simp only [shapes, List.forall_mem_cons]
  exact ⟨honeOf isWord_functionWords _, honeOf isWord_constantWords _, hjoined _ _, hjoined _ _,
    hjoined _ _, fun _ h => absurd h List.not_mem_nil⟩

theorem matchEnd?_bounds (h : matchEnd? cs i = some j) : i < j ∧ j ≤ cs.length := by
  obtain ⟨shape, hshape, hhead⟩ := List.exists_of_findSome?_eq_some h
  exact bounds_of_mem_ends (nil_notMem_shapes shape hshape) (List.mem_of_mem_head? hhead)

end PlainMath.Prose
