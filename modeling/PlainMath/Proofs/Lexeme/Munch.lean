/-
# `Proofs.Lexeme.Munch` — the first match is the longest

A source is cut at the preferred match of the first pattern that has any (`alternation_cons`).  That
this is the longest match of all patterns is a matter of how the ten of them overlap:

    no word of a pattern goes on further than its first match     (`length_le_extent`)
    patterns with words of more than one character do not begin
    as an earlier pattern does                                    (`opens_eq_false_of_lt`)

For numerals the first line needs an argument.  A part that is optional begins with a character that
cannot stand in the parts before it, so that a word which stops earlier in one part has nothing of
the next (`length_le_of_mem_mul`).
-/
import PlainMath.Proofs.Lexeme.Pattern
import PlainMath.Proofs.Spelling

namespace PlainMath.Lexeme

open Decimal (IsDigits SpellsFraction SpellsExponent Spells)
open Text (Pattern run run_cons length_le_run mem_letters mem_kstar_letters)
open Text.Pattern

/-! ## Longest words -/

/-- The longest word of the language with which the characters begin. -/
structure Longest (L : Language Char) (cs w : List Char) : Prop where
  mem : w ∈ L
  front : w <+: cs
  length_le : ∀ v ∈ L, v <+: cs → v.length ≤ w.length

/-- The first match is the longest one, if no word goes on further. -/
theorem longest_of_prefers {a : Pattern} {length? : List Char → Option Nat} {cs : List Char}
    {n : Nat} (hprefers : a.Prefers length?) (hlength : length? cs = some n)
    (hbound : ∀ v ∈ a.language, v <+: cs → v.length ≤ n) : Longest a.language cs (cs.take n) := by
  have hhead := hprefers cs 0
  rw [List.drop_zero, hlength, Option.map_some, Nat.zero_add] at hhead
  obtain ⟨w, hw, hfront, hn⟩ := exists_word_of_mem_ends (List.mem_of_head? hhead)
  rw [List.drop_zero] at hfront
  rw [Nat.zero_add] at hn
  obtain rfl : w = cs.take n := hn ▸ List.prefix_iff_eq_take.mp hfront
  refine ⟨hw, hfront, fun v hv hfront => ?_⟩
  rw [← hn]
  exact hbound v hv hfront

/-- Words of two parts, if the second part begins with no character that the first one has. -/
theorem length_le_of_mem_mul {A B : Language Char} {p : Char → Bool} {cs : List Char} {m n : Nat}
    (hA : ∀ w ∈ A, ∀ c ∈ w, p c = true) (hB : ∀ w ∈ B, ∀ c ∈ w.head?, p c = false)
    (hfirst : Longest A cs (cs.take m)) (hsecond : ∀ v ∈ B, v <+: cs.drop m → v.length ≤ n)
    {w : List Char} (hw : w ∈ A * B) (hfront : w <+: cs) : w.length ≤ m + n := by
  obtain ⟨a, ha, b, hb, rfl⟩ := Language.mem_mul.mp hw
  have hfront' : a <+: cs := (List.prefix_append a b).trans hfront
  have hle := hfirst.length_le a ha hfront'
  obtain ⟨d, hd⟩ : a <+: cs.take m := List.prefix_of_prefix_length_le hfront' hfirst.front hle
  have hlength : a.length + d.length ≤ m := by
    rw [← List.length_append, hd, List.length_take]
    exact Nat.min_le_left m cs.length
  rw [← List.take_append_drop m cs, ← hd, List.append_assoc,
    List.prefix_append_right_inj] at hfront
  rw [List.length_append]
  cases d with
  | nil =>
      have := hsecond b hb hfront
      rw [List.length_nil] at hlength
      omega
  | cons y d =>
      cases b with
      | nil =>
          rw [List.length_nil]
          omega
      | cons z b =>
          obtain ⟨rfl, -⟩ := List.cons_prefix_cons.mp hfront
          have hinside := hA _ hfirst.mem z (by simp [← hd])
          have houtside := hB _ hb z rfl
          rw [hinside] at houtside
          cases houtside

/-! ## The words of patterns -/

section Words
variable {p : Char → Bool} {b : Pattern} {w : List Char}

theorem mem_one_seq :
    w ∈ (Pattern.seq (.one p) b).language ↔ ∃ c v, p c = true ∧ v ∈ b.language ∧ w = c :: v := by
  simp only [language, Language.mem_mul, mem_letters]
  constructor
  · rintro ⟨_, ⟨c, hc, rfl⟩, v, hv, rfl⟩
    exact ⟨c, v, hc, hv, rfl⟩
  · rintro ⟨c, v, hc, hv, rfl⟩
    exact ⟨[c], ⟨c, hc, rfl⟩, v, hv, rfl⟩

theorem mem_maybe : w ∈ (Pattern.maybe b).language ↔ w = [] ∨ w ∈ b.language := by
  rw [language, Language.mem_add, Language.mem_one, or_comm]

theorem mem_digits : w ∈ digits.language ↔ IsDigits w := by
  rw [digits, atLeastOne, mem_one_seq, IsDigits]
  constructor
  · rintro ⟨c, v, hc, hv, rfl⟩
    exact ⟨List.cons_ne_nil c v, List.forall_mem_cons.mpr ⟨hc, mem_kstar_letters.mp hv⟩⟩
  · rintro ⟨hne, hw⟩
    obtain ⟨c, v, rfl⟩ := List.exists_cons_of_ne_nil hne
    rw [List.forall_mem_cons] at hw
    exact ⟨c, v, hw.1, mem_kstar_letters.mpr hw.2, rfl⟩

theorem mem_fractionPart :
    w ∈ (Pattern.maybe fractionPart).language ↔ ∃ ds, SpellsFraction w ds := by
  rw [mem_maybe, fractionPart, char, mem_one_seq]
  simp only [mem_digits, beq_iff_eq]
  constructor
  · rintro (rfl | ⟨_, ds, rfl, hds, rfl⟩)
    · exact ⟨[], .absent⟩
    · exact ⟨ds, .point hds⟩
  · rintro ⟨ds, h⟩
    cases h with
    | absent => exact .inl rfl
    | point hds => exact .inr ⟨_, _, rfl, hds, rfl⟩

/-- A sign, or nothing. -/
def IsSign (w : List Char) : Prop := w = [] ∨ w = ['+'] ∨ w = ['-']

theorem mem_sign : w ∈ (Pattern.maybe (.one ['+', '-'].contains)).language ↔ IsSign w := by
  have hone : w ∈ (Pattern.one ['+', '-'].contains).language ↔ w = ['+'] ∨ w = ['-'] := by
    rw [language, mem_letters]
    simp only [contains_pair, Bool.or_eq_true, beq_iff_eq]
    constructor
    · rintro ⟨_, rfl | rfl, rfl⟩
      · exact .inl rfl
      · exact .inr rfl
    · rintro (rfl | rfl)
      · exact ⟨'+', .inl rfl, rfl⟩
      · exact ⟨'-', .inr rfl, rfl⟩
  rw [mem_maybe, hone, IsSign]

theorem mem_exponentPart : w ∈ (Pattern.maybe exponentPart).language ↔ ∃ e, SpellsExponent w e := by
  have hsigned : ∀ {v : List Char}, v ∈ signedDigits.language ↔
      ∃ sign, IsSign sign ∧ ∃ ds, IsDigits ds ∧ sign ++ ds = v := by
    intro v
    rw [signedDigits, language, Language.mem_mul]
    simp only [mem_sign, mem_digits]
  rw [mem_maybe, exponentPart, mem_one_seq]
  simp only [hsigned, contains_pair, Bool.or_eq_true, beq_iff_eq]
  constructor
  · rintro (rfl | ⟨mark, _, hmark, ⟨_, rfl | rfl | rfl, ds, hds, rfl⟩, rfl⟩)
    · exact ⟨_, .absent⟩
    · exact ⟨_, .unsigned hmark hds⟩
    · exact ⟨_, .plus hmark hds⟩
    · exact ⟨_, .minus hmark hds⟩
  · rintro ⟨e, h⟩
    cases h with
    | absent => exact .inl rfl
    | unsigned hmark hds => exact .inr ⟨_, _, hmark, ⟨[], .inl rfl, _, hds, rfl⟩, rfl⟩
    | plus hmark hds => exact .inr ⟨_, _, hmark, ⟨['+'], .inr (.inl rfl), _, hds, rfl⟩, rfl⟩
    | minus hmark hds => exact .inr ⟨_, _, hmark, ⟨['-'], .inr (.inr rfl), _, hds, rfl⟩, rfl⟩

/-- The words of the pattern for numbers are the numerals. -/
theorem mem_number : w ∈ Form.number.pattern.language ↔ ∃ d, Spells w d := by
  rw [Form.pattern, language, Language.mem_mul]
  constructor
  · rintro ⟨_, hmantissa, x, hx, rfl⟩
    obtain ⟨whole, hwhole, f, hf, rfl⟩ := Language.mem_mul.mp hmantissa
    obtain ⟨ds, hf⟩ := mem_fractionPart.mp hf
    obtain ⟨e, hx⟩ := mem_exponentPart.mp hx
    rw [List.append_assoc]
    exact ⟨_, .numeral (mem_digits.mp hwhole) hf hx⟩
  · rintro ⟨d, h⟩
    obtain @⟨whole, f, ds, x, e, hwhole, hf, hx⟩ := h
    have hmantissa : whole ++ f ∈ mantissa.language :=
      Language.append_mem_mul (mem_digits.mpr hwhole) (mem_fractionPart.mpr ⟨ds, hf⟩)
    exact ⟨_, hmantissa, x, mem_exponentPart.mpr ⟨e, hx⟩, List.append_assoc whole f x⟩

end Words

/-! ## How far words go -/

section Reach
variable {v cs : List Char}

theorem run_ne_zero (h : IsDigits v) (hfront : v <+: cs) : run Char.isDigit cs ≠ 0 := by
  have hpos := List.length_pos_iff.mpr h.1
  have hle := length_le_run h.2 hfront
  omega

theorem length_le_fractionReach {ds : List Char} (h : SpellsFraction v ds) (hfront : v <+: cs) :
    v.length ≤ fractionReach cs := by
  cases h with
  | absent => exact Nat.zero_le _
  | point hds =>
      obtain ⟨rest, rfl⟩ := hfront
      have hfront : ds <+: ds ++ rest := List.prefix_append ds rest
      rw [List.cons_append, fractionReach, if_neg (run_ne_zero hds hfront)]
      exact Nat.succ_le_succ (length_le_run hds.2 hfront)

theorem length_le_signedDigits {sign ds : List Char} (hsign : IsSign sign) (hds : IsDigits ds)
    (rest : List Char) : (sign ++ ds).length ≤ exponentDigitsReach (sign ++ ds ++ rest) := by
  have hfront : ds <+: ds ++ rest := List.prefix_append ds rest
  have hrun := run_ne_zero hds hfront
  have hle := length_le_run hds.2 hfront
  have hsigned : ∀ s, (s == '+' || s == '-') = true →
      ds.length + 1 ≤ exponentDigitsReach (s :: (ds ++ rest)) := by
    intro s hs
    rw [exponentDigitsReach, if_pos hs, if_neg hrun]
    exact Nat.succ_le_succ hle
  rcases hsign with rfl | rfl | rfl
  · obtain ⟨d, ds, rfl, hd⟩ := hds.first
    have hnosign : ¬ (d == '+' || d == '-') = true := by
      intro hs
      rw [Bool.or_eq_true, beq_iff_eq, beq_iff_eq] at hs
      rcases hs with rfl | rfl <;> cases hd
    rw [List.nil_append, List.cons_append, exponentDigitsReach, if_neg hnosign]
    exact hle
  · exact hsigned '+' rfl
  · exact hsigned '-' rfl

theorem length_le_exponentReach {e : Int} (h : SpellsExponent v e) (hfront : v <+: cs) :
    v.length ≤ exponentReach cs := by
  have hmarked : ∀ (sign : List Char) {mark : Char} {ds : List Char}, IsSign sign →
      mark = 'e' ∨ mark = 'E' → IsDigits ds → mark :: (sign ++ ds) <+: cs →
        (sign ++ ds).length + 1 ≤ exponentReach cs := by
    intro sign mark ds hsign hmark hds hfront
    obtain ⟨rest, rfl⟩ := hfront
    have hle := length_le_signedDigits hsign hds rest
    have hne : exponentDigitsReach (sign ++ ds ++ rest) ≠ 0 := by
      have hpos := List.length_pos_iff.mpr hds.1
      rw [List.length_append] at hle
      omega
    have hbeq : (mark == 'e' || mark == 'E') = true := by simpa using hmark
    rw [List.cons_append, exponentReach, if_pos hbeq, if_neg hne]
    exact Nat.succ_le_succ hle
  cases h with
  | absent => exact Nat.zero_le _
  | unsigned hmark hds => exact hmarked [] (.inl rfl) hmark hds hfront
  | plus hmark hds => exact hmarked ['+'] (.inr (.inl rfl)) hmark hds hfront
  | minus hmark hds => exact hmarked ['-'] (.inr (.inr rfl)) hmark hds hfront

/-- The characters that stand before an exponent. -/
def isMantissaChar (c : Char) : Bool := c.isDigit || c == '.'

theorem longest_digits {c : Char} (hc : c.isDigit = true) (cs : List Char) :
    Longest digits.language (c :: cs) ((c :: cs).take (run Char.isDigit cs + 1)) := by
  have hrun : run Char.isDigit (c :: cs) = run Char.isDigit cs + 1 := by
    rw [run_cons, hc, if_pos rfl]
  refine longest_of_prefers prefers_digits (by rw [nonzero?, hrun]; rfl) fun v hv hfront => ?_
  rw [← hrun]
  exact length_le_run (mem_digits.mp hv).2 hfront

theorem longest_mantissa {c : Char} (hc : c.isDigit = true) (cs : List Char) :
    Longest mantissa.language (c :: cs) ((c :: cs).take
      (run Char.isDigit cs + fractionReach (cs.drop (run Char.isDigit cs)) + 1)) := by
  refine longest_of_prefers prefers_mantissa (length?_mantissa hc cs) fun v hv hfront => ?_
  have hpoint : ∀ w ∈ (Pattern.maybe fractionPart).language, ∀ d ∈ w.head?, d.isDigit = false := by
    intro w hw d hd
    obtain ⟨ds, hds⟩ := mem_fractionPart.mp hw
    cases hds with
    | absent => cases hd
    | point =>
        cases hd
        rfl
  have hfraction : ∀ {ds : List Char}, ∀ w ∈ (Pattern.maybe fractionPart).language,
      w <+: ds → w.length ≤ fractionReach ds := by
    intro ds w hw hfront
    obtain ⟨fs, hfs⟩ := mem_fractionPart.mp hw
    exact length_le_fractionReach hfs hfront
  have hle := length_le_of_mem_mul (fun w hw => (mem_digits.mp hw).2) hpoint
    (longest_digits hc cs) hfraction hv hfront
  rwa [List.drop_succ_cons, Nat.add_right_comm] at hle

/-- No numeral goes on further than the lexeme of the number. -/
theorem length_le_numberReach {c : Char} (hc : c.isDigit = true)
    (hv : v ∈ Form.number.pattern.language) (hfront : v <+: c :: cs) :
    v.length ≤ numberReach cs + 1 := by
  have hchars : ∀ w ∈ mantissa.language, ∀ d ∈ w, isMantissaChar d = true := by
    intro w hw d hd
    obtain ⟨whole, hwhole, f, hf, rfl⟩ := Language.mem_mul.mp hw
    obtain ⟨ds, hds⟩ := mem_fractionPart.mp hf
    have hdigit : ∀ {u : List Char}, IsDigits u → ∀ d ∈ u, isMantissaChar d = true := by
      intro u hu d hd
      rw [isMantissaChar, hu.2 d hd, Bool.true_or]
    rcases List.mem_append.mp hd with hd | hd
    · exact hdigit (mem_digits.mp hwhole) d hd
    · cases hds with
      | absent => cases hd
      | point hds =>
          rcases List.mem_cons.mp hd with rfl | hd
          · rfl
          · exact hdigit hds d hd
  have hmark : ∀ w ∈ (Pattern.maybe exponentPart).language, ∀ d ∈ w.head?,
      isMantissaChar d = false := by
    intro w hw d hd
    obtain ⟨e, he⟩ := mem_exponentPart.mp hw
    rcases he.cases with ⟨rfl, -⟩ | ⟨mark, r, rfl, hmark, -⟩
    · cases hd
    · cases hd
      rcases hmark with rfl | rfl <;> rfl
  have hexponent : ∀ {ds : List Char}, ∀ w ∈ (Pattern.maybe exponentPart).language,
      w <+: ds → w.length ≤ exponentReach ds := by
    intro ds w hw hfront
    obtain ⟨e, he⟩ := mem_exponentPart.mp hw
    exact length_le_exponentReach he hfront
  have hle := length_le_of_mem_mul hchars hmark (longest_mantissa hc cs) hexponent hv hfront
  rwa [List.drop_succ_cons, Nat.add_right_comm] at hle

end Reach

/-! ## The ten patterns -/

section Forms
variable {c : Char} {cs v : List Char} {form : Form}

/-- A word of a pattern stands only where the pattern can begin. -/
theorem opens_of_mem (hv : v ∈ form.pattern.language) (hfront : v <+: c :: cs) :
    form.opens c cs = true := by
  have hedge : form.pattern.edgeless = true := by cases form <;> rfl
  have hmem := mem_ends_of_word (i := 0) hedge hv hfront
  by_contra hopens
  have hhead := head?_ends c cs form
  rw [if_neg hopens, List.head?_eq_none_iff] at hhead
  rw [hhead] at hmem
  cases hmem

theorem length_le_of_one_many {p q : Char → Bool}
    (hv : v ∈ (Pattern.seq (.one p) (.many q)).language) (hfront : v <+: c :: cs) :
    v.length ≤ run q cs + 1 := by
  obtain ⟨d, w, -, hw, rfl⟩ := mem_one_seq.mp hv
  exact Nat.succ_le_succ
    (length_le_run (mem_kstar_letters.mp hw) (List.cons_prefix_cons.mp hfront).2)

theorem length_of_mem_one {p : Char → Bool} (hv : v ∈ (Pattern.one p).language) : v.length = 1 := by
  obtain ⟨d, -, rfl⟩ := mem_letters.mp hv
  rfl

/-- No word of a pattern goes on further than its first match. -/
theorem length_le_extent (hv : v ∈ form.pattern.language) (hfront : v <+: c :: cs) :
    v.length ≤ form.extent cs + 1 := by
  cases form with
  | comment =>
      rcases hv with hv | hv
      · obtain ⟨d, w, -, hw, rfl⟩ := mem_one_seq.mp hv
        obtain ⟨e, x, he, hx, rfl⟩ := mem_one_seq.mp hw
        refine Nat.succ_le_succ (length_le_run ?_ (List.cons_prefix_cons.mp hfront).2)
        rw [List.forall_mem_cons]
        obtain rfl := beq_iff_eq.mp he
        exact ⟨rfl, mem_kstar_letters.mp hx⟩
      · exact length_le_of_one_many hv hfront
  | newline | dollar | symbol | other => exact (length_of_mem_one hv).le
  | blanks =>
      rw [pattern_blanks] at hv
      exact length_le_of_one_many hv hfront
  | fraction | doubleDollar =>
      obtain ⟨d, w, -, hw, rfl⟩ := mem_one_seq.mp hv
      exact Nat.succ_le_succ (length_of_mem_one hw).le
  | number => exact length_le_numberReach (opens_of_mem hv hfront) hv hfront
  | word => exact length_le_of_one_many hv hfront

/-- The first lexeme is the longest match of its own pattern. -/
theorem longest_first (c : Char) (cs : List Char) :
    Longest (first c cs).form.pattern.language (c :: cs) (first c cs).chars := by
  have hlength : (reach c cs).1.length? (c :: cs) = some ((reach c cs).1.extent cs + 1) :=
    if_pos (opens_reach c cs)
  have hlongest := longest_of_prefers (prefers_pattern (reach c cs).1) hlength
    fun v hv hfront => length_le_extent hv hfront
  rwa [List.take_succ_cons, ← reach_snd] at hlongest

/-! ## Which patterns overlap -/

/-- The place of a form in the order in which they are tried. -/
def Form.place (form : Form) : Nat := Form.inOrder.idxOf form

theorem mem_inOrder (form : Form) : form ∈ Form.inOrder := by
  cases form <;> decide

theorem eq_of_place_eq {f g : Form} (h : f.place = g.place) : f = g :=
  (List.idxOf_inj (mem_inOrder f)).mp h

/-- The form of the first lexeme comes first of all that can begin there. -/
theorem place_le_of_opens (h : form.opens c cs = true) : (reach c cs).1.place ≤ form.place := by
  obtain ⟨hopens, before, after, horder, hbefore⟩ :=
    List.find?_eq_some_iff_append.mp (find?_opens c cs)
  have hnot : ∀ form : Form, form.opens c cs = true → form ∉ before := by
    intro form hform hmem
    simpa [hform] using hbefore form hmem
  have hfirst : (reach c cs).1.place = before.length := by
    rw [Form.place, horder, List.idxOf_append_of_notMem (hnot _ hopens), List.idxOf_cons_self,
      Nat.add_zero]
  rw [hfirst, Form.place, horder, List.idxOf_append_of_notMem (hnot form h)]
  exact Nat.le_add_right _ _

/-- Whether a lexeme of the form may have more than one character. -/
def Form.isLong : Form → Bool
  | .newline | .dollar | .symbol | .other => false
  | _ => true

theorem extent_eq_zero (h : form.isLong = false) (cs : List Char) : form.extent cs = 0 := by
  cases form with
  | newline | dollar | symbol | other => rfl
  | _ => cases h

/-- The characters with which the forms begin that are tried before numbers. -/
def Form.marks : Form → List Char
  | .comment => ['#', '/']
  | .newline => ['\n']
  | .blanks => [' ', '\t', '\r']
  | .fraction => ['\\']
  | .doubleDollar | .dollar => ['$']
  | .number | .word | .symbol | .other => []

/-- Whether a lexeme of the form may begin with the character, if the next one is left aside. -/
def Form.startsWith (c : Char) : Form → Bool
  | .comment => c == '#' || c == '/'
  | .newline => c == '\n'
  | .blanks => isGap c
  | .fraction => c == '\\'
  | .doubleDollar | .dollar => c == '$'
  | .number => c.isDigit
  | .word => isWordStart c
  | .symbol => (symbolKind? c).isSome
  | .other => true

theorem startsWith_of_opens (h : form.opens c cs = true) : form.startsWith c = true := by
  cases form with
  | comment =>
      simp only [Form.opens, Bool.or_eq_true, Bool.and_eq_true] at h
      rw [Form.startsWith, Bool.or_eq_true]
      exact h.imp_right And.left
  | fraction | doubleDollar => exact (Bool.and_eq_true_iff.mp h).1
  | _ => exact h

theorem mem_marks (h : form.startsWith c = true) (hplace : form.place < Form.number.place) :
    c ∈ form.marks := by
  cases form with
  | number | word | symbol | other => exact absurd hplace (by decide)
  | _ => simpa [Form.startsWith, Form.marks, isGap, or_assoc] using h

/-- A form of more than one character does not begin where an earlier form can. -/
theorem opens_eq_false_of_lt {f g : Form} (hlong : f.isLong = true) (hplace : g.place < f.place)
    (hf : f.opens c cs = true) : g.opens c cs = false := by
  have hmarks : ∀ f ∈ Form.inOrder, ∀ g ∈ Form.inOrder, f.isLong = true → g.place < f.place →
      g.marks.any f.startsWith = false := by decide
  have hbehind : ∀ f ∈ Form.inOrder, ∀ g ∈ Form.inOrder, f.isLong = true → g.place < f.place →
      Form.number.place ≤ g.place → f = .word ∧ g = .number := by decide
  by_contra hne
  have hg : g.opens c cs = true := eq_true_of_ne_false hne
  rcases Nat.lt_or_ge g.place Form.number.place with hlt | hge
  · have hnone := hmarks f (mem_inOrder f) g (mem_inOrder g) hlong hplace
    exact List.any_eq_false.mp hnone c (mem_marks (startsWith_of_opens hg) hlt)
      (startsWith_of_opens hf)
  · obtain ⟨rfl, rfl⟩ := hbehind f (mem_inOrder f) g (mem_inOrder g) hlong hplace hge
    have hword : isWordStart c = true := hf
    rw [Node.isWordStart_of_isDigit hg] at hword
    cases hword

end Forms

/-! ## Maximal munch -/

/-- The words of the ten patterns. -/
def allWords : Language Char := {w | ∃ form : Form, w ∈ form.pattern.language}

/-- The lexeme that maximal munch takes from the characters: the longest word of any pattern, and of
the patterns that have the word the earliest. -/
structure Munch (cs : List Char) (l : Lexeme) : Prop where
  longest : Longest allWords cs l.chars
  mem : l.chars ∈ l.form.pattern.language
  earliest : ∀ form : Form, l.chars ∈ form.pattern.language → l.form.place ≤ form.place

theorem munch_first (c : Char) (cs : List Char) : Munch (c :: cs) (first c cs) := by
  have hown := longest_first c cs
  refine ⟨⟨⟨_, hown.mem⟩, hown.front, ?_⟩, hown.mem, ?_⟩
  · rintro v ⟨form, hv⟩ hfront
    have hform := opens_of_mem hv hfront
    rcases Nat.eq_or_lt_of_le (place_le_of_opens hform) with heq | hlt
    · obtain rfl := eq_of_place_eq heq
      exact hown.length_le v hv hfront
    · -- a later form has one character here, and every lexeme has at least one
      have hlong : form.isLong = false := by
        by_contra hne
        have hfalse := opens_eq_false_of_lt (eq_true_of_ne_false hne) hlt hform
        rw [opens_reach] at hfalse
        cases hfalse
      have hle := length_le_extent hv hfront
      rw [extent_eq_zero hlong] at hle
      exact hle.trans (Nat.succ_le_succ (Nat.zero_le _))
  · intro form hform
    exact place_le_of_opens (opens_of_mem hform hown.front)

theorem Munch.unique {cs : List Char} {l l' : Lexeme} (h : Munch cs l) (h' : Munch cs l') :
    l = l' := by
  obtain ⟨form, chars⟩ := l
  obtain ⟨form', chars'⟩ := l'
  have hle := h.longest.length_le _ h'.longest.mem h'.longest.front
  have hle' := h'.longest.length_le _ h.longest.mem h.longest.front
  obtain rfl : chars = chars' :=
    (List.prefix_of_prefix_length_le h.longest.front h'.longest.front hle').eq_of_length_le hle
  obtain rfl : form = form' :=
    eq_of_place_eq (Nat.le_antisymm (h.earliest form' h'.mem) (h'.earliest form h.mem))
  rfl

theorem munch_iff {c : Char} {cs : List Char} {l : Lexeme} :
    Munch (c :: cs) l ↔ l = first c cs :=
  ⟨fun h => h.unique (munch_first c cs), fun h => h ▸ munch_first c cs⟩

/-- A lexeme of a source stands first in what is left of the source behind the lexemes before
it. -/
theorem exists_first_of_ofSource {before after : List Lexeme} {l : Lexeme} :
    ∀ {cs : List Char}, ofSource cs = before ++ l :: after →
      ∃ c rest, cs = before.flatMap chars ++ c :: rest ∧ l = first c rest ∧
        after = ofSource (behind c rest) := by
  induction before with
  | nil =>
      intro cs h
      cases cs with
      | nil => cases h
      | cons c cs =>
          rw [ofSource_cons] at h
          obtain ⟨hl, hafter⟩ := List.cons.inj h
          exact ⟨c, cs, rfl, hl.symm, hafter.symm⟩
  | cons b before ih =>
      intro cs h
      cases cs with
      | nil => cases h
      | cons c cs =>
          rw [ofSource_cons] at h
          obtain ⟨rfl, hrest⟩ := List.cons.inj h
          obtain ⟨d, rest, hbehind, hl, hafter⟩ := ih hrest
          refine ⟨d, rest, ?_, hl, hafter⟩
          rw [List.flatMap_cons, List.append_assoc, ← hbehind, first_append_behind]

/-! ## Points, signs and marks of exponents -/

/-- Whether the characters begin with a digit. -/
def startsWithDigit (cs : List Char) : Bool := cs.head?.any Char.isDigit

/-- The characters of a numeral that are no digits. -/
def isMark (c : Char) : Bool := ['.', 'e', 'E', '+', '-'].contains c

/-- Whether a digit follows behind the mark; an exponent may have a sign before it. -/
def goesOn (mark : Char) (cs : List Char) : Bool :=
  startsWithDigit cs ||
    ((mark == 'e' || mark == 'E') && cs.head?.any ['+', '-'].contains && startsWithDigit cs.tail)

/-- A digit follows behind each mark of the word. -/
def MarksGoOn (w : List Char) : Prop :=
  ∀ u mark rest, w = u ++ mark :: rest → isMark mark = true → goesOn mark rest = true

theorem goesOn_append {mark : Char} (x : List Char) : ∀ {rest : List Char},
    goesOn mark rest = true → goesOn mark (rest ++ x) = true
  | [], h => by simp [goesOn, startsWithDigit] at h
  | [c], h => by
      have hdigit : c.isDigit = true := by simpa [goesOn, startsWithDigit] using h
      simp [goesOn, startsWithDigit, hdigit]
  | _ :: _ :: _, h => h

theorem goesOn_of_isDigits {ds : List Char} (h : IsDigits ds) (mark : Char) :
    goesOn mark ds = true := by
  obtain ⟨d, rest, rfl, hd⟩ := h.first
  simp [goesOn, startsWithDigit, hd]

theorem MarksGoOn.append {v w : List Char} (hv : MarksGoOn v) (hw : MarksGoOn w) :
    MarksGoOn (v ++ w) := by
  intro u mark rest h hmark
  rcases List.append_eq_append_iff.mp h with ⟨u', rfl, hw'⟩ | ⟨v', rfl, hrest⟩
  · exact hw u' mark rest hw' hmark
  · cases v' with
    | nil => exact hw [] mark rest hrest.symm hmark
    | cons c v' =>
        obtain ⟨rfl, rfl⟩ := List.cons.inj hrest
        exact goesOn_append w (hv u mark v' rfl hmark)

theorem MarksGoOn.cons {mark : Char} {w : List Char} (hmark : goesOn mark w = true)
    (hw : MarksGoOn w) : MarksGoOn (mark :: w) := by
  intro u mark' rest h hmark'
  cases u with
  | nil =>
      obtain ⟨rfl, rfl⟩ := List.cons.inj h
      exact hmark
  | cons c u =>
      obtain ⟨-, htail⟩ := List.cons.inj h
      exact hw u mark' rest htail hmark'

theorem marksGoOn_of_isDigits {ds : List Char} (h : IsDigits ds) : MarksGoOn ds := by
  intro u mark rest hds hmark
  have hdigit : mark.isDigit = true := h.2 mark (by simp [hds])
  have hmarks : ['.', 'e', 'E', '+', '-'].any Char.isDigit = false := rfl
  exact absurd hdigit (List.any_eq_false.mp hmarks mark (List.contains_iff_mem.mp hmark))

/-- In a numeral a digit follows behind each mark. -/
theorem marksGoOn_of_spells {w : List Char} {d : Decimal} (h : Spells w d) : MarksGoOn w := by
  obtain @⟨whole, f, fs, x, e, hwhole, hf, hx⟩ := h
  have hfraction : MarksGoOn f := by
    cases hf with
    | absent => simp [MarksGoOn]
    | point hds => exact (marksGoOn_of_isDigits hds).cons (goesOn_of_isDigits hds '.')
  have hsigned : ∀ {mark : Char} (sign : Char) {ds : List Char}, mark = 'e' ∨ mark = 'E' →
      sign = '+' ∨ sign = '-' → IsDigits ds → MarksGoOn (mark :: sign :: ds) := by
    intro mark sign ds hmark hsign hds
    refine ((marksGoOn_of_isDigits hds).cons (goesOn_of_isDigits hds sign)).cons ?_
    obtain ⟨d, rest, rfl, hd⟩ := hds.first
    simp [goesOn, startsWithDigit, hmark, hsign, hd]
  have hexponent : MarksGoOn x := by
    cases hx with
    | absent => simp [MarksGoOn]
    | unsigned hmark hds => exact (marksGoOn_of_isDigits hds).cons (goesOn_of_isDigits hds _)
    | plus hmark hds => exact hsigned '+' hmark (.inl rfl) hds
    | minus hmark hds => exact hsigned '-' hmark (.inr rfl) hds
  exact (marksGoOn_of_isDigits hwhole).append (hfraction.append hexponent)

/-- Where a digit stands, a number is read. -/
theorem form_first_of_isDigit {c : Char} (hc : c.isDigit = true) (cs : List Char) :
    (first c cs).form = .number := by
  have hnumber : Form.number.opens c cs = true := hc
  have hopens := opens_reach c cs
  rcases Nat.eq_or_lt_of_le (place_le_of_opens hnumber) with heq | hlt
  · exact eq_of_place_eq heq
  · rw [opens_eq_false_of_lt rfl hlt hnumber] at hopens
    cases hopens

/-- A numeral ends before a mark behind which no digit follows. -/
theorem first_of_spells {c : Char} {cs v more : List Char} {d : Decimal} {mark : Char}
    (hv : Spells v d) (hsplit : c :: cs = v ++ mark :: more) (hmark : isMark mark = true)
    (hstop : goesOn mark more = false) :
    first c cs = ⟨.number, v⟩ ∧ behind c cs = mark :: more := by
  have hform : (first c cs).form = .number := by
    obtain ⟨d, rest, rfl, hd⟩ := hv.first
    obtain ⟨rfl, -⟩ := List.cons.inj hsplit
    exact form_first_of_isDigit hd cs
  have hlongest := longest_first c cs
  rw [hform] at hlongest
  obtain ⟨d', hspells⟩ := mem_number.mp hlongest.mem
  have hfront : v <+: c :: cs := ⟨_, hsplit.symm⟩
  obtain ⟨x, hx⟩ : v <+: (first c cs).chars :=
    List.prefix_of_prefix_length_le hfront hlongest.front
      (hlongest.length_le v (mem_number.mpr ⟨d, hv⟩) hfront)
  have hbehind := first_append_behind c cs
  rw [hsplit, ← hx, List.append_assoc, List.append_cancel_left_eq] at hbehind
  cases x with
  | nil =>
      rw [List.append_nil] at hx
      refine ⟨?_, hbehind⟩
      rw [hx, ← hform]
  | cons y x =>
      -- the mark would be in the numeral, with a digit behind it
      rw [List.cons_append] at hbehind
      obtain ⟨rfl, rfl⟩ := List.cons.inj hbehind
      have hgoesOn := goesOn_append (behind c cs)
        (marksGoOn_of_spells hspells v y x hx.symm hmark)
      rw [hstop] at hgoesOn
      cases hgoesOn

/-! ## The scan -/

/-- The lexemes of a source.  Each is the preferred match of the first pattern that has any where
the lexeme begins, and this is the lexeme that maximal munch takes: the longest match of any of the
ten patterns and, of those that have this match, the earliest.  A number is the longest numeral
there.  If a point, a sign or the mark of an exponent stands behind a numeral and no digit follows
it, then the number ends with the numeral and the next lexeme begins with the mark. -/
theorem alternation_munches_maximally (source : String) (before after : List Lexeme) (l : Lexeme)
    (h : ofSource source.toList = before ++ l :: after) :
    ∃ rest, source.toList = before.flatMap chars ++ (l.chars ++ rest) ∧ after = ofSource rest ∧
      alternation (l.chars ++ rest) = some (l.form, rest) ∧
      (∀ l', Munch (l.chars ++ rest) l' ↔ l' = l) ∧
      (l.form = .number → (∃ d, Spells l.chars d) ∧
        ∀ v d, Spells v d → v <+: l.chars ++ rest → v.length ≤ l.chars.length) ∧
      ∀ v d mark more, Spells v d → l.chars ++ rest = v ++ mark :: more → isMark mark = true →
        goesOn mark more = false → l = ⟨.number, v⟩ ∧
          ∃ next others, after = next :: others ∧ next.chars.head? = some mark := by
  obtain ⟨c, cs, hsource, rfl, rfl⟩ := exists_first_of_ofSource h
  refine ⟨behind c cs, ?_, rfl, ?_, ?_, ?_, ?_⟩
  · rw [first_append_behind, hsource]
  · rw [first_append_behind, alternation_cons]
  · intro l'
    rw [first_append_behind, munch_iff]
  · intro hform
    have hlongest := longest_first c cs
    rw [hform] at hlongest
    rw [first_append_behind]
    exact ⟨mem_number.mp hlongest.mem,
      fun v d hv hfront => hlongest.length_le v (mem_number.mpr ⟨d, hv⟩) hfront⟩
  · intro v d mark more hv hsplit hmark hstop
    rw [first_append_behind] at hsplit
    obtain ⟨hfirst, hbehind⟩ := first_of_spells hv hsplit hmark hstop
    refine ⟨hfirst, first mark more, ofSource (behind mark more), ?_, rfl⟩
    rw [hbehind, ofSource_cons]

/-- In `x2 3.4e+` the number is `3.4`, and the next lexeme begins with the mark. -/
theorem alternation_munches_maximally_bareExponent :
    ofSource "x2 3.4e+".toList =
      [⟨.word, ['x', '2']⟩, ⟨.blanks, [' ']⟩] ++ ⟨.number, ['3', '.', '4']⟩ ::
        [⟨.word, ['e']⟩, ⟨.symbol, ['+']⟩] ∧
    alternation ['3', '.', '4', 'e', '+'] = some (.number, ['e', '+']) ∧
    (∀ l, Munch ['3', '.', '4', 'e', '+'] l ↔ l = ⟨.number, ['3', '.', '4']⟩) ∧
    (∃ d, Spells ['3', '.', '4'] d) ∧ isMark 'e' = true ∧ goesOn 'e' ['+'] = false ∧
    ∃ (next : Lexeme) (others : List Lexeme),
      [⟨.word, ['e']⟩, ⟨.symbol, ['+']⟩] = next :: others ∧ next.chars.head? = some 'e' := by
  have hsource : ofSource "x2 3.4e+".toList =
      [⟨.word, ['x', '2']⟩, ⟨.blanks, [' ']⟩] ++ ⟨.number, ['3', '.', '4']⟩ ::
        [⟨.word, ['e']⟩, ⟨.symbol, ['+']⟩] := by decide
  obtain ⟨rest, hrest, -, halternation, hmunch, hnumber, hmark⟩ :=
    alternation_munches_maximally _ _ _ _ hsource
  obtain rfl : rest = ['e', '+'] := by
    have hlist : "x2 3.4e+".toList = ['x', '2', ' ', '3', '.', '4', 'e', '+'] := rfl
    simpa [hlist] using hrest.symm
  obtain ⟨d, hd⟩ := (hnumber rfl).1
  exact ⟨hsource, halternation, hmunch, ⟨d, hd⟩, rfl, rfl, (hmark _ d 'e' ['+'] hd rfl rfl rfl).2⟩

end PlainMath.Lexeme
