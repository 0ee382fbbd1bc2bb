/-
# `Proofs.Prose.Leftmost` — which fragments of a line are replaced

A line is gaps and fragments in turn.  Every fragment begins at the leftmost place behind the one
before it where some shape matches, and it is the match there; behind the last one no shape matches
any more.  There is one such factorisation of a line, since the places are determined one after the
other (`eq_of_leftmost`), and it is what the segments of the line are (`leftmost_segments`).  A
converted line is the same gaps with each fragment replaced (`line_leftmost_first`).
-/
import Mathlib.Order.Bounds.Basic
import PlainMath.Proofs.Locality
import PlainMath.Proofs.Prose
import PlainMath.Proofs.Prose.Pattern

namespace PlainMath.Prose

open Text (charBefore?)

/-- A text as fragments, each behind a gap, and what is left behind the last one. -/
structure Factorisation where
  pieces : List (List Char × List Char)
  tail : List Char
  deriving DecidableEq

namespace Factorisation

/-- All gaps and fragments put together. -/
def text (f : Factorisation) : List Char :=
  f.pieces.flatMap (fun piece => piece.1 ++ piece.2) ++ f.tail

/-- All gaps put together with something in the place of each fragment. -/
def weave (f : Factorisation) (replaced : List String) : String :=
  String.ofList
    ((List.zipWith (fun piece r => piece.1 ++ r.toList) f.pieces replaced).flatten ++ f.tail)

end Factorisation

/-- From a place on, every fragment begins at the least place where some shape matches, and ends
where the match does, and no shape matches behind the last one. -/
def Leftmost (cs : List Char) : Nat → List (List Char × List Char) → Prop
  | i, [] => ∀ j, i ≤ j → ¬Admits cs j
  | i, (gap, fragment) :: pieces =>
    IsLeast {j | i ≤ j ∧ Admits cs j} (i + gap.length) ∧
      matchEnd? cs (i + gap.length) = some (i + gap.length + fragment.length) ∧
      Leftmost cs (i + gap.length + fragment.length) pieces

/-- What stands in place of a fragment: its LaTeX between the delimiters of the mode, or the
fragment itself if it has none. -/
def Replaces (mode : Mode) (fragment : List Char) (r : String) : Prop :=
  (∃ latex, Typesetting.Typesets {} (String.ofList fragment) latex ∧ r = mode.wrap latex) ∨
    (∃ report, Typesetting.Reports {} (String.ofList fragment) report) ∧ r = String.ofList fragment

variable {cs : List Char} {i : Nat} {mode : Mode}

/-! ## There is at most one -/

theorem eq_of_leftmost {f g : Factorisation} (hf : Leftmost cs i f.pieces)
    (hg : Leftmost cs i g.pieces) (htext : f.text = g.text) : f = g := by
  obtain ⟨fpieces, ftail⟩ := f
  obtain ⟨gpieces, gtail⟩ := g
  induction fpieces generalizing i gpieces with
  | nil =>
      cases gpieces with
      | nil => simpa [Factorisation.text] using htext
      | cons piece gpieces =>
          obtain ⟨⟨hmem, -⟩, -⟩ := hg
          exact absurd hmem.2 (hf _ hmem.1)
  | cons piece fpieces ih =>
      obtain ⟨gap, fragment⟩ := piece
      obtain ⟨hleast, hend, hf⟩ := hf
      cases gpieces with
      | nil => exact absurd hleast.1.2 (hg _ hleast.1.1)
      | cons piece gpieces =>
          obtain ⟨gap', fragment'⟩ := piece
          obtain ⟨hleast', hend', hg⟩ := hg
          have hgap : gap.length = gap'.length := Nat.add_left_cancel (hleast.unique hleast')
          rw [← hgap, hend, Option.some.injEq] at hend'
          have hfragment : fragment.length = fragment'.length := Nat.add_left_cancel hend'
          rw [← hgap, ← hfragment] at hg
          simp only [Factorisation.text, List.flatMap_cons, List.append_assoc] at htext
          obtain ⟨hgaps, hbehind⟩ := List.append_inj htext hgap
          obtain ⟨hfragments, hrest⟩ := List.append_inj hbehind hfragment
          have heq := ih hf gpieces hg hrest
          injection heq with hpieces htail
          rw [hgaps, hfragments, hpieces, htail]

/-! ## The segments of a line -/

namespace Factorisation

/-- A character more in front. -/
def push (c : Char) : Factorisation → Factorisation
  | ⟨[], tail⟩ => ⟨[], c :: tail⟩
  | ⟨(gap, fragment) :: pieces, tail⟩ => ⟨(c :: gap, fragment) :: pieces, tail⟩

/-- The gaps and fragments of some segments. -/
def ofSegments : List Segment → Factorisation
  | [] => ⟨[], []⟩
  | .prose c :: rest => (ofSegments rest).push c
  | .fragment cs :: rest => ⟨([], cs) :: (ofSegments rest).pieces, (ofSegments rest).tail⟩

theorem text_push (c : Char) (f : Factorisation) : (f.push c).text = c :: f.text := by
  obtain ⟨_ | ⟨⟨gap, fragment⟩, pieces⟩, tail⟩ := f <;> simp [push, text]

theorem map_snd_push (c : Char) (f : Factorisation) :
    (f.push c).pieces.map Prod.snd = f.pieces.map Prod.snd := by
  obtain ⟨_ | ⟨⟨gap, fragment⟩, pieces⟩, tail⟩ := f <;> rfl

theorem weave_push (c : Char) (f : Factorisation) {replaced : List String}
    (hlength : f.pieces.length = replaced.length) :
    (f.push c).weave replaced = String.singleton c ++ f.weave replaced := by
  obtain ⟨_ | ⟨⟨gap, fragment⟩, pieces⟩, tail⟩ := f
  · simp [push, weave, String.ofList_cons]
  · cases replaced with
    | nil => cases hlength
    | cons r replaced => simp [push, weave, String.ofList_cons]

theorem text_ofSegments : ∀ segments : List Segment,
    (ofSegments segments).text = segments.flatMap Segment.chars
  | [] => rfl
  | .prose c :: rest => by
      rw [ofSegments, text_push, text_ofSegments rest]
      rfl
  | .fragment cs :: rest => by
      have ih := text_ofSegments rest
      simp only [ofSegments, text, List.flatMap_cons, Segment.chars, ← ih, List.nil_append,
        List.append_assoc]

end Factorisation

open Factorisation

theorem leftmost_push {f : Factorisation} (hnone : ¬Admits cs i)
    (h : Leftmost cs (i + 1) f.pieces) (c : Char) : Leftmost cs i (f.push c).pieces := by
  have hset : {j | i ≤ j ∧ Admits cs j} = {j | i + 1 ≤ j ∧ Admits cs j} := by
    ext j
    constructor
    · rintro ⟨hle, hadmits⟩
      refine ⟨lt_of_le_of_ne hle ?_, hadmits⟩
      rintro rfl
      exact hnone hadmits
    · rintro ⟨hle, hadmits⟩
      exact ⟨Nat.le_of_succ_le hle, hadmits⟩
  obtain ⟨_ | ⟨⟨gap, fragment⟩, pieces⟩, tail⟩ := f
  · intro j hle hadmits
    have hj : j ∈ {j | i + 1 ≤ j ∧ Admits cs j} := hset ▸ ⟨hle, hadmits⟩
    exact h j hj.1 hadmits
  · have hlength : i + (c :: gap).length = i + 1 + gap.length := by
      rw [List.length_cons, Nat.add_assoc, Nat.add_comm 1]
    rw [push, Leftmost, hset, hlength]
    exact h

theorem cut_charBefore? : ∀ {k i : Nat}, i + k ≤ cs.length →
    cut (charBefore? cs i) k (cs.drop i) = cut (charBefore? cs (i + k)) 0 (cs.drop (i + k))
  | 0, i, _ => rfl
  | k + 1, i, h => by
      have hi : i < cs.length := by omega
      have ih := cut_charBefore? (k := k) (i := i + 1) (by omega)
      have hbefore : charBefore? cs (i + 1) = some cs[i] := List.getElem?_eq_getElem hi
      rw [List.drop_eq_getElem_cons hi, cut, ← hbefore, ih, Nat.add_right_comm, Nat.add_assoc]

/-- Where no shape matches, a character of prose is cut off. -/
theorem cut_of_matchEnd?_none (hi : i < cs.length) (hend : matchEnd? cs i = none) :
    cut (charBefore? cs i) 0 (cs.drop i) =
      .prose cs[i] :: cut (charBefore? cs (i + 1)) 0 (cs.drop (i + 1)) := by
  have hbefore : charBefore? cs (i + 1) = some cs[i] := List.getElem?_eq_getElem hi
  have hlength : fragmentLength? (charBefore? cs i) (cs.drop i) = none := by
    rwa [matchEnd?_eq, Option.map_eq_none_iff] at hend
  rw [List.drop_eq_getElem_cons hi] at hlength ⊢
  rw [cut, hlength, hbefore]

/-- Where some shape matches, the match is cut off. -/
theorem cut_of_matchEnd?_some {j : Nat} (hend : matchEnd? cs i = some j) :
    cut (charBefore? cs i) 0 (cs.drop i) =
      .fragment ((cs.drop i).take (j - i)) :: cut (charBefore? cs j) 0 (cs.drop j) := by
  obtain ⟨hlt, hle⟩ := matchEnd?_bounds hend
  obtain ⟨n, rfl⟩ : ∃ n, j = i + 1 + n := Nat.exists_eq_add_of_le hlt
  have hi : i < cs.length := by omega
  have hbefore : charBefore? cs (i + 1) = some cs[i] := List.getElem?_eq_getElem hi
  have hwidth : i + 1 + n - i = n + 1 := by omega
  have hlength : fragmentLength? (charBefore? cs i) (cs.drop i) = some (n + 1) := by
    rw [matchEnd?_eq] at hend
    obtain ⟨m, hm, hadd⟩ := Option.map_eq_some_iff.mp hend
    rw [hm, ← hwidth, ← hadd, Nat.add_sub_cancel_left]
  rw [hwidth, ← cut_charBefore? hle, hbefore]
  rw [List.drop_eq_getElem_cons hi] at hlength ⊢
  rw [cut, hlength, List.take_succ_cons]

/-- From each place on, the segments are the fragments in their leftmost places. -/
theorem leftmost_cut (cs : List Char) (i : Nat) :
    Leftmost cs i (ofSegments (cut (charBefore? cs i) 0 (cs.drop i))).pieces := by
  by_cases hi : i < cs.length
  · cases hend : matchEnd? cs i with
    | none =>
        have hnone : ¬Admits cs i := by simp [admits_iff, hend]
        rw [cut_of_matchEnd?_none hi hend]
        exact leftmost_push hnone (leftmost_cut cs (i + 1)) _
    | some j =>
        obtain ⟨hlt, hle⟩ := matchEnd?_bounds hend
        have hwidth : i + ((cs.drop i).take (j - i)).length = j := by
          rw [List.length_take, List.length_drop]
          omega
        rw [cut_of_matchEnd?_some hend, ofSegments, Leftmost, List.length_nil, Nat.add_zero, hwidth]
        refine ⟨⟨⟨le_refl i, admits_iff.mpr ⟨j, hend⟩⟩, fun k hk => hk.1⟩, hend, ?_⟩
        exact leftmost_cut cs j
  · have hdrop : cs.drop i = [] := List.drop_eq_nil_of_le (Nat.le_of_not_lt hi)
    rw [hdrop]
    intro j hle hadmits
    obtain ⟨k, hk⟩ := admits_iff.mp hadmits
    have hbounds := matchEnd?_bounds hk
    omega
termination_by cs.length - i

/-! ## A converted line -/

theorem replaces_of_replace {fragment : List Char} {logged : Logged String}
    (h : replace mode (String.ofList fragment) = .ok logged) :
    Replaces mode fragment logged.value := by
  obtain ⟨outcome, hrun, h⟩ := bind_eq_ok_iff.mp h
  cases hresult : outcome.value.result with
  | ok latex =>
      rw [hresult] at h
      cases h
      exact .inl ⟨latex, ⟨outcome, hrun, hresult⟩, rfl⟩
  | error report =>
      rw [hresult] at h
      cases h
      exact .inr ⟨⟨report, outcome, hrun, hresult⟩, rfl⟩

/-- Segments are converted fragment by fragment, and what stands between stays. -/
theorem replaceAll_eq_weave : ∀ {segments : List Segment} {logged : Logged String},
    replaceAll mode segments = .ok logged →
    ∃ replaced, List.Forall₂ (Replaces mode) ((ofSegments segments).pieces.map Prod.snd) replaced ∧
      logged.value = (ofSegments segments).weave replaced
  | [], logged, h => by
      cases h
      exact ⟨[], .nil, rfl⟩
  | .prose c :: rest, logged, h => by
      obtain ⟨after, hafter, h⟩ := bind_eq_ok_iff.mp h
      cases h
      obtain ⟨replaced, hreplaced, hvalue⟩ := replaceAll_eq_weave hafter
      refine ⟨replaced, ?_, ?_⟩
      · rwa [ofSegments, map_snd_push]
      · have hlength := hreplaced.length_eq
        rw [List.length_map] at hlength
        rw [ofSegments, weave_push c _ hlength, hvalue]
  | .fragment cs :: rest, logged, h => by
      obtain ⟨here, hhere, h⟩ := bind_eq_ok_iff.mp h
      obtain ⟨after, hafter, h⟩ := bind_eq_ok_iff.mp h
      cases h
      obtain ⟨replaced, hreplaced, hvalue⟩ := replaceAll_eq_weave hafter
      refine ⟨here.value :: replaced, .cons (replaces_of_replace hhere) hreplaced, ?_⟩
      rw [hvalue]
      simp [ofSegments, weave]

/-- A factorisation of the line into gaps and the fragments that are found from its begin on. -/
structure Factorisation.IsLeftmostFirst (f : Factorisation) (cs : List Char) : Prop where
  text_eq : f.text = cs
  leftmost : Leftmost cs 0 f.pieces

theorem isLeftmostFirst_segments (cs : List Char) :
    (ofSegments (segments cs)).IsLeftmostFirst cs where
  text_eq := by rw [text_ofSegments, flatMap_chars_segments]
  leftmost := leftmost_cut cs 0

/-- Fragments are found from left to right, and nothing else of a line changes.  A line that is
neither blank nor a heading has exactly one factorisation into gaps and leftmost fragments, and it
is converted to the same gaps with every fragment replaced. -/
theorem line_leftmost_first (mode : Mode) (l : String) (hblank : Text.strip l.toList ≠ [])
    (hheading : (Text.strip l.toList).head? ≠ some '#') :
    ∃ f : Factorisation, f.IsLeftmostFirst l.toList ∧
      (∀ g : Factorisation, g.IsLeftmostFirst l.toList → g = f) ∧
      ∃ (replaced : List String) (log : List LogEntry),
        List.Forall₂ (Replaces mode) (f.pieces.map Prod.snd) replaced ∧
          line mode l = .ok ⟨f.weave replaced, log⟩ := by
  have hsegments := isLeftmostFirst_segments l.toList
  refine ⟨ofSegments (segments l.toList), hsegments, fun g hg => ?_, ?_⟩
  · exact eq_of_leftmost hg.leftmost hsegments.leftmost (hg.text_eq.trans hsegments.text_eq.symm)
  · obtain ⟨logged, hlogged, -⟩ := exists_replaceAll mode (segments l.toList)
    obtain ⟨replaced, hreplaced, hvalue⟩ := replaceAll_eq_weave hlogged
    have htouched : ¬isUntouched l = true := by
      rw [isUntouched_iff]
      exact not_or.mpr ⟨hblank, hheading⟩
    refine ⟨replaced, logged.log, hreplaced, ?_⟩
    rw [line, if_neg htouched, hlogged, ← hvalue]

/-- The second fragment begins within a word, right where the first one ends. -/
theorem line_leftmost_first_midWord :
    Text.strip "2+3x^2 n".toList ≠ [] ∧ (Text.strip "2+3x^2 n".toList).head? ≠ some '#' ∧
      ∃ (replaced : List String) (log : List LogEntry),
        List.Forall₂ (Replaces .inline) ["2+3".toList, "x^2".toList] replaced ∧
          line .inline "2+3x^2 n" =
            .ok ⟨(⟨[([], "2+3".toList), ([], "x^2".toList)], " n".toList⟩ : Factorisation).weave
              replaced, log⟩ := by
  have hblank : Text.strip "2+3x^2 n".toList ≠ [] := by decide
  have hheading : (Text.strip "2+3x^2 n".toList).head? ≠ some '#' := by decide
  refine ⟨hblank, hheading, ?_⟩
  obtain ⟨f, -, hunique, replaced, log, hreplaced, hline⟩ :=
    line_leftmost_first .inline "2+3x^2 n" hblank hheading
  have hf : (⟨[([], "2+3".toList), ([], "x^2".toList)], " n".toList⟩ : Factorisation) = f := by
    rw [← hunique _ (isLeftmostFirst_segments _)]
    decide +kernel
  subst hf
  exact ⟨replaced, log, hreplaced, hline⟩

end PlainMath.Prose
