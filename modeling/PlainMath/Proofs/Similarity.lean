/-
# `Proofs.Similarity` — only equal words score one

The blocks that are matched stand in the same order in both words, so that together they are a
common subsequence.  It is as long as both words only if the words are equal:

    the matched characters are a common subsequence    (`exists_common_sublist`)
    different words are not matched whole              (`two_mul_matched_lt`)
    a word is matched whole with itself                (`matched_self`)
    only equal words score one                         (`score_self`, `score_below_one`)

The last fact holds of words with at most `2 ^ 53` characters together: scores are rounded, and
the quotient of `2 ^ 54` and `2 ^ 54 + 1` is rounded to one.
-/
import PlainMath.Proofs.Number.Order
import PlainMath.Similarity

namespace PlainMath.Similarity

variable {usable : Char → Bool}

/-! ## Runs -/

/-- A run is the same text at the front of both lists. -/
theorem exists_commonRun (usable : Char → Bool) (a b : List Char) :
    ∃ m y y', a = m ++ y ∧ b = m ++ y' ∧ m.length = commonRun usable a b := by
  fun_induction commonRun usable a b with
  | case1 x xs y ys h ih =>
      obtain ⟨m, r, r', rfl, rfl, hm⟩ := ih
      obtain ⟨rfl, -⟩ : x = y ∧ usable y = true := by simpa using h
      exact ⟨x :: m, r, r', rfl, rfl, congrArg (· + 1) hm⟩
  | case2 x xs y ys h => exact ⟨[], _, _, rfl, rfl, rfl⟩
  | case3 a b h => exact ⟨[], a, b, rfl, rfl, rfl⟩

theorem commonRun_self (a : List Char) : commonRun (fun _ => true) a a = a.length := by
  induction a with
  | nil => rfl
  | cons x a ih => simp [commonRun, ih]

/-- No run with another word is longer than the run of either word with itself. -/
theorem commonRun_le_self (usable : Char → Bool) (a b : List Char) :
    commonRun usable a b ≤ commonRun usable a a ∧
      commonRun usable a b ≤ commonRun usable b b := by
  fun_induction commonRun usable a b with
  | case1 x xs y ys h ih =>
      obtain ⟨rfl, hx⟩ : x = y ∧ usable y = true := by simpa using h
      simp only [commonRun, BEq.rfl, hx, Bool.and_self, if_true]
      exact ⟨Nat.succ_le_succ ih.1, Nat.succ_le_succ ih.2⟩
  | case2 | case3 => exact ⟨Nat.zero_le _, Nat.zero_le _⟩

/-! ## Blocks -/

/-- The block is a text that stands at its two places in the two words. -/
def Block.Shared (a b : List Char) (block : Block) : Prop :=
  ∃ x m y x' y', a = x ++ m ++ y ∧ b = x' ++ m ++ y' ∧ x.length = block.left ∧
    x'.length = block.right ∧ m.length = block.size

theorem shared_empty (a b : List Char) : Block.Shared a b ⟨0, 0, 0⟩ :=
  ⟨[], [], a, [], b, rfl, rfl, rfl, rfl, rfl⟩

theorem bestFrom_shared {x a : List Char} (b : List Char) : ∀ (x' : List Char) {best : Block},
    Block.Shared (x ++ a) (x' ++ b) best →
      Block.Shared (x ++ a) (x' ++ b) (bestFrom usable a x.length x'.length b best) := by
  induction b with
  | nil => exact fun x' best h => h
  | cons y b ih =>
      intro x' best h
      have hrun : Block.Shared (x ++ a) (x' ++ y :: b)
          ⟨x.length, x'.length, commonRun usable a (y :: b)⟩ := by
        obtain ⟨m, r, r', ha, hb, hm⟩ := exists_commonRun usable a (y :: b)
        exact ⟨x, m, r, x', r', by simp [ha], by simp [hb], rfl, rfl, hm⟩
      rw [List.append_cons] at hrun h ⊢
      have hlength : x'.length + 1 = (x' ++ [y]).length := by simp
      rw [bestFrom, hlength]
      apply ih
      split
      · exact hrun
      · exact h

theorem bestOf_shared {b : List Char} (a : List Char) : ∀ (x : List Char) {best : Block},
    Block.Shared (x ++ a) b best →
      Block.Shared (x ++ a) b (bestOf usable b x.length a best) := by
  induction a with
  | nil => exact fun x best h => h
  | cons c a ih =>
      intro x best h
      have hrow : Block.Shared (x ++ c :: a) b (bestFrom usable (c :: a) x.length 0 b best) :=
        bestFrom_shared b [] h
      rw [List.append_cons] at hrow ⊢
      have hlength : x.length + 1 = (x ++ [c]).length := by simp
      rw [bestOf, hlength]
      exact ih _ hrow

theorem core_shared (usable : Char → Bool) (a b : List Char) :
    Block.Shared a b (bestOf usable b 0 a ⟨0, 0, 0⟩) :=
  bestOf_shared a [] (shared_empty a b)

/-- What extends a block on both sides is shared too. -/
theorem longest_shared (usable : Char → Bool) (a b : List Char) :
    (longest usable a b).Shared a b := by
  have hcore := core_shared usable a b
  unfold longest
  generalize bestOf usable b 0 a ⟨0, 0, 0⟩ = core at hcore
  obtain ⟨l, r, n⟩ := core
  obtain ⟨x, m, y, x', y', rfl, rfl, rfl, rfl, rfl⟩ := hcore
  have htake : ∀ u v w : List Char, (u ++ v ++ w).take u.length = u := by simp
  have hdrop : ∀ u v w : List Char, (u ++ v ++ w).drop (u.length + v.length) = w := by
    intro u v w
    rw [← List.length_append, List.drop_left]
  simp only [htake, hdrop]
  obtain ⟨k, s, s', hs, hs', hk⟩ := exists_commonRun (fun _ => true) x.reverse x'.reverse
  obtain ⟨t, z, z', rfl, rfl, ht⟩ := exists_commonRun (fun _ => true) y y'
  rw [← hk, ← ht]
  rw [List.reverse_eq_iff, List.reverse_append] at hs hs'
  refine ⟨s.reverse, k.reverse ++ m ++ t, z, s'.reverse, z', ?_, ?_, ?_, ?_, ?_⟩
  · simp [hs]
  · simp [hs']
  · simp [hs]
  · simp [hs']
  · simp [Nat.add_assoc]

/-! ## The matched characters -/

/-- The matched characters are a common subsequence. -/
theorem exists_common_sublist (usable : Char → Bool) : ∀ (fuel : Nat) (a b : List Char),
    ∃ l : List Char, l.Sublist a ∧ l.Sublist b ∧
      l.length = matchedWithin usable fuel a b := by
  intro fuel
  induction fuel with
  | zero => exact fun a b => ⟨[], List.nil_sublist a, List.nil_sublist b, rfl⟩
  | succ fuel ih =>
      intro a b
      simp only [matchedWithin]
      split
      · exact ⟨[], List.nil_sublist a, List.nil_sublist b, rfl⟩
      · obtain ⟨x, m, y, x', y', ha, hb, hx, hx', hm⟩ := longest_shared usable a b
        have hfront : a.take (longest usable a b).left = x ∧
            b.take (longest usable a b).right = x' := by
          rw [← hx, ← hx']
          constructor
          · rw [ha, List.append_assoc, List.take_left]
          · rw [hb, List.append_assoc, List.take_left]
        have hback : a.drop ((longest usable a b).left + (longest usable a b).size) = y ∧
            b.drop ((longest usable a b).right + (longest usable a b).size) = y' := by
          rw [← hx, ← hx', ← hm, ← List.length_append, ← List.length_append]
          constructor
          · rw [ha, List.drop_left]
          · rw [hb, List.drop_left]
        rw [hfront.1, hfront.2, hback.1, hback.2]
        obtain ⟨l, hl, hl', hlength⟩ := ih x x'
        obtain ⟨r, hr, hr', hrlength⟩ := ih y y'
        refine ⟨l ++ m ++ r, ?_, ?_, ?_⟩
        · rw [ha]
          exact (hl.append (List.Sublist.refl m)).append hr
        · rw [hb]
          exact (hl'.append (List.Sublist.refl m)).append hr'
        · rw [List.length_append, List.length_append, hlength, hrlength, hm]
          omega

/-- Different words are not matched whole. -/
theorem two_mul_matched_lt {a b : List Char} (h : a ≠ b) :
    2 * matched a b < a.length + b.length := by
  obtain ⟨l, hla, hlb, hlength⟩ :=
    exists_common_sublist (fun c => !(popular b).contains c) a.length a b
  have hlength : l.length = matched a b := hlength
  have ha := hla.length_le
  have hb := hlb.length_le
  by_contra hle
  have hl : l = a := hla.eq_of_length (by omega)
  have hl' : l = b := hlb.eq_of_length (by omega)
  exact h (hl.symm.trans hl')

/-! ## A word and itself

The best block of a word with itself starts at the same place in both copies.  A run that
starts at two different places is no longer than the run from the smaller of the two to itself,
and that one was met before. -/

/-- The block stands at one place in both copies, and none of the runs from the first `n` places
to themselves is longer. -/
structure Diagonal (usable : Char → Bool) (w : List Char) (n : Nat) (best : Block) : Prop where
  same : best.left = best.right
  longest : ∀ i < n, commonRun usable (w.drop i) (w.drop i) ≤ best.size

theorem Diagonal.succ {w : List Char} {n : Nat} {best : Block} (h : Diagonal usable w n best)
    (hn : commonRun usable (w.drop n) (w.drop n) ≤ best.size) :
    Diagonal usable w (n + 1) best := by
  refine ⟨h.same, fun i hi => ?_⟩
  rcases Nat.lt_succ_iff_lt_or_eq.mp hi with hi | rfl
  · exact h.longest i hi
  · exact hn

theorem bestFrom_diagonal {w : List Char} {i : Nat} : ∀ {ys : List Char} {j : Nat} {best : Block},
    ys = w.drop j → Diagonal usable w i best → (i < j → Diagonal usable w (i + 1) best) →
      Diagonal usable w (i + 1) (bestFrom usable (w.drop i) i j ys best)
  | [], j, best, hys, hbest, hpassed => by
      by_cases hij : i < j
      · exact hpassed hij
      · have hi : w.drop i = [] := by
          have hj : w.length ≤ j := List.drop_eq_nil_iff.mp hys.symm
          exact List.drop_eq_nil_of_le (by omega)
        exact hbest.succ (by rw [hi]; exact Nat.zero_le _)
  | y :: ys, j, best, hys, hbest, hpassed => by
      have htail : ys = w.drop (j + 1) := by
        rw [← List.drop_drop, ← hys, List.drop_one, List.tail_cons]
      obtain ⟨hrow, hcolumn⟩ := commonRun_le_self usable (w.drop i) (w.drop j)
      simp only [bestFrom, hys]
      rcases Nat.lt_trichotomy j i with hji | rfl | hij
      · have hold := hbest.longest j hji
        rw [if_neg (by omega)]
        exact bestFrom_diagonal htail hbest fun h => absurd h (by omega)
      · split
        · next hlt =>
            have hnew : Diagonal usable w j ⟨j, j, commonRun usable (w.drop j) (w.drop j)⟩ :=
              ⟨rfl, fun p hp => (hbest.longest p hp).trans hlt.le⟩
            exact bestFrom_diagonal htail hnew fun _ => hnew.succ le_rfl
        · next hle => exact bestFrom_diagonal htail hbest fun _ => hbest.succ (not_lt.mp hle)
      · have hold := (hpassed hij).longest i (Nat.lt_succ_self i)
        rw [if_neg (by omega)]
        exact bestFrom_diagonal htail hbest fun _ => hpassed hij

theorem bestOf_diagonal {w : List Char} : ∀ {xs : List Char} {i : Nat} {best : Block},
    xs = w.drop i → Diagonal usable w i best →
      (bestOf usable w i xs best).left = (bestOf usable w i xs best).right
  | [], _, _, _, hbest => hbest.same
  | x :: xs, i, best, hxs, hbest => by
      have htail : xs = w.drop (i + 1) := by
        rw [← List.drop_drop, ← hxs, List.drop_one, List.tail_cons]
      simp only [bestOf, hxs]
      exact bestOf_diagonal htail
        (bestFrom_diagonal (List.drop_zero).symm hbest fun h => absurd h (Nat.not_lt_zero i))

/-- The longest block of a word with itself is the whole word. -/
theorem longest_self (usable : Char → Bool) (w : List Char) :
    longest usable w w = ⟨0, 0, w.length⟩ := by
  have hsame : (bestOf usable w 0 w ⟨0, 0, 0⟩).left = (bestOf usable w 0 w ⟨0, 0, 0⟩).right :=
    bestOf_diagonal (List.drop_zero).symm ⟨rfl, fun i hi => absurd hi (Nat.not_lt_zero i)⟩
  have hcore := core_shared usable w w
  unfold longest
  generalize bestOf usable w 0 w ⟨0, 0, 0⟩ = core at hsame hcore
  obtain ⟨x, m, y, -, -, hw, -, hx, -, hm⟩ := hcore
  have hlength : w.length = core.left + core.size + y.length := by
    rw [hw, List.length_append, List.length_append, hx, hm]
  have hfront : min core.left w.length = core.left := by omega
  simp only [← hsame, commonRun_self, List.length_reverse, List.length_take, List.length_drop,
    hfront, Nat.sub_self, Block.mk.injEq, true_and]
  omega

/-- A word is matched whole with itself. -/
theorem matched_self (w : List Char) : matched w w = w.length := by
  have hempty : ∀ (usable : Char → Bool) (fuel : Nat), matchedWithin usable fuel [] [] = 0 := by
    intro usable fuel
    cases fuel with
    | zero => rfl
    | succ fuel => rfl
  cases w with
  | nil => rfl
  | cons c w =>
      simp only [matched, List.length_cons, matchedWithin, longest_self]
      simp [hempty]

/-! ## Scores -/

/-- No score is negative. -/
theorem score_eq_ofRank (a b : List Char) : ∃ rank, score a b = .ofRank false rank := by
  unfold score
  split
  · exact ⟨_, Binary64.one_eq⟩
  · exact ⟨_, rfl⟩

theorem score_self (w : List Char) : score w w = .one := by
  unfold score
  split
  · rfl
  · rw [matched_self, Nat.two_mul, Binary64.ofRatio_self (by omega)]

theorem score_below_one {a b : List Char} (h : a ≠ b) (hlength : a.length + b.length ≤ 2 ^ 53) :
    (score a b).below .one = true := by
  have hlt := two_mul_matched_lt h
  unfold score
  rw [if_neg (by omega)]
  exact Binary64.ofRatio_below_one hlt hlength

end PlainMath.Similarity
