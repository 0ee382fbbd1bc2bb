/-
# `Proofs.Number.Order` — the order of numbers

Numbers that are not negative are ordered as their ranks are (`place?_ofRank`), and rounding does
not reach one from below (`ofRatio_below_one`) unless the quotient is nearer to one than half a
unit of the magnitudes below it.
-/
import PlainMath.Proofs.Number.ReadBack

namespace PlainMath.Binary64

/-! ## Comparisons -/

theorem atMost_iff {x y : Binary64} :
    x.atMost y = true ↔ ∃ a b, x.place? = some a ∧ y.place? = some b ∧ a ≤ b := by
  unfold atMost
  cases x.place? with
  | none => simp
  | some a =>
      cases y.place? with
      | none => simp
      | some b => simp

theorem atMost_trans {x y z : Binary64} (hxy : x.atMost y = true) (hyz : y.atMost z = true) :
    x.atMost z = true := by
  obtain ⟨a, b, ha, hb, hab⟩ := atMost_iff.mp hxy
  obtain ⟨b', c, hb', hc, hbc⟩ := atMost_iff.mp hyz
  obtain rfl := Option.some.inj (hb.symm.trans hb')
  exact atMost_iff.mpr ⟨a, c, ha, hc, hab.trans hbc⟩

theorem below_iff {x y : Binary64} {a b : Int} (hx : x.place? = some a) (hy : y.place? = some b) :
    x.below y = true ↔ a < b := by
  simp [below, hx, hy]

theorem atMost_eq_false_of_below {x y : Binary64} (h : x.below y = true) :
    y.atMost x = false := by
  unfold below at h
  unfold atMost
  cases hx : x.place? with
  | none => simp [hx] at h
  | some a =>
      cases hy : y.place? with
      | none => simp [hx, hy] at h
      | some b => simpa [hx, hy] using h

/-- The infinite number stands behind all finite ones. -/
theorem place?_ofRank (rank : Nat) :
    (ofRank false rank).place? = some ((min rank finiteRanks : Nat) : Int) := by
  unfold ofRank
  split
  · next h => rw [Nat.min_eq_left h.le]; rfl
  · next h => rw [Nat.min_eq_right (Nat.not_lt.mp h)]; rfl

/-- The place of a number that is not negative determines it. -/
theorem ofRank_eq_iff_place? {rank rank' : Nat} :
    ofRank false rank = ofRank false rank' ↔
      (ofRank false rank).place? = (ofRank false rank').place? := by
  refine ⟨congrArg place?, fun h => ?_⟩
  rw [place?_ofRank, place?_ofRank, Option.some.injEq, Int.natCast_inj] at h
  unfold ofRank
  split
  · next hrank =>
      have heq : rank' = rank := by omega
      simp [heq, hrank]
  · next hrank =>
      have hrank' : ¬ rank' < finiteRanks := by omega
      simp [hrank']

/-! ## One -/

/-- The rank of one. -/
def rankOne : Nat := 1023 * 2 ^ 52

theorem rankOne_lt : rankOne < finiteRanks := by decide

theorem one_eq : one = ofRank false rankOne := rfl

theorem ofRatio_self {n : Nat} (h : 0 < n) : ofRatio n n = one := by
  have hmagnitude : magnitude rankOne = 1 := by
    have hs : significand rankOne = 2 ^ 52 := by decide
    have hu : unitExponent rankOne = -52 := by decide
    norm_num [magnitude, hs, hu]
  have hratio : (n : ℚ) / n = magnitude rankOne := by
    rw [hmagnitude, div_self (by positivity)]
  rw [ofRatio, rankOfRatio_of_div_eq h hratio, one_eq]

theorem roundHalfEven_le {n d m : Nat} (h : n ≤ m * d) (hd : 0 < d) : roundHalfEven n d ≤ m := by
  have hquotient : n / d ≤ m := Nat.div_le_of_le_mul (by rwa [Nat.mul_comm])
  simp only [roundHalfEven]
  split
  · exact hquotient
  · next hround =>
      -- rounding up would pass `m` only from a quotient that is whole
      refine Nat.lt_of_le_of_ne hquotient fun hm => hround ?_
      have hrest : n % d = 0 := by
        have := Nat.div_add_mod n d
        rw [hm, Nat.mul_comm] at this
        omega
      simp [hrest, hd]

/-- A quotient below one has a rank below that of one, if its denominator is no greater than the
number of units that one is above half of it. -/
theorem rankOfRatio_lt_rankOne {n d : Nat} (h : n < d) (hd : d ≤ 2 ^ 53) :
    rankOfRatio n d < rankOne := by
  have hpos : 0 < d := Nat.zero_lt_of_lt h
  rcases Nat.eq_zero_or_pos n with rfl | hn
  · exact Nat.zero_lt_succ _
  have hq : (0 : ℚ) < n / d := by positivity
  have hone : (n : ℚ) / d < 2 ^ (0 : Int) := by
    rw [zpow_zero, div_lt_one (by exact_mod_cast hpos)]
    exact_mod_cast h
  have hlog : Int.log 2 ((n : ℚ) / d) < 0 := (Int.lt_zpow_iff_log_lt (by decide) hq).mp hone
  simp only [rankOfRatio, hn.ne', if_false, floorLog2_eq_log hn hpos, Nat.pow_eq, rankOne]
  generalize he : max (Int.log 2 ((n : ℚ) / d) - 52) (-1074) = e
  by_cases hhalf : e = -53
  · -- the significand is rounded to at most `2 ^ 53 - 1`
    have hround : roundHalfEven (scaleUp 2 n (-e)) (scaleUp 2 d e) ≤ 2 ^ 53 - 1 := by
      have hn' : scaleUp 2 n (-e) = n * 2 ^ 53 := by simp [hhalf, scaleUp]
      have hd' : scaleUp 2 d e = d := by simp [hhalf, scaleUp]
      rw [hn', hd']
      refine roundHalfEven_le ?_ hpos
      omega
    omega
  · have hround : roundHalfEven (scaleUp 2 n (-e)) (scaleUp 2 d e) ≤ 2 ^ 53 := by
      have hscaled : 0 < scaleUp 2 d e := scaleUp_pos (by decide) hpos e
      refine roundHalfEven_le ?_ hscaled
      have hlog' : Int.log 2 ((n : ℚ) / d) < 53 + e := by omega
      have hbound : (n : ℚ) / d < 2 ^ (53 + e) := by
        exact_mod_cast (Int.lt_zpow_iff_log_lt (by decide) hq).mpr hlog'
      have hdiv := scaleUp_div (show 0 < 2 by decide) n d e
      have hle : (scaleUp 2 n (-e) : ℚ) / scaleUp 2 d e ≤ 2 ^ 53 := by
        rw [hdiv, Nat.cast_ofNat, div_le_iff₀ (by positivity)]
        rw [zpow_add₀ two_ne_zero] at hbound
        exact_mod_cast hbound.le
      rw [div_le_iff₀ (by exact_mod_cast hscaled)] at hle
      exact_mod_cast hle
    omega

theorem ofRatio_below_one {n d : Nat} (h : n < d) (hd : d ≤ 2 ^ 53) :
    (ofRatio n d).below one = true := by
  have hrank := rankOfRatio_lt_rankOne h hd
  have hone := rankOne_lt
  rw [ofRatio, one_eq, below_iff (place?_ofRank _) (place?_ofRank _)]
  omega

end PlainMath.Binary64
