/-
# `Proofs.Number.ReadBack` — the text of a number reads back

The text of a number is a numeral, and reading it gives the number again; so two numbers with
the same text are the same number (`text_ofRank_injective`).

Everything is a function of the rational number that is meant, and each step says so.

    rounding to a rank         a function of the quotient           (`rankOfRatio_eq_of_div_eq`)
    rounding a magnitude       gives its own rank                   (`rankOfRatio_of_div_eq`)
    the rank of a decimal      a function of its value              (`rank_eq_of_value_eq`)
    the shortest decimal       has the rank that it was sought for  (`rank_shortest`)
    the text of a decimal      spells a decimal of the same value   (`spells_text`)

The binary and the decimal exponent are both logarithms of that rational number, which is why
no step has to know how the quotient was given.
-/
import Mathlib.Algebra.Order.Field.Power
import Mathlib.Algebra.Order.Floor.Semiring
import Mathlib.Data.Int.Log
import Mathlib.Data.Rat.Floor
import Mathlib.Tactic.FieldSimp
import Mathlib.Tactic.Positivity
import Mathlib.Tactic.Ring
import PlainMath.Proofs.Number.Spelling

namespace PlainMath

/-! ## Scaled quotients -/

namespace Binary64

theorem scaleUp_pos {base n : Nat} (hbase : 0 < base) (hn : 0 < n) (e : Int) :
    0 < scaleUp base n e :=
  Nat.mul_pos hn (Nat.pow_pos hbase)

/-- Scaling the numerator up and the denominator down divides by the power. -/
theorem scaleUp_div {base : Nat} (hbase : 0 < base) (n d : Nat) (e : Int) :
    (scaleUp base n (-e) : ℚ) / scaleUp base d e = n / d / (base : ℚ) ^ e := by
  have hbase' : (base : ℚ) ≠ 0 := by exact_mod_cast hbase.ne'
  obtain ⟨k, rfl | rfl⟩ := e.eq_nat_or_neg
  · simp [scaleUp, Nat.pow_eq, div_div]
  · simp [scaleUp, Nat.pow_eq]
    field_simp

/-- The exponent that bounds a quotient from below by a power is its logarithm. -/
theorem eq_log_of_le_of_lt {base : Nat} (hbase : 1 < base) {q : ℚ} {k : Int} (hq : 0 < q)
    (hle : (base : ℚ) ^ k ≤ q) (hlt : q < (base : ℚ) ^ (k + 1)) : k = Int.log base q := by
  have hle' := (Int.zpow_le_iff_le_log hbase hq).mp hle
  have hlt' := (Int.lt_zpow_iff_log_lt hbase hq).mp hlt
  omega

theorem scaleUp_le_scaleUp_iff (n : Nat) {d : Nat} (hd : 0 < d) (k : Int) :
    scaleUp 2 d k ≤ scaleUp 2 n (-k) ↔ (2 : ℚ) ^ k ≤ n / d := by
  have hpos : (0 : ℚ) < scaleUp 2 d k := by exact_mod_cast scaleUp_pos (by decide) hd k
  have hpower : (0 : ℚ) < (2 : ℚ) ^ k := by positivity
  have hdiv := scaleUp_div (show 0 < 2 by decide) n d k
  rw [← Nat.cast_le (α := ℚ), ← one_le_div₀ hpos, hdiv, Nat.cast_ofNat, one_le_div₀ hpower]

theorem floorLog2_eq_log {n d : Nat} (hn : 0 < n) (hd : 0 < d) :
    floorLog2 n d = Int.log 2 ((n : ℚ) / d) := by
  have hq : (0 : ℚ) < n / d := by positivity
  have hd' : (0 : ℚ) < d := by exact_mod_cast hd
  have hn₁ : (2 : ℚ) ^ (n.log2 : Int) ≤ n := by
    exact_mod_cast Nat.log2_self_le hn.ne'
  have hn₂ : (n : ℚ) < 2 ^ ((n.log2 : Int) + 1) := by
    exact_mod_cast Nat.lt_log2_self
  have hd₁ : (2 : ℚ) ^ (d.log2 : Int) ≤ d := by
    exact_mod_cast Nat.log2_self_le hd.ne'
  have hd₂ : (d : ℚ) < 2 ^ ((d.log2 : Int) + 1) := by
    exact_mod_cast Nat.lt_log2_self
  -- the quotient lies between the powers of `k - 1` and `k + 1`; the test decides between them
  have hbelow : (2 : ℚ) ^ ((n.log2 : Int) - d.log2 - 1) ≤ n / d := by
    rw [le_div_iff₀ hd']
    calc (2 : ℚ) ^ ((n.log2 : Int) - d.log2 - 1) * d
        ≤ 2 ^ ((n.log2 : Int) - d.log2 - 1) * 2 ^ ((d.log2 : Int) + 1) := by gcongr
      _ = 2 ^ (n.log2 : Int) := by rw [← zpow_add₀ two_ne_zero]; congr 1; ring
      _ ≤ n := hn₁
  have habove : (n : ℚ) / d < 2 ^ ((n.log2 : Int) - d.log2 + 1) := by
    rw [div_lt_iff₀ hd']
    calc (n : ℚ) < 2 ^ ((n.log2 : Int) + 1) := hn₂
      _ = 2 ^ ((n.log2 : Int) - d.log2 + 1) * 2 ^ (d.log2 : Int) := by
          rw [← zpow_add₀ two_ne_zero]; congr 1; ring
      _ ≤ 2 ^ ((n.log2 : Int) - d.log2 + 1) * d := by gcongr
  simp only [floorLog2, scaleUp_le_scaleUp_iff n hd]
  split
  · next h =>
      exact eq_log_of_le_of_lt (by decide) hq (by exact_mod_cast h) (by exact_mod_cast habove)
  · next h =>
      refine eq_log_of_le_of_lt (by decide) hq (by exact_mod_cast hbelow) ?_
      rw [Int.sub_add_cancel]
      exact_mod_cast not_le.mp h

/-! ## Rounding -/

theorem roundHalfEven_mul {c : Nat} (hc : 0 < c) (n d : Nat) :
    roundHalfEven (n * c) (d * c) = roundHalfEven n d := by
  have hlt : 2 * (n % d * c) < d * c ↔ 2 * (n % d) < d := by
    rw [← Nat.mul_assoc, Nat.mul_lt_mul_right hc]
  have heq : 2 * (n % d * c) = d * c ↔ 2 * (n % d) = d := by
    rw [← Nat.mul_assoc, Nat.mul_left_inj hc.ne']
  simp only [roundHalfEven, Nat.mul_div_mul_right _ _ hc, Nat.mul_mod_mul_right, Bool.or_eq_true,
    Bool.and_eq_true, decide_eq_true_eq, beq_iff_eq, hlt, heq]

/-- Rounding looks at the quotient only. -/
theorem roundHalfEven_eq_of_div_eq {n d n' d' : Nat} (hd : 0 < d) (hd' : 0 < d')
    (h : (n : ℚ) / d = n' / d') : roundHalfEven n d = roundHalfEven n' d' := by
  have hcross : n * d' = n' * d := by
    rw [div_eq_div_iff (by positivity) (by positivity)] at h
    exact_mod_cast h
  rw [← roundHalfEven_mul hd' n d, hcross, Nat.mul_comm d d', roundHalfEven_mul hd]

theorem roundHalfEven_of_div_eq {n d m : Nat} (hd : 0 < d) (h : (n : ℚ) / d = m) :
    roundHalfEven n d = m := by
  have hone : (n : ℚ) / d = (m : Nat) / (1 : Nat) := by simpa using h
  rw [roundHalfEven_eq_of_div_eq hd Nat.one_pos hone]
  simp [roundHalfEven, Nat.mod_one]

/-- The rank of a quotient is a function of its value. -/
theorem rankOfRatio_eq_of_div_eq {n d n' d' : Nat} (hd : 0 < d) (hd' : 0 < d')
    (h : (n : ℚ) / d = n' / d') : rankOfRatio n d = rankOfRatio n' d' := by
  have hd₀ : (d : ℚ) ≠ 0 := by exact_mod_cast hd.ne'
  have hd₀' : (d' : ℚ) ≠ 0 := by exact_mod_cast hd'.ne'
  rcases Nat.eq_zero_or_pos n with rfl | hn
  · have hn' : n' = 0 := by
      rw [Nat.cast_zero, zero_div, eq_comm, div_eq_zero_iff] at h
      exact_mod_cast h.resolve_right hd₀'
    simp [rankOfRatio, hn']
  · have hn' : 0 < n' := by
      rw [Nat.pos_iff_ne_zero]
      rintro rfl
      rw [Nat.cast_zero, zero_div, div_eq_zero_iff] at h
      exact hn.ne' (by exact_mod_cast h.resolve_right hd₀)
    simp only [rankOfRatio, hn.ne', hn'.ne', if_false, floorLog2_eq_log hn hd,
      floorLog2_eq_log hn' hd', h]
    congr 1
    refine roundHalfEven_eq_of_div_eq (scaleUp_pos (by decide) hd _)
      (scaleUp_pos (by decide) hd' _) ?_
    rw [scaleUp_div (by decide), scaleUp_div (by decide), h]

/-! ## Magnitudes -/

/-- The value of the magnitude of this rank. -/
def magnitude (rank : Nat) : ℚ := significand rank * (2 : ℚ) ^ unitExponent rank

/-- The two sorts of ranks: those that count the least unit, and those of the blocks above. -/
theorem significand_unitExponent_cases (rank : Nat) :
    (rank < 2 ^ 52 ∧ significand rank = rank ∧ unitExponent rank = -1074) ∨
      (2 ^ 52 ≤ rank ∧ significand rank = 2 ^ 52 + rank % 2 ^ 52 ∧
        unitExponent rank = (rank / 2 ^ 52 : Nat) - 1075) := by
  unfold significand unitExponent
  simp only [Nat.pow_eq]
  by_cases h : rank < 2 ^ 52
  · exact .inl ⟨h, if_pos h, if_pos h⟩
  · exact .inr ⟨Nat.not_lt.mp h, if_neg h, if_neg h⟩

theorem significand_pos {rank : Nat} (h : 0 < rank) : 0 < significand rank := by
  rcases significand_unitExponent_cases rank with ⟨-, hs, -⟩ | ⟨-, hs, -⟩ <;> omega

/-- The unit of a magnitude is the one that rounding chooses for it. -/
theorem unitExponent_eq_max {rank : Nat} (h : 0 < rank) :
    max (Int.log 2 (magnitude rank) - 52) (-1074) = unitExponent rank := by
  have hpos : (0 : ℚ) < magnitude rank := by
    have := significand_pos h
    unfold magnitude
    positivity
  -- a significand below `2 ^ k` bounds the logarithm from above, one from `2 ^ k` on from below
  have hupper : ∀ k : Nat, significand rank < 2 ^ k →
      Int.log 2 (magnitude rank) < k + unitExponent rank := by
    intro k hk
    rw [← Int.lt_zpow_iff_log_lt (by decide) hpos, magnitude, Nat.cast_ofNat,
      zpow_add₀ two_ne_zero, zpow_natCast]
    gcongr
    exact_mod_cast hk
  have hlower : ∀ k : Nat, 2 ^ k ≤ significand rank →
      k + unitExponent rank ≤ Int.log 2 (magnitude rank) := by
    intro k hk
    rw [← Int.zpow_le_iff_le_log (by decide) hpos, magnitude, Nat.cast_ofNat,
      zpow_add₀ two_ne_zero, zpow_natCast]
    gcongr
    exact_mod_cast hk
  rcases significand_unitExponent_cases rank with ⟨hsmall, hs, hu⟩ | ⟨hlarge, hs, hu⟩
  · have hlog := hupper 52 (by omega)
    omega
  · have hlog := hupper 53 (by omega)
    have hlog' := hlower 52 (by omega)
    omega

/-- The number of whole blocks below a rank, and its significand, make up the rank. -/
theorem blocks_add_significand (rank : Nat) :
    (unitExponent rank + 1074).toNat * 2 ^ 52 + significand rank = rank := by
  rcases significand_unitExponent_cases rank with ⟨hsmall, hs, hu⟩ | ⟨hlarge, hs, hu⟩ <;> omega

/-- A quotient that is the magnitude of a rank has this rank. -/
theorem rankOfRatio_of_div_eq {n d rank : Nat} (hd : 0 < d) (h : (n : ℚ) / d = magnitude rank) :
    rankOfRatio n d = rank := by
  have hd' : (d : ℚ) ≠ 0 := by exact_mod_cast hd.ne'
  rcases Nat.eq_zero_or_pos rank with rfl | hrank
  · have hn : n = 0 := by
      have hzero : magnitude 0 = 0 := by simp [magnitude, significand]
      rw [hzero, div_eq_zero_iff] at h
      exact_mod_cast h.resolve_right hd'
    simp [rankOfRatio, hn]
  · have hn : 0 < n := by
      rw [Nat.pos_iff_ne_zero]
      rintro rfl
      have hpos := significand_pos hrank
      rw [Nat.cast_zero, zero_div, magnitude] at h
      have : (0 : ℚ) < significand rank * 2 ^ unitExponent rank := by positivity
      exact this.ne h
    have hround : roundHalfEven (scaleUp 2 n (-unitExponent rank))
        (scaleUp 2 d (unitExponent rank)) = significand rank := by
      refine roundHalfEven_of_div_eq (scaleUp_pos (by decide) hd _) ?_
      rw [scaleUp_div (by decide), h, magnitude, Nat.cast_ofNat]
      field_simp
    simp only [rankOfRatio, hn.ne', if_false, floorLog2_eq_log hn hd, h,
      unitExponent_eq_max hrank, hround, Nat.pow_eq]
    exact blocks_add_significand rank

end Binary64

/-! ## Decimals -/

namespace Decimal

/-- The value of a decimal. -/
def value (d : Decimal) : ℚ := d.digits * (10 : ℚ) ^ d.exponent

theorem value_pos {d : Decimal} (h : 0 < d.digits) : 0 < d.value := by
  unfold value
  positivity

/-- The decimal as the quotient that its rank is taken of. -/
theorem scaleUp_div_eq_value (d : Decimal) :
    (Binary64.scaleUp 10 d.digits d.exponent : ℚ) / Binary64.scaleUp 10 1 (-d.exponent) =
      d.value := by
  have h := Binary64.scaleUp_div (show 0 < 10 by decide) d.digits 1 (-d.exponent)
  rw [neg_neg] at h
  rw [h, value]
  simp

/-- The place of the leading digit is a logarithm of the value. -/
theorem size_eq_log {d : Decimal} (h : 0 < d.digits) :
    (digitCount d.digits : Int) + d.exponent = Int.log 10 d.value + 1 := by
  have hcount : digitCount d.digits = (Nat.toDigits 10 d.digits).length := by
    simp [digitCount, h.ne']
  obtain ⟨k, hk⟩ : ∃ k, digitCount d.digits = k + 1 := by
    refine Nat.exists_eq_succ_of_ne_zero ?_
    rw [hcount]
    exact Nat.length_toDigits_pos.ne'
  have hlt : d.digits < 10 ^ (k + 1) := by
    rw [← Nat.length_toDigits_le_iff (by decide) (Nat.succ_pos k), ← hcount, hk]
  have hle : 10 ^ k ≤ d.digits := by
    rcases Nat.eq_zero_or_pos k with rfl | hpos
    · exact h
    · by_contra hnot
      rw [Nat.not_le, ← Nat.length_toDigits_le_iff (by decide) hpos, ← hcount, hk] at hnot
      omega
  have hlog : (k : Int) + d.exponent = Int.log 10 d.value := by
    refine Binary64.eq_log_of_le_of_lt (by decide) (value_pos h) ?_ ?_
    · rw [value, Nat.cast_ofNat, zpow_add₀ (by decide), zpow_natCast]
      gcongr
      exact_mod_cast hle
    · rw [value, Nat.cast_ofNat, Int.add_right_comm, zpow_add₀ (by decide)]
      gcongr
      exact_mod_cast hlt
  omega

/-- The rank of a decimal is a function of its value. -/
theorem rank_eq_of_value_eq {d d' : Decimal} (hd : 0 < d.digits) (hd' : 0 < d'.digits)
    (h : d.value = d'.value) : d.rank = d'.rank := by
  have hratio : (Binary64.scaleUp 10 d.digits d.exponent : ℚ) /
      Binary64.scaleUp 10 1 (-d.exponent) = Binary64.scaleUp 10 d'.digits d'.exponent /
        Binary64.scaleUp 10 1 (-d'.exponent) := by
    rw [scaleUp_div_eq_value, scaleUp_div_eq_value, h]
  have hone : ∀ e : Int, 0 < Binary64.scaleUp 10 1 e :=
    fun e => Binary64.scaleUp_pos (by decide) Nat.one_pos e
  simp only [rank, size_eq_log hd, size_eq_log hd', h, hd.ne', hd'.ne',
    Binary64.rankOfRatio_eq_of_div_eq (hone _) (hone _) hratio]

theorem exact_value (rank : Nat) : (exact rank).value = Binary64.magnitude rank := by
  simp only [exact, value, Binary64.magnitude, Binary64.numerator, Binary64.scaleUp, Nat.pow_eq]
  have hten : (10 : ℚ) = 2 * 5 := by norm_num
  obtain ⟨k, hk | hk⟩ := (Binary64.unitExponent rank).eq_nat_or_neg
  · simp [hk]
  · simp only [hk, neg_neg, Int.toNat_natCast, Int.toNat_neg_natCast, zpow_neg, zpow_natCast, hten,
      mul_pow]
    push_cast
    field_simp

/-- A positive finite magnitude lies within the exponents for which a decimal is rounded. -/
theorem magnitude_bounds {rank : Nat} (hpos : 0 < rank) (h : rank < finiteRanks) :
    (10 : ℚ) ^ (-331 : Int) ≤ Binary64.magnitude rank ∧
      Binary64.magnitude rank < (10 : ℚ) ^ (310 : Int) := by
  have hs : 0 < Binary64.significand rank := Binary64.significand_pos hpos
  have hbounds : Binary64.significand rank < 2 ^ 53 ∧ -1074 ≤ Binary64.unitExponent rank ∧
      Binary64.unitExponent rank ≤ 971 := by
    unfold finiteRanks at h
    rw [Nat.pow_eq] at h
    rcases Binary64.significand_unitExponent_cases rank with ⟨_, hs, hu⟩ | ⟨_, hs, hu⟩ <;> omega
  obtain ⟨hlt, hlow, hhigh⟩ := hbounds
  constructor
  · have hpower : (2 : ℚ) ^ 1074 ≤ 10 ^ 331 :=
      calc (2 : ℚ) ^ 1074 = (2 ^ 13) ^ 82 * 2 ^ 8 := by rw [← pow_mul, ← pow_add]
        _ ≤ (10 ^ 4) ^ 82 * 10 ^ 3 := by gcongr <;> norm_num
        _ = 10 ^ 331 := by rw [← pow_mul, ← pow_add]
    calc (10 : ℚ) ^ (-331 : Int) = (10 ^ 331)⁻¹ := by rw [zpow_neg, zpow_ofNat]
      _ ≤ (2 ^ 1074)⁻¹ := by gcongr
      _ = 2 ^ (-1074 : Int) := by rw [zpow_neg, zpow_ofNat]
      _ ≤ 2 ^ Binary64.unitExponent rank := zpow_le_zpow_right₀ one_le_two hlow
      _ ≤ Binary64.magnitude rank := by
          refine le_mul_of_one_le_left (by positivity) ?_
          exact_mod_cast hs
  · calc Binary64.magnitude rank < 2 ^ 53 * 2 ^ Binary64.unitExponent rank := by
          unfold Binary64.magnitude
          gcongr
          exact_mod_cast hlt
      _ ≤ 2 ^ 53 * 2 ^ (971 : Int) := by
          have := zpow_le_zpow_right₀ (one_le_two (α := ℚ)) hhigh
          gcongr
      _ = (2 ^ 93) ^ 11 * 2 := by
          rw [zpow_ofNat, ← pow_add, ← pow_mul, ← pow_succ]
      _ ≤ (10 ^ 28) ^ 11 * 10 ^ 2 := by gcongr <;> norm_num
      _ = 10 ^ (310 : Int) := by
          rw [zpow_ofNat, ← pow_mul, ← pow_add]

theorem rank_exact {r : Nat} (hpos : 0 < r) (h : r < finiteRanks) : (exact r).rank = r := by
  have hdigits : 0 < (exact r).digits := by
    have hs := Binary64.significand_pos hpos
    simp only [exact, Binary64.numerator, Binary64.scaleUp, Nat.pow_eq]
    positivity
  obtain ⟨hlow, hhigh⟩ := magnitude_bounds hpos h
  rw [← exact_value] at hlow hhigh
  have hlog : -331 ≤ Int.log 10 (exact r).value :=
    (Int.zpow_le_iff_le_log (by decide) (value_pos hdigits)).mp (by rwa [Nat.cast_ofNat])
  have hlog' : Int.log 10 (exact r).value < 310 :=
    (Int.lt_zpow_iff_log_lt (by decide) (value_pos hdigits)).mp (by rwa [Nat.cast_ofNat])
  have hnotSmall : ¬ Int.log 10 (exact r).value + 1 < -330 := by omega
  have hnotLarge : ¬ 310 < Int.log 10 (exact r).value + 1 := by omega
  simp only [rank, size_eq_log hdigits, hdigits.ne', hnotSmall, hnotLarge, decide_false,
    Bool.or_self, Bool.false_eq_true, if_false]
  refine Binary64.rankOfRatio_of_div_eq (Binary64.scaleUp_pos (by decide) Nat.one_pos _) ?_
  rw [scaleUp_div_eq_value, exact_value]

/-- The decimal that is written for a magnitude has its rank. -/
theorem rank_shortest {r : Nat} (hpos : 0 < r) (h : r < finiteRanks) : (shortest r).rank = r := by
  unfold shortest
  cases hfind : (List.range 17).findSome? fun n =>
      (neighbours r (n + 1)).find? fun d => d.rank == r with
  | none => exact rank_exact hpos h
  | some d =>
      obtain ⟨n, -, hd⟩ := List.exists_of_findSome?_eq_some hfind
      simpa using List.find?_some hd

theorem digits_pos_of_rank_pos {d : Decimal} (h : 0 < d.rank) : 0 < d.digits := by
  rw [Nat.pos_iff_ne_zero]
  intro hzero
  simp [rank, hzero] at h

/-! ## Writing -/

theorem digitsValue_eq (cs : List Char) : digitsValue cs = Nat.ofDigitChars 10 cs 0 := by
  rw [Nat.ofDigitChars_eq_foldl]
  rfl

theorem digitsValue_append (as bs : List Char) :
    digitsValue (as ++ bs) = digitsValue as * 10 ^ bs.length + digitsValue bs := by
  rw [digitsValue_eq, Nat.ofDigitChars_append, Nat.ofDigitChars_eq_ofDigitChars_zero,
    ← digitsValue_eq, ← digitsValue_eq, Nat.mul_comm]

theorem digitsValue_toDigits (n : Nat) : digitsValue (Nat.toDigits 10 n) = n := by
  rw [digitsValue_eq, Nat.ofDigitChars_ten_toDigits]

theorem digitsValue_zeros (n : Nat) : digitsValue (List.replicate n '0') = 0 := by
  rw [digitsValue_eq, Nat.ofDigitChars_replicate_zero, Nat.mul_zero]

theorem digitsValue_cons_zero (cs : List Char) : digitsValue ('0' :: cs) = digitsValue cs := rfl

theorem isDigit_of_mem_zeros {n : Nat} : ∀ c ∈ List.replicate n '0', c.isDigit = true := by
  intro c hc
  rw [List.eq_of_mem_replicate hc]
  rfl

theorem isDigits_zero : IsDigits ['0'] := ⟨by simp, by simp⟩

theorem isDigits_toDigits (n : Nat) : IsDigits (Nat.toDigits 10 n) :=
  ⟨Nat.toDigits_ne_nil, fun _ hc => Nat.isDigit_of_mem_toDigits (by decide) (by decide) hc⟩

/-- The significant digits are all digits but zeros at the end. -/
theorem toDigits_eq_significantDigits (d : Decimal) :
    ∃ z, Nat.toDigits 10 d.digits = significantDigits d ++ List.replicate z '0' := by
  have hzeros : ∀ c ∈ (Nat.toDigits 10 d.digits).reverse.takeWhile (· == '0'), c = '0' := by
    intro c hc
    simpa using List.mem_takeWhile_imp hc
  have hsplit := List.takeWhile_append_dropWhile (p := (· == '0'))
    (l := (Nat.toDigits 10 d.digits).reverse)
  rw [List.eq_replicate_of_mem hzeros] at hsplit
  refine ⟨((Nat.toDigits 10 d.digits).reverse.takeWhile (· == '0')).length, ?_⟩
  rw [significantDigits, ← List.reverse_replicate, ← List.reverse_append, hsplit,
    List.reverse_reverse]

theorem isDigits_significantDigits {d : Decimal} (h : 0 < d.digits) :
    IsDigits (significantDigits d) := by
  obtain ⟨z, hz⟩ := toDigits_eq_significantDigits d
  constructor
  · intro hnil
    have hvalue := digitsValue_toDigits d.digits
    rw [hz, hnil, List.nil_append, digitsValue_zeros] at hvalue
    omega
  · intro c hc
    exact (isDigits_toDigits d.digits).2 c (hz ▸ List.mem_append_left _ hc)

/-- The characters are a numeral of this value. -/
def SpellsValue (cs : List Char) (q : ℚ) : Prop := ∃ d, Spells cs d ∧ d.value = q

theorem spellsValue_of_parts {whole f fs x : List Char} {e : Int} {q : ℚ} (hwhole : IsDigits whole)
    (hf : SpellsFraction f fs) (hx : SpellsExponent x e)
    (hq : digitsValue (whole ++ fs) * (10 : ℚ) ^ (e - fs.length) = q) :
    SpellsValue (whole ++ (f ++ x)) q :=
  ⟨_, .numeral hwhole hf hx, hq⟩

theorem spells_positional {ds : List Char} (hds : IsDigits ds) (point : Int) :
    SpellsValue (positional ds point) (digitsValue ds * (10 : ℚ) ^ (point - ds.length)) := by
  unfold positional
  split
  · next hpoint =>
      -- a zero, a point, and zeros before the digits
      have hfraction : IsDigits (List.replicate (-point).toNat '0' ++ ds) :=
        ⟨by simp [hds.1], List.forall_mem_append.mpr ⟨isDigit_of_mem_zeros, hds.2⟩⟩
      have h := spellsValue_of_parts (e := 0) isDigits_zero (.point hfraction) .absent rfl
      have hvalue : digitsValue (['0'] ++ (List.replicate (-point).toNat '0' ++ ds)) =
          digitsValue ds := by
        rw [List.singleton_append, digitsValue_cons_zero, digitsValue_append, digitsValue_zeros,
          Nat.zero_mul, Nat.zero_add]
      have hexponent : (0 : Int) - (List.replicate (-point).toNat '0' ++ ds).length =
          point - ds.length := by
        rw [List.length_append, List.length_replicate]
        omega
      rw [hvalue, hexponent] at h
      simpa using h
  · next hpoint =>
      simp only
      split
      · next hlength =>
          -- the digits, zeros up to the point, and one zero behind it
          have h := spellsValue_of_parts (e := 0)
            (hds.append (isDigit_of_mem_zeros (n := point.toNat - ds.length)))
            (.point isDigits_zero) .absent rfl
          have hvalue :
              (digitsValue (ds ++ List.replicate (point.toNat - ds.length) '0' ++ ['0']) : ℚ) *
                10 ^ ((0 : Int) - (['0'] : List Char).length) =
              digitsValue ds * 10 ^ (point - ds.length) := by
            have hshift : point - ds.length = ((point.toNat - ds.length : Nat) : Int) := by omega
            have hzero : digitsValue ['0'] = 0 := rfl
            have htenth : (10 : ℚ) ^ ((0 : Int) - (['0'] : List Char).length) = 1 / 10 := by
              norm_num
            rw [digitsValue_append, digitsValue_append, digitsValue_zeros, hzero, hshift,
              zpow_natCast, htenth, List.length_replicate, List.length_singleton]
            push_cast
            ring
          rw [hvalue] at h
          simpa using h
      · next hlength =>
          -- the point stands among the digits
          have htake : IsDigits (ds.take point.toNat) :=
            ⟨by simp [hds.1]; omega, fun c hc => hds.2 c (List.mem_of_mem_take hc)⟩
          have hdrop : IsDigits (ds.drop point.toNat) :=
            ⟨by simp; omega, fun c hc => hds.2 c (List.mem_of_mem_drop hc)⟩
          have h := spellsValue_of_parts (e := 0) htake (.point hdrop) .absent rfl
          have hexponent : (0 : Int) - (ds.drop point.toNat).length = point - ds.length := by
            rw [List.length_drop]
            omega
          rw [List.take_append_drop, hexponent] at h
          simpa using h

theorem spells_scientific {ds : List Char} (hds : IsDigits ds) (e : Int) :
    SpellsValue (scientific ds e) (digitsValue ds * (10 : ℚ) ^ (e + 1 - ds.length)) := by
  -- the exponent, its digits filled up with zeros
  have hexponent : SpellsExponent
      ('e' :: (if e < 0 then '-' else '+') ::
        (List.replicate (2 - (Nat.toDigits 10 e.natAbs).length) '0' ++
          Nat.toDigits 10 e.natAbs)) e := by
    have hdigits : IsDigits (List.replicate (2 - (Nat.toDigits 10 e.natAbs).length) '0' ++
        Nat.toDigits 10 e.natAbs) :=
      ⟨by simp [Nat.toDigits_ne_nil],
        List.forall_mem_append.mpr ⟨isDigit_of_mem_zeros, (isDigits_toDigits e.natAbs).2⟩⟩
    have hvalue : digitsValue (List.replicate (2 - (Nat.toDigits 10 e.natAbs).length) '0' ++
        Nat.toDigits 10 e.natAbs) = e.natAbs := by
      rw [digitsValue_append, digitsValue_zeros, digitsValue_toDigits, Nat.zero_mul, Nat.zero_add]
    by_cases he : e < 0
    · have h := SpellsExponent.minus (.inl rfl) hdigits
      rw [hvalue, Int.ofNat_natAbs_of_nonpos he.le, neg_neg] at h
      simpa [he] using h
    · have h := SpellsExponent.plus (.inl rfl) hdigits
      rw [hvalue, Int.natAbs_of_nonneg (Int.not_lt.mp he)] at h
      simpa [he] using h
  obtain ⟨d, rest, rfl, hd⟩ := hds.first
  have hfirst : IsDigits [d] := ⟨by simp, by simpa using hd⟩
  cases rest with
  | nil =>
      have h := spellsValue_of_parts hfirst .absent hexponent rfl
      simpa [scientific] using h
  | cons c rest =>
      have hrest : IsDigits (c :: rest) :=
        ⟨by simp, fun b hb => hds.2 b (List.mem_cons_of_mem d hb)⟩
      have h := spellsValue_of_parts hfirst (.point hrest) hexponent rfl
      have hlength : e - (c :: rest).length = e + 1 - (d :: c :: rest).length := by
        simp only [List.length_cons]
        omega
      rw [hlength] at h
      simpa [scientific] using h

/-- The text of a decimal is a numeral of its value. -/
theorem spells_text {d : Decimal} (h : 0 < d.digits) : SpellsValue d.text d.value := by
  obtain ⟨z, hz⟩ := toDigits_eq_significantDigits d
  have hds := isDigits_significantDigits h
  have hpoint : ((Nat.toDigits 10 d.digits).length : Int) + d.exponent -
      (significantDigits d).length = z + d.exponent := by
    rw [hz, List.length_append, List.length_replicate]
    omega
  have hvalue :
      d.value = digitsValue (significantDigits d) * (10 : ℚ) ^ ((z : Int) + d.exponent) := by
    have hdigits : d.digits = digitsValue (significantDigits d) * 10 ^ z := by
      have := digitsValue_toDigits d.digits
      rw [hz, digitsValue_append, digitsValue_zeros, List.length_replicate, Nat.add_zero] at this
      exact this.symm
    rw [value, zpow_add₀ (by decide), zpow_natCast, ← mul_assoc, hdigits]
    push_cast
    rfl
  unfold text
  simp only
  rw [hvalue, ← hpoint]
  split
  · exact spells_positional hds _
  · have hscientific := spells_scientific hds
      (((Nat.toDigits 10 d.digits).length : Int) + d.exponent - 1)
    rwa [Int.sub_add_cancel] at hscientific

end Decimal

/-! ## Numbers -/

namespace Binary64

open Decimal

/-- The text of a finite magnitude is a numeral of its rank. -/
theorem spells_magnitudeText {rank : Nat} (h : rank < finiteRanks) :
    ∃ d, Spells (magnitudeText rank) d ∧ d.rank = rank := by
  unfold magnitudeText
  rcases Nat.eq_zero_or_pos rank with rfl | hpos
  · have hspells : Spells (['0'] ++ (['.', '0'] ++ [])) (ofParts ['0'] ['0'] 0) :=
      .numeral isDigits_zero (.point isDigits_zero) .absent
    exact ⟨_, hspells, rfl⟩
  · rw [if_neg hpos.ne']
    have hrank := rank_shortest hpos h
    have hdigits : 0 < (shortest rank).digits := digits_pos_of_rank_pos (hrank.symm ▸ hpos)
    obtain ⟨d, hspells, hvalue⟩ := spells_text hdigits
    have hd : 0 < d.digits := by
      have hpositive := value_pos hdigits
      rw [← hvalue, Decimal.value] at hpositive
      rw [Nat.pos_iff_ne_zero]
      intro hzero
      simp [hzero] at hpositive
    exact ⟨d, hspells, (rank_eq_of_value_eq hd hdigits hvalue).trans hrank⟩

/-- The text of a number that is not negative: a numeral that reads back, or the word for
infinity. -/
theorem text_ofRank (rank : Nat) :
    (rank < finiteRanks ∧ ∃ d, Spells (ofRank false rank).text.toList d ∧ d.rank = rank) ∨
      (finiteRanks ≤ rank ∧ (ofRank false rank).text = "inf") := by
  by_cases h : rank < finiteRanks
  · refine .inl ⟨h, ?_⟩
    have htext : (ofRank false rank).text.toList = magnitudeText rank := by
      simp [ofRank, h, text]
    rw [htext]
    exact spells_magnitudeText h
  · exact .inr ⟨Nat.not_lt.mp h, by simp [ofRank, h, text]⟩

/-- Two numbers that are not negative and have the same text are the same number. -/
theorem text_ofRank_injective {rank rank' : Nat}
    (h : (ofRank false rank).text = (ofRank false rank').text) :
    ofRank false rank = ofRank false rank' := by
  have hne : ∀ {cs : List Char} {d : Decimal}, Spells cs d → cs ≠ "inf".toList := by
    rintro cs d hspells rfl
    obtain ⟨c, rest, hcs, hc⟩ := hspells.first
    simp only [String.toList] at hcs
    cases hcs
    cases hc
  rcases text_ofRank rank with ⟨-, d, hd, rfl⟩ | ⟨hrank, htext⟩
  · rcases text_ofRank rank' with ⟨-, d', hd', rfl⟩ | ⟨-, htext'⟩
    · rw [h] at hd
      rw [Option.some.inj (hd.read?_eq.symm.trans hd'.read?_eq)]
    · exact absurd (congrArg String.toList (h.trans htext')) (hne hd)
  · rcases text_ofRank rank' with ⟨-, d', hd', -⟩ | ⟨hrank', -⟩
    · exact absurd (congrArg String.toList (h.symm.trans htext)) (hne hd')
    · simp [ofRank, Nat.not_lt.mpr hrank, Nat.not_lt.mpr hrank']

end Binary64

end PlainMath
