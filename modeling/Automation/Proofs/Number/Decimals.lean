/-
# Decimals that read back

A decimal reads back as a rank if it is near enough to the magnitude of the rank,
and the rank that it reads back as depends on its value only
(`Double.Decimal.rank_congr`, `Double.Decimal.rank_of_near`). A grid of seventeen
digits has a point that near: half a step of it is at most one part in
`2 * 10 ^ 16` of what is approximated. So the search for the shortest decimal of a
finite double finds one, and what it finds reads back
(`Double.shortest_spec`).

The exponent of the leading digit is estimated from the binary one. Over the range
of the doubles the estimate is off by at most one (`Double.tenPow_estimate`), so a
decimal in the range is never taken for one that is too large or too small
(`Double.ofDecimal_eq`).

Key definitions: `Double.Decimal.value`.
Key theorems: `Double.Decimal.rank_congr`, `Double.Decimal.rank_of_near`,
`Double.tenPow_leadingExponent`, `Double.shortest_spec`, `Double.ofDecimal_eq`.
-/
import Automation.Number.Shortest
import Automation.Proofs.Number.Rounding
import Mathlib

namespace Automation.Double

/-! ### Powers of two and of ten -/

theorem zpow_le_of_pow_le {x y : ℚ} (hx : 0 < x) (hy : 1 < y) {a b : ℕ} (ha : a ≠ 0) {k j : ℤ}
    (h : (x ^ a) ^ k ≤ (y ^ b) ^ k) (hweight : b * k ≤ a * j) : x ^ k ≤ y ^ j := by
  have hy0 : 0 < y := by linarith
  have hpow : (x ^ k) ^ a ≤ (y ^ j) ^ a :=
    calc (x ^ k) ^ a = (x ^ a) ^ k := by rw [← zpow_natCast, ← zpow_natCast, zpow_comm]
      _ ≤ (y ^ b) ^ k := h
      _ = y ^ ((b : ℤ) * k) := by rw [zpow_mul, zpow_natCast]
      _ ≤ y ^ ((a : ℤ) * j) := zpow_le_zpow_right₀ hy.le hweight
      _ = (y ^ j) ^ a := by rw [mul_comm, zpow_mul, zpow_natCast]
  exact (pow_le_pow_iff_left₀ (zpow_pos hx k).le (zpow_pos hy0 j).le ha).1 hpow

/-- Powers are in order if their exponents are, weighed by one pair of powers for
exponents from zero on and by another for those below. -/
theorem zpow_le_zpow_of {x y : ℚ} (hx : 0 < x) (hy : 1 < y) {a b c d : ℕ} (ha : a ≠ 0) (hc : c ≠ 0)
    (hup : x ^ a ≤ y ^ b) (hdown : y ^ d ≤ x ^ c) {k j : ℤ} (hk : b * k ≤ a * j)
    (hj : d * k ≤ c * j) : x ^ k ≤ y ^ j := by
  have hy0 : 0 < y := by linarith
  rcases le_total 0 k with hsign | hsign
  · exact zpow_le_of_pow_le hx hy ha (zpow_le_zpow_left₀ hsign (pow_pos hx a).le hup) hk
  · refine zpow_le_of_pow_le hx hy hc (b := d) ?_ hj
    obtain ⟨i, rfl⟩ : ∃ i : ℕ, k = -i := ⟨k.natAbs, by omega⟩
    rw [zpow_neg, zpow_neg, zpow_natCast, zpow_natCast]
    exact inv_anti₀ (pow_pos (pow_pos hy0 d) i) (pow_le_pow_left₀ (pow_pos hy0 d).le hdown i)

/-- Decimal powers below binary ones, by `10 ^ 59 < 2 ^ 196` and `2 ^ 93 < 10 ^ 28`. -/
theorem tenPow_le_twoPow {k j : ℤ} (hup : 196 * k ≤ 59 * j) (hdown : 93 * k ≤ 28 * j) :
    (10 : ℚ) ^ k ≤ 2 ^ j :=
  zpow_le_zpow_of (a := 59) (b := 196) (c := 28) (d := 93) (by norm_num) (by norm_num)
    (by decide) (by decide) (by norm_num) (by norm_num) hup hdown

/-- Binary powers below decimal ones, by the same pairs. -/
theorem twoPow_le_tenPow {j k : ℤ} (hup : 28 * j ≤ 93 * k) (hdown : 59 * j ≤ 196 * k) :
    (2 : ℚ) ^ j ≤ 10 ^ k :=
  zpow_le_zpow_of (a := 93) (b := 28) (c := 196) (d := 59) (by norm_num) (by norm_num)
    (by decide) (by decide) (by norm_num) (by norm_num) hup hdown

/-- **The estimate of a decimal exponent** from a binary one is off by little. -/
theorem tenPow_estimate {j : ℤ} (hlow : -20000 ≤ j) (hhigh : j ≤ 20000) :
    (10 : ℚ) ^ (j * 30103 / 100000 - 1) ≤ 2 ^ j ∧ (2 : ℚ) ^ j ≤ 10 ^ (j * 30103 / 100000 + 2) :=
  ⟨tenPow_le_twoPow (by omega) (by omega), twoPow_le_tenPow (by omega) (by omega)⟩

/-! ### Fractions -/

theorem scaleByTen_ratio (num den : Nat) (e : Int) :
    ((scaleByTen num den e).1 : ℚ) / (scaleByTen num den e).2 = num / den * 10 ^ e := by
  unfold scaleByTen
  split
  · rename_i h
    obtain ⟨n, rfl⟩ := Int.eq_ofNat_of_zero_le h
    simp only [Int.toNat_natCast, Nat.pow_eq, Nat.cast_mul, Nat.cast_pow, Nat.cast_ofNat, zpow_natCast]
    ring
  · obtain ⟨n, rfl⟩ : ∃ n : ℕ, e = -n := ⟨e.natAbs, by omega⟩
    simp only [Int.natAbs_neg, Int.natAbs_natCast, Nat.pow_eq, Nat.cast_mul, Nat.cast_pow, Nat.cast_ofNat,
      zpow_neg, zpow_natCast]
    rw [← div_div]
    rfl

theorem scaleByTen_pos (num : Nat) {den : Nat} (hden : 0 < den) (e : Int) : 0 < (scaleByTen num den e).2 := by
  unfold scaleByTen
  split
  · exact hden
  · exact Nat.mul_pos hden (Nat.pow_pos (by decide))

theorem tenPowerLe_iff {num den : Nat} (hden : 0 < den) (e : Int) :
    tenPowerLe num den e = true ↔ (10 : ℚ) ^ e ≤ num / den := by
  have hpos : (0 : ℚ) < (scaleByTen num den (-e)).2 := by exact_mod_cast scaleByTen_pos _ hden (-e)
  have hten : (0 : ℚ) < 10 ^ e := zpow_pos (by norm_num) e
  have hratio := scaleByTen_ratio num den (-e)
  rw [zpow_neg, ← div_eq_mul_inv] at hratio
  calc tenPowerLe num den e = true
      ↔ (scaleByTen num den (-e)).2 ≤ (scaleByTen num den (-e)).1 := decide_eq_true_iff
    _ ↔ ((scaleByTen num den (-e)).2 : ℚ) ≤ (scaleByTen num den (-e)).1 := Nat.cast_le.symm
    _ ↔ 1 ≤ ((scaleByTen num den (-e)).1 : ℚ) / (scaleByTen num den (-e)).2 := (one_le_div hpos).symm
    _ ↔ (10 : ℚ) ^ e ≤ num / den := by rw [hratio, one_le_div hten]

/-! ### The values of decimals -/

namespace Decimal

def value (d : Decimal) : ℚ := d.digits * 10 ^ d.exponent

theorem value_eq (d : Decimal) :
    ((scaleByTen d.digits 1 d.exponent).1 : ℚ) / (scaleByTen d.digits 1 d.exponent).2 = d.value := by
  rw [scaleByTen_ratio, value, Nat.cast_one, div_one]

/-- Decimals of one value read back as one rank. -/
theorem rank_congr {c d : Decimal} (h : c.value = d.value) : c.rank = d.rank := by
  have hc := scaleByTen_pos c.digits one_pos c.exponent
  have hd := scaleByTen_pos d.digits one_pos d.exponent
  rw [← value_eq c, ← value_eq d, div_eq_div_iff (by positivity) (by positivity)] at h
  exact rankOfRatio_congr hc hd (by exact_mod_cast h)

/-- A decimal near the magnitude of a rank reads back as the rank. -/
theorem rank_of_near {d : Decimal} {rank : Nat}
    (h : 2 * 10 ^ 16 * |d.value - quantaOf rank / unitQuanta| ≤ (quantaOf rank : ℚ) / unitQuanta) :
    d.rank = rank := by
  have hden := scaleByTen_pos d.digits one_pos d.exponent
  have hvalue := d.value_eq
  generalize hscaled : scaleByTen d.digits 1 d.exponent = scaled at hden hvalue
  obtain ⟨n, k⟩ := scaled
  simp only at hden hvalue
  have hunit : (0 : ℚ) < unitQuanta := by exact_mod_cast unitQuanta_pos
  have hk : (0 : ℚ) < k := by exact_mod_cast hden
  have herror : |d.value - quantaOf rank / unitQuanta| * (k * unitQuanta)
      = |(n * unitQuanta : ℚ) - quantaOf rank * k| :=
    calc |d.value - quantaOf rank / unitQuanta| * (k * unitQuanta)
        = |(d.value - quantaOf rank / unitQuanta) * (k * unitQuanta)| := by
          rw [abs_mul, abs_of_pos (mul_pos hk hunit)]
      _ = |(n * unitQuanta : ℚ) - quantaOf rank * k| := by
          rw [← hvalue]
          field_simp
  have hexact : (quantaOf rank : ℚ) / unitQuanta * (k * unitQuanta) = quantaOf rank * k := by
    field_simp
  have hnear : 2 * 10 ^ 16 * |(n * unitQuanta : ℚ) - quantaOf rank * k| ≤ quantaOf rank * k := by
    rw [← herror, ← hexact, ← mul_assoc]
    exact mul_le_mul_of_nonneg_right h (mul_pos hk hunit).le
  have hbelow := neg_abs_le ((n * unitQuanta : ℚ) - quantaOf rank * k)
  have habove := le_abs_self ((n * unitQuanta : ℚ) - quantaOf rank * k)
  have hlow : (2 * 10 ^ 16 * (quantaOf rank * k) : ℚ)
      ≤ 2 * 10 ^ 16 * (n * unitQuanta) + quantaOf rank * k := by linarith
  have hhigh : (2 * 10 ^ 16 * (n * unitQuanta) : ℚ)
      ≤ 2 * 10 ^ 16 * (quantaOf rank * k) + quantaOf rank * k := by linarith
  rw [Decimal.rank, hscaled]
  exact rankOfRatio_of_near hden ⟨by exact_mod_cast hlow, by exact_mod_cast hhigh⟩

end Decimal

/-! ### Points of a grid -/

/-- Of the two neighbours on a grid one is at most half a step away. -/
theorem exists_neighbour (num : Nat) {den : Nat} (hden : 0 < den) :
    ∃ m, (m = num / den ∨ m = num / den + 1) ∧ 2 * |(m : ℚ) - num / den| ≤ 1 := by
  have hpos : (0 : ℚ) < den := by exact_mod_cast hden
  have hsplit : (num : ℚ) / den = (num / den : ℕ) + (num % den : ℕ) / den := by
    have hnum : (num : ℚ) = den * (num / den : ℕ) + (num % den : ℕ) := by
      exact_mod_cast (Nat.div_add_mod num den).symm
    rw [hnum, add_div, mul_div_cancel_left₀ _ hpos.ne']
  have hrest : ((num % den : ℕ) : ℚ) / den ≤ 1 := by
    rw [div_le_one hpos]
    exact_mod_cast (Nat.mod_lt num hden).le
  have hrest' : (0 : ℚ) ≤ ((num % den : ℕ) : ℚ) / den := by positivity
  rcases le_total (2 * (((num % den : ℕ) : ℚ) / den)) 1 with h | h
  · refine ⟨_, .inl rfl, ?_⟩
    rw [hsplit, sub_add_cancel_left, abs_neg, abs_of_nonneg hrest']
    exact h
  · refine ⟨_, .inr rfl, ?_⟩
    rw [hsplit, Nat.cast_add, Nat.cast_one, add_sub_add_left_eq_sub, abs_of_nonneg (by linarith)]
    linarith

/-- What the search on a grid gives reads back. -/
theorem rank_of_onGrid {rank num den : Nat} {e : Int} {d : Decimal}
    (h : onGrid rank num den e = some d) : d.rank = rank := by
  simpa using List.find?_some h

theorem exponent_of_onGrid {rank num den : Nat} {e : Int} {d : Decimal}
    (h : onGrid rank num den e = some d) : d.exponent = e := by
  have hmem := List.mem_of_find?_eq_some h
  split at hmem <;> simp at hmem <;> rcases hmem with rfl | rfl <;> rfl

/-- The search on a grid finds a neighbour that reads back. -/
theorem isSome_onGrid {rank num den m : Nat} {e : Int}
    (hm : m = (scaleByTen num den (-e)).1 / (scaleByTen num den (-e)).2
      ∨ m = (scaleByTen num den (-e)).1 / (scaleByTen num den (-e)).2 + 1)
    (hrank : (⟨m, e⟩ : Decimal).rank = rank) : (onGrid rank num den e).isSome = true := by
  simp only [onGrid]
  rw [List.find?_isSome]
  refine ⟨⟨m, e⟩, ?_, by simpa using hrank⟩
  split <;> rcases hm with rfl | rfl <;> simp

/-- **A grid of seventeen digits has a point that reads back.** -/
theorem isSome_onGrid_of_le {rank : Nat} {e : Int}
    (h : (10 : ℚ) ^ (e + 16) ≤ quantaOf rank / unitQuanta) :
    (onGrid rank (quantaOf rank) unitQuanta e).isSome = true := by
  have hden := scaleByTen_pos (quantaOf rank) unitQuanta_pos (-e)
  obtain ⟨m, hm, hhalf⟩ := exists_neighbour (scaleByTen (quantaOf rank) unitQuanta (-e)).1 hden
  have hstep : (0 : ℚ) < 10 ^ e := zpow_pos (by norm_num) e
  refine isSome_onGrid hm (Decimal.rank_of_near ?_)
  have herror : (⟨m, e⟩ : Decimal).value - quantaOf rank / unitQuanta
      = (m - quantaOf rank / unitQuanta * 10 ^ (-e)) * 10 ^ e := by
    rw [Decimal.value, zpow_neg, sub_mul, inv_mul_cancel_right₀ hstep.ne']
  rw [scaleByTen_ratio] at hhalf
  calc 2 * 10 ^ 16 * |(⟨m, e⟩ : Decimal).value - quantaOf rank / unitQuanta|
      = 2 * |(m : ℚ) - quantaOf rank / unitQuanta * 10 ^ (-e)| * (10 ^ e * 10 ^ 16) := by
        rw [herror, abs_mul, abs_of_pos hstep]
        ring
    _ ≤ 1 * (10 ^ e * 10 ^ 16) := by
        exact mul_le_mul_of_nonneg_right hhalf (by positivity)
    _ = 10 ^ (e + 16) := by
        rw [one_mul, zpow_add₀ (by norm_num)]
        norm_num
    _ ≤ quantaOf rank / unitQuanta := h

/-! ### The shortest decimal -/

/-- The exponent of the leading digit is not too large. -/
theorem tenPow_leadingExponent {num bits : Nat} (hnum : 0 < num) (hlog : num.log2 ≤ 20000)
    (hbits : bits ≤ 20000) : (10 : ℚ) ^ leadingExponent num (2 ^ bits) ≤ num / (2 ^ bits : ℕ) := by
  have hden : 0 < 2 ^ bits := Nat.two_pow_pos bits
  have hbinary : (2 : ℚ) ^ ((num.log2 : ℤ) - bits) ≤ num / (2 ^ bits : ℕ) := by
    rw [zpow_sub₀ (by norm_num), zpow_natCast, zpow_natCast, Nat.cast_pow, Nat.cast_ofNat]
    refine div_le_div_of_nonneg_right ?_ (by positivity)
    exact_mod_cast Nat.log2_self_le hnum.ne'
  have hestimate := (tenPow_estimate (j := (num.log2 : ℤ) - bits) (by omega) (by omega)).1
  simp only [leadingExponent, Nat.log2_two_pow]
  split
  · exact hestimate.trans hbinary
  · rename_i hle
    split
    · rename_i hnext
      exact (tenPowerLe_iff hden _).1 hnext
    · exact (tenPowerLe_iff hden _).1 (by simpa using hle)

/-- Nor is it too small. -/
theorem le_leadingExponent (num : Nat) {bits : Nat} (hbits : bits ≤ 1074) :
    -400 ≤ leadingExponent num (2 ^ bits) := by
  simp only [leadingExponent, Nat.log2_two_pow]
  split
  · omega
  · split <;> omega

theorem quantaOf_pos {rank : Nat} (h : 0 < rank) : 0 < quantaOf rank := by
  obtain ⟨s, m, hrank, hquanta, -, hnormal⟩ := exists_isSplit rank
  have hm : 0 < m := by
    rw [normalRank_eq] at hnormal
    rcases hnormal with rfl | hnormal <;> omega
  rw [hquanta]
  exact Nat.mul_pos hm (Nat.two_pow_pos s)

theorem log2_quantaOf {rank : Nat} (hpos : 0 < rank) (hfinite : rank < finiteRanks) :
    (quantaOf rank).log2 < 2100 := by
  obtain ⟨s, m, hrank, hquanta, hm, -⟩ := exists_isSplit rank
  have hs : s < 2047 := by
    have hle : s * normalRank < 2047 * normalRank := by
      have hranks := finiteRanks_eq
      omega
    exact Nat.lt_of_mul_lt_mul_right hle
  have hlt : quantaOf rank < 2 ^ (53 + s) := by
    rw [hquanta, Nat.pow_add]
    exact Nat.mul_lt_mul_of_pos_right hm (Nat.two_pow_pos s)
  have hlog := (Nat.log2_lt (quantaOf_pos hpos).ne').2 hlt
  omega

/-- **The shortest decimal of a finite magnitude reads back.** -/
theorem shortest_spec {rank : Nat} (hpos : 0 < rank) (hfinite : rank < finiteRanks) :
    (shortest rank).rank = rank ∧ -420 ≤ (shortest rank).exponent := by
  have hlead : (10 : ℚ) ^ leadingExponent (quantaOf rank) unitQuanta ≤ quantaOf rank / unitQuanta := by
    have hlog := log2_quantaOf hpos hfinite
    rw [unitQuanta_eq]
    exact tenPow_leadingExponent (quantaOf_pos hpos) (by omega) (by decide)
  have hleast : -400 ≤ leadingExponent (quantaOf rank) unitQuanta := by
    rw [unitQuanta_eq]
    exact le_leadingExponent _ (le_refl 1074)
  simp only [shortest]
  generalize leadingExponent (quantaOf rank) unitQuanta = e at hlead hleast
  have hlast : (onGrid rank (quantaOf rank) unitQuanta (e - (16 : ℕ))).isSome = true :=
    isSome_onGrid_of_le (by simpa using hlead)
  cases hfound : (List.range 17).findSome? fun (n : Nat) =>
      onGrid rank (quantaOf rank) unitQuanta (e - n) with
  | none =>
    have hnone := List.findSome?_eq_none_iff.1 hfound 16 (by simp)
    rw [hnone] at hlast
    cases hlast
  | some d =>
    obtain ⟨n, hn, hd⟩ := List.exists_of_findSome?_eq_some hfound
    refine ⟨rank_of_onGrid hd, ?_⟩
    have hexponent := exponent_of_onGrid hd
    have hlt : n < 17 := List.mem_range.1 hn
    rw [Option.getD_some, hexponent]
    omega

/-! ### Decimals as doubles -/

theorem tenPow_le {k j : ℤ} (h : k ≤ j) : (10 : ℚ) ^ k ≤ 10 ^ j :=
  zpow_le_zpow_right₀ (by norm_num) h

/-- What reads back as a positive finite rank lies in the range of the doubles. -/
theorem Decimal.bounds_of_rank {d : Decimal} (hpos : 0 < d.rank) (hfinite : d.rank < finiteRanks) :
    (10 : ℚ) ^ (-324 : ℤ) ≤ d.value ∧ d.value < 10 ^ (311 : ℤ) := by
  have hden := scaleByTen_pos d.digits one_pos d.exponent
  have hvalue := d.value_eq
  rw [rank] at hpos hfinite
  generalize scaleByTen d.digits 1 d.exponent = scaled at hden hvalue hpos hfinite
  obtain ⟨n, k⟩ := scaled
  simp only at hden hvalue hpos hfinite
  have hk : (0 : ℚ) < k := by exact_mod_cast hden
  have hunit : (0 : ℚ) < 2 * unitQuanta := by exact_mod_cast Nat.mul_pos two_pos unitQuanta_pos
  constructor
  · -- half a quantum and more
    have hhalf : (k : ℚ) ≤ n * (2 * unitQuanta) := by
      have hle : k ≤ 2 * (n * unitQuanta) := by
        by_contra hlt
        rw [rankOfRatio_eq_zero (by omega)] at hpos
        exact absurd hpos (by decide)
      calc (k : ℚ) ≤ 2 * (n * unitQuanta) := by exact_mod_cast hle
        _ = n * (2 * unitQuanta) := by ring
    calc (10 : ℚ) ^ (-324 : ℤ) = ((10 : ℚ) ^ (324 : ℤ))⁻¹ := zpow_neg ..
      _ ≤ ((2 : ℚ) ^ ((quantumBits + 1 : ℕ) : ℤ))⁻¹ :=
          inv_anti₀ (zpow_pos (by norm_num) _) (twoPow_le_tenPow (by decide) (by decide))
      _ = (2 * unitQuanta : ℚ)⁻¹ := by
          rw [zpow_natCast, pow_succ', unitQuanta_eq, Nat.cast_pow, Nat.cast_ofNat]
      _ ≤ n / k := by rwa [inv_le_iff_one_le_mul₀ hunit, div_mul_eq_mul_div, one_le_div hk]
      _ = d.value := hvalue
  · by_contra hle
    have hlarge : 2 ^ 1030 * k ≤ n := by
      have hpow : (2 : ℚ) ^ (1030 : ℕ) ≤ n / k := by
        calc (2 : ℚ) ^ (1030 : ℕ) = 2 ^ (1030 : ℤ) := (zpow_natCast ..).symm
          _ ≤ 10 ^ (311 : ℤ) := twoPow_le_tenPow (by decide) (by decide)
          _ ≤ n / k := by rw [hvalue]; exact not_lt.1 hle
      rw [le_div_iff₀ hk] at hpow
      exact_mod_cast hpow
    exact absurd (finiteRanks_le_rankOfRatio hden (by decide) hlarge) (by omega)

theorem Decimal.digits_pos {d : Decimal} (hpos : 0 < d.rank) (hfinite : d.rank < finiteRanks) :
    0 < d.digits := by
  obtain ⟨hleast, -⟩ := bounds_of_rank hpos hfinite
  rw [Nat.pos_iff_ne_zero]
  intro hzero
  rw [value, hzero, Nat.cast_zero, zero_mul] at hleast
  exact absurd hleast (not_le.2 (zpow_pos (by norm_num) _))

theorem Decimal.twoPow_le_digits {d : Decimal} (hdigits : d.digits ≠ 0) :
    (2 : ℚ) ^ (d.digits.log2 : ℤ) ≤ d.digits := by
  rw [zpow_natCast]
  exact_mod_cast Nat.log2_self_le hdigits

theorem Decimal.digits_le_twoPow (d : Decimal) :
    (d.digits : ℚ) ≤ 2 ^ (d.digits.log2 : ℤ) * 10 := by
  have hlt : d.digits ≤ 2 ^ d.digits.log2 * 10 := by
    have hself := Nat.lt_log2_self (n := d.digits)
    rw [Nat.pow_succ] at hself
    omega
  rw [zpow_natCast]
  exact_mod_cast hlt

/-- Unless the exponent is very small, a decimal within the range has not too many digits. -/
theorem Decimal.log2_digits_le {d : Decimal} (hdigits : d.digits ≠ 0)
    (hmost : d.value < 10 ^ (311 : ℤ)) (hexponent : -1000 ≤ d.exponent) : d.digits.log2 ≤ 20000 := by
  by_contra hlong
  have hbound : (d.digits : ℚ) * 10 ^ (-1000 : ℤ) < 10 ^ (311 : ℤ) :=
    (mul_le_mul_of_nonneg_left (tenPow_le hexponent) (Nat.cast_nonneg _)).trans_lt hmost
  have hpow : (10 : ℚ) ^ (1311 : ℤ) ≤ d.digits :=
    (tenPow_le_twoPow (by omega) (by omega)).trans (twoPow_le_digits hdigits)
  have hscaled : (10 : ℚ) ^ (311 : ℤ) ≤ d.digits * 10 ^ (-1000 : ℤ) :=
    calc (10 : ℚ) ^ (311 : ℤ) = 10 ^ (1311 : ℤ) * 10 ^ (-1000 : ℤ) :=
          zpow_add₀ (by norm_num) 1311 (-1000)
      _ ≤ d.digits * 10 ^ (-1000 : ℤ) :=
          mul_le_mul_of_nonneg_right hpow (zpow_pos (by norm_num) _).le
  exact absurd hbound (not_lt.2 hscaled)

/-- What a decimal within the range is estimated at is neither too large nor too small. -/
theorem Decimal.estimate_bounds {d : Decimal} (hpos : 0 < d.rank) (hfinite : d.rank < finiteRanks)
    (hexponent : -1000 ≤ d.exponent) :
    ¬ 320 < (d.digits.log2 : ℤ) * 30103 / 100000 + d.exponent
      ∧ ¬ (d.digits.log2 : ℤ) * 30103 / 100000 + d.exponent < -340 := by
  obtain ⟨hleast, hmost⟩ := Decimal.bounds_of_rank hpos hfinite
  have hdigits : d.digits ≠ 0 := (Decimal.digits_pos hpos hfinite).ne'
  have hlog := log2_digits_le hdigits hmost hexponent
  have hten : (0 : ℚ) < 10 ^ d.exponent := zpow_pos (by norm_num) _
  obtain ⟨hbelow, habove⟩ := tenPow_estimate (j := d.digits.log2) (by omega) (by omega)
  constructor
  · intro h
    refine absurd hmost (not_lt.2 ?_)
    calc (10 : ℚ) ^ (311 : ℤ)
        ≤ 10 ^ ((d.digits.log2 : ℤ) * 30103 / 100000 - 1 + d.exponent) := tenPow_le (by omega)
      _ = 10 ^ ((d.digits.log2 : ℤ) * 30103 / 100000 - 1) * 10 ^ d.exponent :=
          zpow_add₀ (by norm_num) ..
      _ ≤ d.digits * 10 ^ d.exponent :=
          mul_le_mul_of_nonneg_right (hbelow.trans (twoPow_le_digits hdigits)) hten.le
  · intro h
    have hten' : (10 : ℚ) * 10 ^ d.exponent = 10 ^ (1 + d.exponent) := by
      rw [zpow_add₀ (by norm_num), zpow_one]
    refine absurd hleast (not_le.2 ?_)
    calc (d.digits : ℚ) * 10 ^ d.exponent
        ≤ 2 ^ (d.digits.log2 : ℤ) * 10 * 10 ^ d.exponent :=
          mul_le_mul_of_nonneg_right d.digits_le_twoPow hten.le
      _ ≤ 10 ^ ((d.digits.log2 : ℤ) * 30103 / 100000 + 2) * 10 ^ (1 + d.exponent) := by
          rw [mul_assoc, hten']
          exact mul_le_mul_of_nonneg_right habove (zpow_pos (by norm_num) _).le
      _ = 10 ^ ((d.digits.log2 : ℤ) * 30103 / 100000 + 2 + (1 + d.exponent)) :=
          (zpow_add₀ (by norm_num) ..).symm
      _ < 10 ^ (-324 : ℤ) := zpow_lt_zpow_right₀ (by norm_num) (by omega)

/-- A decimal within the range is read as its rank: neither of the shortcuts for
numbers out of range is taken. -/
theorem ofDecimal_eq {d : Decimal} (hpos : 0 < d.rank) (hfinite : d.rank < finiteRanks)
    (hexponent : -1000 ≤ d.exponent) (negative : Bool) :
    ofDecimal negative d.digits d.exponent = ofRank negative d.rank := by
  have hdigits : d.digits ≠ 0 := (Decimal.digits_pos hpos hfinite).ne'
  obtain ⟨hsmall, hlarge⟩ := Decimal.estimate_bounds hpos hfinite hexponent
  simp only [ofDecimal, if_neg hdigits, if_neg hsmall, if_neg hlarge, ofRatio, Decimal.rank, scaleByTen]
  by_cases hsign : d.exponent < 0
  · rw [if_pos hsign, if_neg (by omega), Nat.one_mul]
  · rw [if_neg hsign, if_pos (by omega)]

end Automation.Double
