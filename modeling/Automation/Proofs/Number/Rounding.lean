/-
# Rounding near a double

A rank is a shift and a significand (`Double.IsSplit`). A ratio rounds to a rank if
its error, relative to the magnitude of the rank, is at most one in `2 * 10 ^ 16`
(`Double.rankOfRatio_of_near`): this is less than half a place, also below a power
of two, where the places are half as far apart. Which ratio stands for the number
does not matter (`Double.rankOfRatio_congr`).

Key definitions: `Double.IsSplit`, `Double.IsNear`.
Key theorems: `Double.roundHalfEven_eq`, `Double.rankOfRatio_of_near`,
`Double.rankOfRatio_congr`.
-/
import Automation.Number.Double
import Mathlib

namespace Automation.Double

/-! ### Rounding to integers -/

/-- What lies less than a half from an integer rounds to it. -/
theorem roundHalfEven_eq {num den n : Nat} (hlow : 2 * (n * den) < 2 * num + den)
    (hhigh : 2 * num < 2 * (n * den) + den) : roundHalfEven num den = n := by
  have hden : 0 < den := by omega
  by_cases h : n * den ≤ num
  · obtain ⟨d, rfl⟩ := Nat.exists_eq_add_of_le h
    have hd : d < den := by omega
    have hdiv : (n * den + d) / den = n := by
      rw [Nat.add_comm, Nat.add_mul_div_right _ _ hden, Nat.div_eq_of_lt hd, Nat.zero_add]
    have hmod : (n * den + d) % den = d := by
      rw [Nat.mul_add_mod_self_right, Nat.mod_eq_of_lt hd]
    have hhalf : 2 * d < den := by omega
    simp only [roundHalfEven, hdiv, hmod, if_pos hhalf]
  · -- below an integer the quotient is the integer before it
    obtain ⟨m, rfl⟩ : ∃ m, n = m + 1 := Nat.exists_eq_succ_of_ne_zero (by rintro rfl; simp at h)
    rw [Nat.add_mul, Nat.one_mul] at hlow hhigh h
    obtain ⟨d, rfl⟩ := Nat.exists_eq_add_of_le (show m * den ≤ num by omega)
    have hd : d < den := by omega
    have hdiv : (m * den + d) / den = m := by
      rw [Nat.add_comm, Nat.add_mul_div_right _ _ hden, Nat.div_eq_of_lt hd, Nat.zero_add]
    have hmod : (m * den + d) % den = d := by
      rw [Nat.mul_add_mod_self_right, Nat.mod_eq_of_lt hd]
    have hhalf : ¬ 2 * d < den := by omega
    have hover : den < 2 * d := by omega
    simp only [roundHalfEven, hdiv, hmod, if_neg hhalf, if_pos hover]

theorem roundHalfEven_mul {c : Nat} (hc : 0 < c) (num den : Nat) :
    roundHalfEven (c * num) (c * den) = roundHalfEven num den := by
  have hdiv : c * num / (c * den) = num / den := Nat.mul_div_mul_left num den hc
  have hmod : 2 * (c * num % (c * den)) = c * (2 * (num % den)) := by
    rw [Nat.mul_mod_mul_left]
    ring
  simp only [roundHalfEven, hdiv, hmod, Nat.mul_lt_mul_left hc]

/-! ### Ratios for one number -/

/-- A ratio can be widened. -/
theorem rankOfRatio_mul {c : Nat} (hc : 0 < c) (num den : Nat) :
    rankOfRatio (c * num) (c * den) = rankOfRatio num den := by
  have hscaled : c * num * unitQuanta = c * (num * unitQuanta) := Nat.mul_assoc ..
  have hshift : ∀ s, (c * den) <<< s = c * den <<< s := by
    intro s
    rw [Nat.shiftLeft_eq, Nat.shiftLeft_eq, Nat.mul_assoc]
  simp only [rankOfRatio, hscaled, hshift, roundHalfEven_mul hc, Nat.mul_div_mul_left _ _ hc]

/-- Ratios for one number have one rank. -/
theorem rankOfRatio_congr {num den num' den' : Nat} (hden : 0 < den) (hden' : 0 < den')
    (h : num * den' = num' * den) : rankOfRatio num den = rankOfRatio num' den' := by
  calc rankOfRatio num den = rankOfRatio (den' * num) (den' * den) := (rankOfRatio_mul hden' ..).symm
    _ = rankOfRatio (den * num') (den * den') := by
      rw [Nat.mul_comm den' num, h, Nat.mul_comm num', Nat.mul_comm den']
    _ = rankOfRatio num' den' := rankOfRatio_mul hden ..

/-! ### Shifts and significands -/

theorem normalRank_eq : normalRank = 2 ^ 52 := by decide

theorem finiteRanks_eq : finiteRanks = 2047 * normalRank := by decide

theorem unitQuanta_eq : unitQuanta = 2 ^ quantumBits := Nat.one_shiftLeft quantumBits

theorem unitQuanta_pos : 0 < unitQuanta := by
  rw [unitQuanta_eq]
  exact Nat.two_pow_pos quantumBits

/-- The significand of a rank and its shift. -/
structure IsSplit (rank shift significand : Nat) : Prop where
  rank_eq : rank = shift * normalRank + significand
  quantaOf_eq : quantaOf rank = significand * 2 ^ shift
  lt : significand < 2 * normalRank
  normal : shift = 0 ∨ normalRank ≤ significand

theorem exists_isSplit (rank : Nat) : ∃ shift significand, IsSplit rank shift significand := by
  have hnormal : 0 < normalRank := by decide
  have hmod := Nat.mod_lt rank hnormal
  have hdiv := Nat.div_add_mod rank normalRank
  by_cases h : rank < normalRank
  · refine ⟨0, rank, ?_, ?_, by omega, .inl rfl⟩
    · omega
    · rw [quantaOf, if_pos h]
      omega
  · obtain ⟨s, hs⟩ : ∃ s, rank / normalRank = s + 1 :=
      Nat.exists_eq_succ_of_ne_zero (Nat.div_ne_zero_iff.2 ⟨hnormal.ne', by omega⟩)
    refine ⟨s, normalRank + rank % normalRank, ?_, ?_, by omega, .inr (by omega)⟩
    · rw [hs] at hdiv
      rw [Nat.mul_add, Nat.mul_comm, Nat.mul_one] at hdiv
      omega
    · rw [quantaOf, if_neg h, shiftOf, hs, Nat.add_sub_cancel, Nat.shiftLeft_eq]

/-- The shift of a rank for a number of whole quanta. -/
theorem shift_eq {whole shift : Nat} (hlow : shift = 0 ∨ normalRank * 2 ^ shift ≤ whole)
    (hhigh : whole < 2 * normalRank * 2 ^ shift) :
    (if whole < 2 * normalRank then 0 else whole.log2 - 52) = shift := by
  split
  · rename_i h
    rcases hlow with hzero | hlow
    · exact hzero.symm
    · -- a shift of one or more would put the number above
      by_contra hne
      obtain ⟨s, rfl⟩ : ∃ s, shift = s + 1 := Nat.exists_eq_succ_of_ne_zero (Ne.symm hne)
      have hpow : 0 < 2 ^ s := Nat.two_pow_pos s
      have hdouble : normalRank * 2 ^ (s + 1) = 2 * normalRank * 2 ^ s := by ring
      have hle : 2 * normalRank * 1 ≤ 2 * normalRank * 2 ^ s := Nat.mul_le_mul_left _ hpow
      omega
  · rename_i h
    have hone : whole ≠ 0 := by
      rintro rfl
      exact h (by decide)
    have hlow' : 2 ^ (52 + shift) ≤ whole := by
      rcases hlow with rfl | hlow
      · rw [normalRank_eq] at h
        omega
      · rwa [normalRank_eq, ← Nat.pow_add] at hlow
    have hhigh' : whole < 2 ^ (52 + shift + 1) := by
      calc whole < 2 * normalRank * 2 ^ shift := hhigh
        _ = 2 ^ (52 + shift + 1) := by
          rw [normalRank_eq]
          ring
    rw [(Nat.log2_eq_iff hone).2 ⟨hlow', hhigh'⟩, Nat.add_sub_cancel_left]

/-! ### Ratios near a rank -/

/-- The error of a number is at most one in `2 * 10 ^ 16`. -/
structure IsNear (number exact : Nat) : Prop where
  low : 2 * 10 ^ 16 * exact ≤ 2 * 10 ^ 16 * number + exact
  high : 2 * 10 ^ 16 * number ≤ 2 * 10 ^ 16 * exact + exact

/-- As there are less than `2 ^ 53` significands, the error is less than half a place. -/
theorem IsNear.half {number significand place : Nat} (h : IsNear number (significand * place))
    (hlt : significand < 2 * normalRank) (hplace : 0 < place) :
    2 * (significand * place) < 2 * number + place
      ∧ 2 * number < 2 * (significand * place) + place := by
  have hbound : significand * place ≤ 2 * normalRank * place :=
    Nat.mul_le_mul_right _ hlt.le
  obtain ⟨hlow, hhigh⟩ := h
  rw [normalRank_eq] at hbound
  omega

/-- At a power of two the error is less than a quarter of a place. -/
theorem IsNear.quarter {number place : Nat} (h : IsNear number (normalRank * place))
    (hplace : 0 < place) : 4 * (normalRank * place) < 4 * number + place := by
  have hlow := h.low
  rw [normalRank_eq] at hlow ⊢
  omega

/-- A ratio rounds to a significand from which it is less than half a place away. -/
theorem rankOfRatio_eq {num den shift significand : Nat} (hden : 0 < den)
    (hnormal : shift = 0 ∨ normalRank * (2 ^ shift * den) ≤ num * unitQuanta)
    (hlt : num * unitQuanta < 2 * normalRank * (2 ^ shift * den))
    (hlow : 2 * (significand * (2 ^ shift * den)) < 2 * (num * unitQuanta) + 2 ^ shift * den)
    (hhigh : 2 * (num * unitQuanta) < 2 * (significand * (2 ^ shift * den)) + 2 ^ shift * den) :
    rankOfRatio num den = shift * normalRank + significand := by
  have hshift : (if num * unitQuanta / den < 2 * normalRank then 0
      else (num * unitQuanta / den).log2 - 52) = shift := by
    refine shift_eq (hnormal.imp_right fun h => ?_) ?_
    · rw [Nat.le_div_iff_mul_le hden, Nat.mul_assoc]
      exact h
    · rw [Nat.div_lt_iff_lt_mul hden, Nat.mul_assoc]
      exact hlt
  have hplaces : den <<< shift = 2 ^ shift * den := by
    rw [Nat.shiftLeft_eq, Nat.mul_comm]
  simp only [rankOfRatio, hshift, hplaces, roundHalfEven_eq hlow hhigh]

/-- Below a power of two the places are half as far apart, and the power of two is
twice the first significand of the places there. -/
theorem rankOfRatio_below {num den shift : Nat} (hden : 0 < den)
    (hnear : IsNear (num * unitQuanta) (normalRank * (2 ^ (shift + 1) * den)))
    (hbelow : num * unitQuanta < normalRank * (2 ^ (shift + 1) * den)) :
    rankOfRatio num den = shift * normalRank + 2 * normalRank := by
  have hplace : 0 < 2 ^ shift * den := Nat.mul_pos (Nat.two_pow_pos shift) hden
  have hdouble : 2 ^ (shift + 1) * den = 2 * (2 ^ shift * den) := by ring
  rw [hdouble] at hnear hbelow
  have hquarter := hnear.quarter (by omega)
  rw [normalRank_eq] at hquarter hbelow
  have hone : 1 * (2 ^ shift * den) ≤ 2 ^ 52 * (2 ^ shift * den) :=
    Nat.mul_le_mul_right _ (by decide)
  refine rankOfRatio_eq hden (.inr ?_) ?_ ?_ ?_ <;> rw [normalRank_eq] <;> omega

/-- **A ratio near the magnitude of a rank rounds to the rank.** -/
theorem rankOfRatio_of_near {num den rank : Nat} (hden : 0 < den)
    (h : IsNear (num * unitQuanta) (quantaOf rank * den)) : rankOfRatio num den = rank := by
  obtain ⟨s, m, hrank, hquanta, hm, hnormal⟩ := exists_isSplit rank
  have hplace : 0 < 2 ^ s * den := Nat.mul_pos (Nat.two_pow_pos s) hden
  rw [hquanta, Nat.mul_assoc] at h
  obtain ⟨hlow, hhigh⟩ := h.half hm hplace
  have hlast : m * (2 ^ s * den) ≤ (2 * normalRank - 1) * (2 ^ s * den) :=
    Nat.mul_le_mul_right _ (by omega)
  have hlt : num * unitQuanta < 2 * normalRank * (2 ^ s * den) := by
    rw [normalRank_eq] at hlast ⊢
    omega
  by_cases hbelow : s = 0 ∨ normalRank * (2 ^ s * den) ≤ num * unitQuanta
  · rw [hrank]
    exact rankOfRatio_eq hden hbelow hlt hlow hhigh
  · obtain ⟨hs, hunder⟩ := not_or.1 hbelow
    have hfirst : m = normalRank := by
      -- the next significand is half a place and more above
      by_contra hne
      have hnext : (normalRank + 1) * (2 ^ s * den) ≤ m * (2 ^ s * den) :=
        Nat.mul_le_mul_right _ (by omega)
      rw [Nat.add_mul] at hnext
      omega
    obtain ⟨t, rfl⟩ : ∃ t, s = t + 1 := Nat.exists_eq_succ_of_ne_zero hs
    subst hfirst
    rw [rankOfRatio_below hden h (by omega), hrank]
    ring

/-! ### Ratios beyond the range -/

/-- What is less than half a quantum rounds to zero. -/
theorem rankOfRatio_eq_zero {num den : Nat} (h : 2 * (num * unitQuanta) < den) :
    rankOfRatio num den = 0 := by
  have hle : 1 * den ≤ 2 * normalRank * den := Nat.mul_le_mul_right _ (by decide)
  have hround : rankOfRatio num den = 0 * normalRank + 0 := by
    refine rankOfRatio_eq (by omega) (.inl rfl) ?_ ?_ ?_ <;> rw [Nat.pow_zero, Nat.one_mul] <;> omega
  rw [hround, Nat.zero_mul]

/-- What is far above the finite magnitudes has no finite rank. -/
theorem finiteRanks_le_rankOfRatio {num den bits : Nat} (hden : 0 < den) (hbits : 1025 ≤ bits)
    (h : 2 ^ bits * den ≤ num) : finiteRanks ≤ rankOfRatio num den := by
  have hwhole : 2 ^ (bits + quantumBits) ≤ num * unitQuanta / den := by
    rw [Nat.le_div_iff_mul_le hden, Nat.pow_add, ← unitQuanta_eq, Nat.mul_right_comm]
    exact Nat.mul_le_mul_right _ h
  have hpos : num * unitQuanta / den ≠ 0 := (Nat.lt_of_lt_of_le (Nat.two_pow_pos _) hwhole).ne'
  have hlog : bits + quantumBits ≤ (num * unitQuanta / den).log2 := (Nat.le_log2 hpos).2 hwhole
  have hquantum : quantumBits = 1074 := rfl
  have hlarge : ¬ num * unitQuanta / den < 2 * normalRank := by
    intro hlt
    rw [normalRank_eq, ← Nat.pow_succ', ← Nat.log2_lt hpos] at hlt
    omega
  simp only [rankOfRatio, if_neg hlarge]
  rw [finiteRanks_eq]
  exact Nat.le_trans (Nat.mul_le_mul_right _ (by omega)) (Nat.le_add_right _ _)

end Automation.Double
