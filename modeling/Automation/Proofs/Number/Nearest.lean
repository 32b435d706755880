/-
# The doubles of integers

The double of an integer is the integer rounded to `53` significant bits, a half to
the even neighbour (`Double.nearest`). For a double in the range this is what its
magnitude says in quanta (`Double.quantaOf_rankOfRatio`), and since magnitudes grow
with their ranks (`Double.quantaOf_strictMono`), doubles of integers are ordered as
the rounded integers are (`Double.keyOfInt_lt_iff`).

Rounding keeps the order of integers (`Double.nearest_mono`), and up to `2 ^ 53` it
changes none (`Double.nearest_eq_self`). Beyond that different integers may become
one double, but only such that are both beyond it (`Double.eq_of_nearest_eq`).

Key definitions: `Double.place`, `Double.nearest`, `Double.keyOfInt`.
Key theorems: `Double.quantaOf_strictMono`, `Double.quantaOf_rankOfRatio`,
`Double.keyOfInt_lt_iff`, `Double.nearest_mono`, `Double.eq_of_nearest_eq`.
-/
import Automation.Proofs.Number.Rounding
import Mathlib

namespace Automation.Double

/-! ### Rounding keeps the order -/

theorem div_le_roundHalfEven (num den : Nat) : num / den ≤ roundHalfEven num den := by
  simp only [roundHalfEven]
  split_ifs <;> omega

theorem roundHalfEven_le_succ (num den : Nat) : roundHalfEven num den ≤ num / den + 1 := by
  simp only [roundHalfEven]
  split_ifs <;> omega

theorem roundHalfEven_mono {num num' : Nat} (den : Nat) (h : num ≤ num') :
    roundHalfEven num den ≤ roundHalfEven num' den := by
  rcases (Nat.div_le_div_right (c := den) h).lt_or_eq with hlt | heq
  · calc roundHalfEven num den ≤ num / den + 1 := roundHalfEven_le_succ ..
      _ ≤ num' / den := hlt
      _ ≤ roundHalfEven num' den := div_le_roundHalfEven ..
  · -- between the same two integers the larger fraction is rounded up first
    have hnum := Nat.div_add_mod num den
    have hnum' := Nat.div_add_mod num' den
    rw [← heq] at hnum'
    have hmod : num % den ≤ num' % den := by omega
    simp only [roundHalfEven, ← heq]
    split_ifs <;> omega

theorem roundHalfEven_mul_right {den : Nat} (hden : 0 < den) (n : Nat) :
    roundHalfEven (n * den) den = n :=
  roundHalfEven_eq (by omega) (by omega)

/-- A ratio between two integers is not rounded beyond them. -/
theorem roundHalfEven_bounds {num den low high : Nat} (hden : 0 < den) (hlow : low * den ≤ num)
    (hhigh : num ≤ high * den) : low ≤ roundHalfEven num den ∧ roundHalfEven num den ≤ high := by
  constructor
  · calc low = roundHalfEven (low * den) den := (roundHalfEven_mul_right hden low).symm
      _ ≤ roundHalfEven num den := roundHalfEven_mono den hlow
  · calc roundHalfEven num den ≤ roundHalfEven (high * den) den := roundHalfEven_mono den hhigh
      _ = high := roundHalfEven_mul_right hden high

/-! ### Magnitudes grow with their ranks -/

/-- The magnitude of a rank by a shift and a significand, of which the last may be the
first of the next shift. -/
theorem quantaOf_split {shift significand : Nat} (hnormal : shift = 0 ∨ normalRank ≤ significand)
    (hle : significand ≤ 2 * normalRank) :
    quantaOf (shift * normalRank + significand) = significand * 2 ^ shift := by
  have hpos : 0 < normalRank := by decide
  by_cases hsmall : significand < normalRank
  · obtain rfl : shift = 0 := hnormal.resolve_right (by omega)
    rw [Nat.zero_mul, Nat.zero_add, quantaOf, if_pos hsmall, Nat.pow_zero, Nat.mul_one]
  · obtain ⟨d, rfl⟩ := Nat.exists_eq_add_of_le (Nat.le_of_not_lt hsmall)
    have hrank : shift * normalRank + (normalRank + d) = d + normalRank * (shift + 1) := by ring
    have hnot : ¬ d + normalRank * (shift + 1) < normalRank := by
      rw [Nat.mul_add]
      omega
    rw [hrank, quantaOf, if_neg hnot, shiftOf, Nat.add_mul_div_left _ _ hpos,
      Nat.add_mul_mod_self_left, Nat.shiftLeft_eq]
    rcases Nat.lt_or_ge d normalRank with hd | hd
    · rw [Nat.div_eq_of_lt hd, Nat.mod_eq_of_lt hd, Nat.zero_add, Nat.add_sub_cancel]
    · obtain rfl : d = normalRank := by omega
      rw [Nat.div_self hpos, Nat.mod_self, Nat.add_comm 1, Nat.add_sub_cancel]
      ring

theorem quantaOf_strictMono : StrictMono quantaOf := by
  refine strictMono_nat_of_lt_succ fun rank => ?_
  obtain ⟨shift, significand, hrank, hquanta, hlt, hnormal⟩ := exists_isSplit rank
  have hnext : quantaOf (rank + 1) = (significand + 1) * 2 ^ shift := by
    rw [hrank, Nat.add_assoc]
    exact quantaOf_split (hnormal.imp_right Nat.le_succ_of_le) hlt
  rw [hquanta, hnext, Nat.add_mul]
  exact Nat.lt_add_of_pos_right (by positivity)

/-! ### Integers with 53 significant bits -/

/-- The place of the last of the `53` leading bits of a number. -/
def place (n : Nat) : Nat := 2 ^ (n.log2 - 52)

/-- A natural number rounded to `53` significant bits, a half to the even neighbour. -/
def nearestNat (n : Nat) : Nat := roundHalfEven n (place n) * place n

theorem place_pos (n : Nat) : 0 < place n := Nat.two_pow_pos _

theorem nearestNat_eq_self {n : Nat} (h : n ≤ 2 ^ 53) : nearestNat n = n := by
  rcases h.lt_or_eq with hlt | rfl
  · have hlog : n.log2 - 52 = 0 := by
      rcases Nat.eq_zero_or_pos n with rfl | hpos
      · rfl
      · have := (Nat.log2_lt hpos.ne').2 hlt
        omega
    rw [nearestNat, place, hlog, Nat.pow_zero, Nat.mul_one]
    simpa using roundHalfEven_mul_right Nat.one_pos n
  · decide +kernel

/-- Rounding does not leave the range of numbers with as many bits. -/
theorem nearestNat_bounds {n : Nat} (hn : n ≠ 0) :
    2 ^ n.log2 ≤ nearestNat n ∧ nearestNat n ≤ 2 ^ (n.log2 + 1) := by
  have hlow := Nat.log2_self_le hn
  have hhigh := Nat.lt_log2_self (n := n)
  by_cases hlog : n.log2 ≤ 52
  · have hle : n ≤ 2 ^ 53 := hhigh.le.trans (Nat.pow_le_pow_right (by decide) (by omega))
    rw [nearestNat_eq_self hle]
    exact ⟨hlow, hhigh.le⟩
  · have hsplit : 2 ^ n.log2 = 2 ^ 52 * place n := by
      rw [place, ← Nat.pow_add]
      congr 1
      omega
    have hdouble : 2 ^ (n.log2 + 1) = 2 ^ 53 * place n := by
      rw [Nat.pow_succ, hsplit]
      ring
    rw [hsplit] at hlow
    rw [hdouble] at hhigh
    obtain ⟨hround, hround'⟩ := roundHalfEven_bounds (place_pos n) hlow hhigh.le
    rw [hsplit, hdouble]
    exact ⟨Nat.mul_le_mul_right _ hround, Nat.mul_le_mul_right _ hround'⟩

theorem nearestNat_mono : Monotone nearestNat := by
  intro n m h
  rcases Nat.eq_zero_or_pos n with rfl | hn
  · exact Nat.zero_le _
  · have hm : m ≠ 0 := by omega
    have hlog : n.log2 ≤ m.log2 := (Nat.le_log2 hm).2 ((Nat.log2_self_le hn.ne').trans h)
    rcases hlog.lt_or_eq with hlt | heq
    · calc nearestNat n ≤ 2 ^ (n.log2 + 1) := (nearestNat_bounds hn.ne').2
        _ ≤ 2 ^ m.log2 := Nat.pow_le_pow_right (by decide) hlt
        _ ≤ nearestNat m := (nearestNat_bounds hm).1
    · rw [nearestNat, nearestNat, place, place, heq]
      exact Nat.mul_le_mul_right _ (roundHalfEven_mono _ h)

/-- Rounding is off by at most half a place. -/
theorem nearestNat_error (n : Nat) :
    2 * n ≤ 2 * nearestNat n + place n ∧ 2 * nearestNat n ≤ 2 * n + place n := by
  have hdiv := Nat.div_add_mod n (place n)
  have hmod := Nat.mod_lt n (place_pos n)
  rw [Nat.mul_comm] at hdiv
  have hnext : (n / place n + 1) * place n = n / place n * place n + place n := by ring
  simp only [nearestNat, roundHalfEven]
  split_ifs
  · omega
  · rw [hnext]
    omega
  · rcases Nat.mod_two_eq_zero_or_one (n / place n) with heven | hodd
    · rw [heven, Nat.add_zero]
      omega
    · rw [hodd, hnext]
      omega

/-! ### The double of a natural number -/

theorem rankOfRatio_zero : rankOfRatio 0 1 = 0 :=
  rankOfRatio_eq_zero (by rw [Nat.zero_mul]; decide)

/-- The parts of the double nearest to a natural number: `53` significant bits. -/
theorem rankOfRatio_natural {n : Nat} (hn : n ≠ 0) :
    rankOfRatio n 1 = (n.log2 + 1022) * normalRank
        + roundHalfEven (n * unitQuanta) (2 ^ (n.log2 + 1022))
      ∧ normalRank ≤ roundHalfEven (n * unitQuanta) (2 ^ (n.log2 + 1022))
      ∧ roundHalfEven (n * unitQuanta) (2 ^ (n.log2 + 1022)) ≤ 2 * normalRank := by
  have hexponent : n.log2 + quantumBits = 52 + (n.log2 + 1022) := by
    rw [show quantumBits = 1074 from rfl]
    omega
  have hlow : normalRank * 2 ^ (n.log2 + 1022) ≤ n * unitQuanta :=
    calc normalRank * 2 ^ (n.log2 + 1022) = 2 ^ n.log2 * unitQuanta := by
          rw [normalRank_eq, ← Nat.pow_add, ← hexponent, Nat.pow_add, ← unitQuanta_eq]
      _ ≤ n * unitQuanta := Nat.mul_le_mul_right _ (Nat.log2_self_le hn)
  have hhigh : n * unitQuanta < 2 * normalRank * 2 ^ (n.log2 + 1022) :=
    calc n * unitQuanta < 2 ^ (n.log2 + 1) * unitQuanta :=
          Nat.mul_lt_mul_of_pos_right Nat.lt_log2_self unitQuanta_pos
      _ = 2 * (2 ^ n.log2 * unitQuanta) := by ring
      _ = 2 * normalRank * 2 ^ (n.log2 + 1022) := by
          rw [Nat.mul_assoc, normalRank_eq, ← Nat.pow_add, ← hexponent, Nat.pow_add,
            ← unitQuanta_eq]
  obtain ⟨hround, hround'⟩ := roundHalfEven_bounds (Nat.two_pow_pos _) hlow hhigh.le
  refine ⟨?_, hround, hround'⟩
  simp only [rankOfRatio, Nat.div_one, shift_eq (.inr hlow) hhigh, Nat.one_shiftLeft]

/-- **The double nearest to a natural number is that number with `53` significant
bits.** -/
theorem quantaOf_rankOfRatio (n : Nat) :
    quantaOf (rankOfRatio n 1) = nearestNat n * unitQuanta := by
  rcases Nat.eq_zero_or_pos n with rfl | hpos
  · rw [rankOfRatio_zero, nearestNat_eq_self (Nat.zero_le _), Nat.zero_mul]
    rfl
  · obtain ⟨hrank, hlow, hhigh⟩ := rankOfRatio_natural hpos.ne'
    rw [hrank, quantaOf_split (.inr hlow) hhigh]
    by_cases hlog : n.log2 ≤ 52
    · -- the number has no more bits, so nothing is rounded
      have hle : n ≤ 2 ^ 53 :=
        Nat.lt_log2_self.le.trans (Nat.pow_le_pow_right (by decide) (by omega))
      have hbits : quantumBits = 52 - n.log2 + (n.log2 + 1022) := by
        rw [show quantumBits = 1074 from rfl]
        omega
      have hscaled : n * unitQuanta = n * 2 ^ (52 - n.log2) * 2 ^ (n.log2 + 1022) := by
        rw [unitQuanta_eq, hbits, Nat.pow_add, Nat.mul_assoc]
      rw [nearestNat_eq_self hle, hscaled, roundHalfEven_mul_right (Nat.two_pow_pos _)]
    · have hbits : n.log2 + 1022 = quantumBits + (n.log2 - 52) := by
        rw [show quantumBits = 1074 from rfl]
        omega
      have hplace : 2 ^ (n.log2 + 1022) = unitQuanta * place n := by
        rw [hbits, Nat.pow_add, unitQuanta_eq, place]
      rw [hplace, Nat.mul_comm n, roundHalfEven_mul unitQuanta_pos, nearestNat]
      ring

theorem rankOfRatio_lt_iff {n m : Nat} :
    rankOfRatio n 1 < rankOfRatio m 1 ↔ nearestNat n < nearestNat m := by
  rw [← quantaOf_strictMono.lt_iff_lt, quantaOf_rankOfRatio, quantaOf_rankOfRatio,
    Nat.mul_lt_mul_right unitQuanta_pos]

/-- The double of a number of at most `1023` bits is finite. -/
theorem rankOfRatio_lt_finiteRanks {n : Nat} (h : n.log2 ≤ 1022) :
    rankOfRatio n 1 < finiteRanks := by
  rcases Nat.eq_zero_or_pos n with rfl | hpos
  · rw [rankOfRatio_zero]
    decide
  · obtain ⟨hrank, -, hhigh⟩ := rankOfRatio_natural hpos.ne'
    have hshift : (n.log2 + 1022) * normalRank ≤ 2044 * normalRank :=
      Nat.mul_le_mul_right _ (by omega)
    have hnormal : 0 < normalRank := by decide
    rw [hrank, finiteRanks_eq]
    omega

/-! ### The double of an integer -/

/-- An integer rounded to `53` significant bits. -/
def nearest (n : Int) : Int :=
  if n < 0 then -(nearestNat n.natAbs : Int) else nearestNat n.natAbs

/-- The key of the double nearest to an integer. -/
def keyOfInt (n : Int) : Int :=
  if n < 0 then -(rankOfRatio n.natAbs 1 : Int) else rankOfRatio n.natAbs 1

theorem nearestNat_pos {n : Nat} (h : 0 < n) : 0 < nearestNat n :=
  (Nat.two_pow_pos _).trans_le (nearestNat_bounds h.ne').1

theorem rankOfRatio_pos {n : Nat} (h : 0 < n) : 0 < rankOfRatio n 1 := by
  rw [← rankOfRatio_zero, rankOfRatio_lt_iff, nearestNat_eq_self (Nat.zero_le _)]
  exact nearestNat_pos h

/-- **Doubles of integers are ordered as the rounded integers are.** -/
theorem keyOfInt_lt_iff {a b : Int} : keyOfInt a < keyOfInt b ↔ nearest a < nearest b := by
  have hless := rankOfRatio_lt_iff (n := a.natAbs) (m := b.natAbs)
  have hmore := rankOfRatio_lt_iff (n := b.natAbs) (m := a.natAbs)
  simp only [keyOfInt, nearest]
  split_ifs with ha hb hb
  · omega
  · have hrank := rankOfRatio_pos (n := a.natAbs) (by omega)
    have hnearest := nearestNat_pos (n := a.natAbs) (by omega)
    omega
  · omega
  · omega

theorem keyOfInt_eq_iff {a b : Int} : keyOfInt a = keyOfInt b ↔ nearest a = nearest b := by
  have hless := keyOfInt_lt_iff (a := a) (b := b)
  have hmore := keyOfInt_lt_iff (a := b) (b := a)
  omega

theorem keyOfInt_le_iff {a b : Int} : keyOfInt a ≤ keyOfInt b ↔ nearest a ≤ nearest b := by
  rw [← not_lt, keyOfInt_lt_iff, not_lt]

theorem lt_iff_of_key {x y : Double} {k l : Int} (hx : x.key = some k) (hy : y.key = some l) :
    x.lt y = true ↔ k < l := by
  simp [lt, hx, hy]

theorem le_iff_of_key {x y : Double} {k l : Int} (hx : x.key = some k) (hy : y.key = some l) :
    x.le y = true ↔ k ≤ l := by
  simp [le, hx, hy]

/-- An integer of at most `1023` bits has a double. -/
theorem exists_ofInt? {n : Int} (h : n.natAbs.log2 ≤ 1022) :
    ∃ x : Double, ofInt? n = some x ∧ x.isNaN = false ∧ x.key = some (keyOfInt n) := by
  have hrank := rankOfRatio_lt_finiteRanks h
  refine ⟨.finite (n < 0) ⟨rankOfRatio n.natAbs 1, hrank⟩, ?_, rfl, ?_⟩
  · rw [ofInt?, ofRatio, ofRank, dif_pos hrank]
    rfl
  · simp [key, keyOfInt]

/-- Rounding never puts integers in another order. -/
theorem nearest_mono : Monotone nearest := by
  intro a b h
  simp only [nearest]
  split_ifs with ha hb hb
  · have hle := nearestNat_mono (show b.natAbs ≤ a.natAbs by omega)
    omega
  · omega
  · omega
  · have hle := nearestNat_mono (show a.natAbs ≤ b.natAbs by omega)
    omega

theorem nearest_eq_self {n : Int} (h : n.natAbs ≤ 2 ^ 53) : nearest n = n := by
  rw [nearest, nearestNat_eq_self h]
  split_ifs <;> omega

/-- Rounding is off by at most half a place. -/
theorem nearest_error (n : Int) : 2 * (nearest n - n).natAbs ≤ place n.natAbs := by
  have herror := nearestNat_error n.natAbs
  simp only [nearest]
  split_ifs <;> omega

/-- Only integers that are both too large become one double. -/
theorem eq_of_nearest_eq {a b : Int} (ha : a.natAbs < 2 ^ 53) (h : nearest a = nearest b) : a = b := by
  rw [nearest_eq_self ha.le] at h
  by_cases hb : b.natAbs ≤ 2 ^ 53
  · rw [h, nearest_eq_self hb]
  · -- what is beyond the bound stays there
    have htop : nearest (2 ^ 53) = 2 ^ 53 := nearest_eq_self (by decide)
    have hbottom : nearest (-2 ^ 53) = -2 ^ 53 := nearest_eq_self (by decide)
    rcases Int.le_total 0 b with hsign | hsign
    · have hle := nearest_mono (show 2 ^ 53 ≤ b by omega)
      omega
    · have hle := nearest_mono (show b ≤ -2 ^ 53 by omega)
      omega

end Automation.Double
