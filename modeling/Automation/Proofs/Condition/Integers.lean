/-
# How conditions compare integers

A condition compares two integers as doubles, so as integers that have been rounded
to `53` significant bits. For words, the integers of 64 bits, this is all: each of
them has a double, so every operator decides by the rounded integers
(`Condition.comparesBy_nearest`) and none puts two integers in the wrong order. The
operators decide by the integers themselves exactly if no integer is rounded to the
same as a different one that it is compared with (`Condition.comparesBy_id_iff`); for
that to happen both have to be at least `2 ^ 53` away from zero.

Key definitions: `Condition.ComparesBy`.
Key theorems: `Condition.comparesBy_nearest`, `Condition.comparesBy_id_iff`,
`Condition.holds_words`.
-/
import Automation.Condition
import Automation.Number.Word
import Automation.Proofs.Number.Nearest

namespace Automation

open Double (nearest)

/-! ### Integers as doubles -/

theorem Word.natAbs_le {n : Int} (h : Word.fits n = true) : n.natAbs ≤ 2 ^ 63 := by
  rw [Word.fits, Bool.and_eq_true, decide_eq_true_eq, decide_eq_true_eq, Word.least] at h
  omega

namespace Json

/-- A word counts as the double with its key, in equalities as in orders. -/
theorem exists_number {n : Int} (h : Word.fits n = true) :
    ∃ x : Double, (Json.int n).looseNumber? = some x ∧ (Json.int n).orderedNumber? = some x
      ∧ x.key = some (Double.keyOfInt n) := by
  have hbits : n.natAbs.log2 ≤ 1022 := by
    rcases Nat.eq_zero_or_pos n.natAbs with hzero | hpos
    · rw [hzero]
      exact Nat.zero_le _
    · have hlt : n.natAbs < 2 ^ 64 := (Word.natAbs_le h).trans_lt (by decide)
      have hlog := (Nat.log2_lt hpos.ne').2 hlt
      omega
  obtain ⟨x, hx, hnumber, hkey⟩ := Double.exists_ofInt? hbits
  refine ⟨x, hx, ?_, hkey⟩
  simp [orderedNumber?, hx, hnumber]

variable {a b : Int}

theorem looseEqual_int (ha : Word.fits a = true) (hb : Word.fits b = true) :
    (Json.int a).looseEqual (.int b) = true ↔ nearest a = nearest b := by
  obtain ⟨x, hx, -, hkeyx⟩ := exists_number ha
  obtain ⟨y, hy, -, hkeyy⟩ := exists_number hb
  simp [looseEqual, isContainer, hx, hy, Double.eq, hkeyx, hkeyy, Double.keyOfInt_eq_iff]

/-- A relation of doubles that is one of their keys compares the keys of words. -/
theorem compareBy_int {rel : Double → Double → Bool} {R : Int → Int → Prop}
    (hrel : ∀ {x y : Double} {k l : Int}, x.key = some k → y.key = some l →
      (rel x y = true ↔ R k l)) (ha : Word.fits a = true) (hb : Word.fits b = true) :
    (Json.int a).compareBy rel (.int b) = true ↔ R (Double.keyOfInt a) (Double.keyOfInt b) := by
  obtain ⟨x, -, hx, hkeyx⟩ := exists_number ha
  obtain ⟨y, -, hy, hkeyy⟩ := exists_number hb
  rw [compareBy, hx, hy]
  exact hrel hkeyx hkeyy

end Json

/-! ### Conditions on integers -/

theorem Operator.holdsNamed_name (op : Operator) (value target : Json) :
    Operator.holdsNamed op.name value target = op.holds value target := by
  cases op <;> rfl

namespace Condition

variable {payload : Json} {field : String} {a : Int} {bs : List Int}

/-- Conditions on a field that holds the integer `a` compare it with the integers `bs` as
if each integer were what `view` makes of it. -/
structure ComparesBy (view : Int → Int) (payload : Json) (field : String) (a : Int)
    (bs : List Int) : Prop where
  equals : ∀ b ∈ bs,
    holds ⟨field, "equals", .int b⟩ payload = true ↔ view a = view b
  notEquals : ∀ b ∈ bs,
    holds ⟨field, "not_equals", .int b⟩ payload = true ↔ view a ≠ view b
  greaterThan : ∀ b ∈ bs,
    holds ⟨field, "greater_than", .int b⟩ payload = true ↔ view a > view b
  lessThan : ∀ b ∈ bs,
    holds ⟨field, "less_than", .int b⟩ payload = true ↔ view a < view b
  greaterOrEqual : ∀ b ∈ bs,
    holds ⟨field, "greater_or_equal", .int b⟩ payload = true ↔ view a ≥ view b
  lessOrEqual : ∀ b ∈ bs,
    holds ⟨field, "less_or_equal", .int b⟩ payload = true ↔ view a ≤ view b
  isIn : holds ⟨field, "in", .arr (bs.map .int)⟩ payload = true ↔ ∃ b ∈ bs, view a = view b
  notIn : holds ⟨field, "not_in", .arr (bs.map .int)⟩ payload = true ↔ ∀ b ∈ bs, view a ≠ view b

/-- A condition on a field asks its operator. -/
theorem holds_iff_of_at {value target : Json} {P : Prop} (hfield : payload.at field = value)
    (op : Operator) (h : op.holds value target = true ↔ P) :
    holds ⟨field, op.name, target⟩ payload = true ↔ P := by
  rw [holds, hfield, Operator.holdsNamed_name, h]

/-- A word is among words if it is rounded to the same as one of them. -/
theorem memberOf_int (ha : Word.fits a = true) (hbs : ∀ b ∈ bs, Word.fits b = true) :
    (bs.map Json.int).any ((Json.int a).looseEqual ·) = true ↔ ∃ b ∈ bs, nearest a = nearest b := by
  rw [List.any_map, List.any_eq_true]
  refine exists_congr fun b => and_congr_right fun hb => ?_
  rw [Function.comp_apply, Json.looseEqual_int ha (hbs b hb)]

/-- **Conditions compare words as doubles do**: by what they are rounded to. -/
theorem comparesBy_nearest (hfield : payload.at field = .int a) (ha : Word.fits a = true)
    (hbs : ∀ b ∈ bs, Word.fits b = true) : ComparesBy nearest payload field a bs where
  equals b hb := holds_iff_of_at hfield .equals (Json.looseEqual_int ha (hbs b hb))
  notEquals b hb := by
    refine holds_iff_of_at hfield .notEquals ?_
    rw [Operator.holds, Bool.not_eq_true', ← Bool.not_eq_true, Json.looseEqual_int ha (hbs b hb)]
  greaterThan b hb := by
    refine holds_iff_of_at hfield .greaterThan ?_
    refine (Json.compareBy_int (R := fun k l => l < k) (fun hx hy => ?_) ha (hbs b hb)).trans ?_
    · exact Double.lt_iff_of_key hy hx
    · exact Double.keyOfInt_lt_iff
  lessThan b hb := by
    refine holds_iff_of_at hfield .lessThan ?_
    exact (Json.compareBy_int Double.lt_iff_of_key ha (hbs b hb)).trans Double.keyOfInt_lt_iff
  greaterOrEqual b hb := by
    refine holds_iff_of_at hfield .greaterOrEqual ?_
    refine (Json.compareBy_int (R := fun k l => l ≤ k) (fun hx hy => ?_) ha (hbs b hb)).trans ?_
    · exact Double.le_iff_of_key hy hx
    · exact Double.keyOfInt_le_iff
  lessOrEqual b hb := by
    refine holds_iff_of_at hfield .lessOrEqual ?_
    exact (Json.compareBy_int Double.le_iff_of_key ha (hbs b hb)).trans Double.keyOfInt_le_iff
  isIn := by
    refine holds_iff_of_at hfield .isIn ?_
    rw [Operator.holds, Json.memberOf?, beq_iff_eq, Option.some_inj, memberOf_int ha hbs]
  notIn := by
    refine holds_iff_of_at hfield .notIn ?_
    rw [Operator.holds, Json.memberOf?, beq_iff_eq, Option.some_inj, ← Bool.not_eq_true,
      memberOf_int ha hbs]
    push Not
    rfl

/-- **Conditions compare words exactly** if no two that are compared are rounded to one,
and only then. -/
theorem comparesBy_id_iff (h : ComparesBy nearest payload field a bs) :
    ComparesBy id payload field a bs ↔ ∀ b ∈ bs, nearest a = nearest b → a = b := by
  constructor
  · exact fun hid b hb hnearest => (hid.equals b hb).1 ((h.equals b hb).2 hnearest)
  · intro hexact
    have heq : ∀ b ∈ bs, (nearest a = nearest b ↔ a = b) := fun b hb =>
      ⟨hexact b hb, congrArg nearest⟩
    -- rounding keeps the order, and here it keeps apart what is different
    have hlt : ∀ b ∈ bs, (nearest a < nearest b ↔ a < b) := fun b hb => by
      have hup := @Double.nearest_mono a b
      have hdown := @Double.nearest_mono b a
      have hsame := heq b hb
      omega
    have hgt : ∀ b ∈ bs, (nearest b < nearest a ↔ b < a) := fun b hb => by
      have hup := @Double.nearest_mono a b
      have hdown := @Double.nearest_mono b a
      have hsame := heq b hb
      omega
    exact {
      equals := fun b hb => (h.equals b hb).trans (heq b hb)
      notEquals := fun b hb => (h.notEquals b hb).trans (not_congr (heq b hb))
      greaterThan := fun b hb => (h.greaterThan b hb).trans (hgt b hb)
      lessThan := fun b hb => (h.lessThan b hb).trans (hlt b hb)
      greaterOrEqual := fun b hb => by
        rw [h.greaterOrEqual b hb, ge_iff_le, ← not_lt, hlt b hb, not_lt]
        rfl
      lessOrEqual := fun b hb => by
        rw [h.lessOrEqual b hb, ← not_lt, hgt b hb, not_lt]
        rfl
      isIn := h.isIn.trans (exists_congr fun b => and_congr_right fun hb => heq b hb)
      notIn := h.notIn.trans (forall₂_congr fun b hb => not_congr (heq b hb)) }

/-- **How conditions compare words.** Every operator decides by what the words are
rounded to, which is off by at most half a place. It decides by the words themselves
exactly if none is rounded to the same as a different one that it is compared with, in
particular if one of the two is less than `2 ^ 53` away from zero. No two words are ever
put in the wrong order. -/
theorem holds_words (hfield : payload.at field = .int a) (ha : Word.fits a = true)
    (hbs : ∀ b ∈ bs, Word.fits b = true) :
    ComparesBy nearest payload field a bs
      ∧ (∀ n : Int, 2 * (nearest n - n).natAbs ≤ Double.place n.natAbs)
      ∧ (ComparesBy id payload field a bs ↔ ∀ b ∈ bs, nearest a = nearest b → a = b)
      ∧ ((∀ b ∈ bs, a.natAbs < 2 ^ 53 ∨ b.natAbs < 2 ^ 53) → ComparesBy id payload field a bs)
      ∧ ∀ b ∈ bs,
        (a ≤ b → holds ⟨field, "less_or_equal", .int b⟩ payload = true
          ∧ holds ⟨field, "greater_than", .int b⟩ payload = false)
          ∧ (b ≤ a → holds ⟨field, "greater_or_equal", .int b⟩ payload = true
            ∧ holds ⟨field, "less_than", .int b⟩ payload = false) := by
  have hnearest := comparesBy_nearest hfield ha hbs
  have hid := comparesBy_id_iff hnearest
  refine ⟨hnearest, Double.nearest_error, hid, fun hsmall => hid.2 fun b hb heq => ?_,
    fun b hb => ⟨fun hab => ⟨?_, ?_⟩, fun hba => ⟨?_, ?_⟩⟩⟩
  · rcases hsmall b hb with h | h
    · exact Double.eq_of_nearest_eq h heq
    · exact (Double.eq_of_nearest_eq h heq.symm).symm
  · exact (hnearest.lessOrEqual b hb).2 (Double.nearest_mono hab)
  · rw [← Bool.not_eq_true, hnearest.greaterThan b hb]
    exact not_lt_of_ge (Double.nearest_mono hab)
  · exact (hnearest.greaterOrEqual b hb).2 (Double.nearest_mono hba)
  · rw [← Bool.not_eq_true, hnearest.lessThan b hb]
    exact not_lt_of_ge (Double.nearest_mono hba)

/-- The first word that is rounded to another one: it equals that one, and neither is less
than the other; with smaller words and with the last one it is compared as it should be. -/
theorem holds_words_rounded :
    let a : Int := 2 ^ 53 + 1
    let payload : Json := .obj [("total", .int a)]
    let last : Int := 2 ^ 63 - 1
    payload.at "total" = .int a ∧ Word.fits a = true
      ∧ (∀ b ∈ [2 ^ 53, 7, last], Word.fits b = true)
      ∧ holds ⟨"total", "equals", .int (2 ^ 53)⟩ payload = true
      ∧ holds ⟨"total", "greater_than", .int (2 ^ 53)⟩ payload = false
      ∧ ¬ ComparesBy id payload "total" a [2 ^ 53, 7, last]
      ∧ ComparesBy id payload "total" a [7, last] := by
  intro a payload last
  have hfield : payload.at "total" = .int a := by cbv
  have ha : Word.fits a = true := by decide
  have hbs : ∀ b ∈ [2 ^ 53, 7, last], Word.fits b = true := by decide
  have hbs' : ∀ b ∈ [7, last], Word.fits b = true := by decide
  have hround : nearest a = nearest (2 ^ 53) := by decide +kernel
  have hlast : nearest a ≠ nearest last := by decide +kernel
  have hall := holds_words hfield ha hbs
  have hmem : (2 ^ 53 : Int) ∈ [2 ^ 53, 7, last] := List.mem_cons_self
  refine ⟨hfield, ha, hbs, (hall.1.equals _ hmem).2 hround, ?_, fun hid => ?_, ?_⟩
  · rw [← Bool.not_eq_true, hall.1.greaterThan _ hmem, hround]
    exact lt_irrefl _
  · exact absurd (hall.2.2.1.1 hid _ hmem hround) (by decide)
  · refine (holds_words hfield ha hbs').2.2.1.2 fun b hb heq => ?_
    rcases List.mem_cons.1 hb with rfl | hb
    · exact (Double.eq_of_nearest_eq (by decide) heq.symm).symm
    · rw [List.mem_singleton.1 hb] at heq
      exact absurd heq hlast

end Condition

end Automation
