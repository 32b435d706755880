/-
# The operators agree with each other

Loose equality takes one of five ways, which is decided by the kinds of both values
and not by their order: null, text with text, a container, two numbers, and what is
left. On each way it is symmetric, and it ends in a comparison that is reflexive
(`Json.looseEqual_comm`, `Json.looseEqual_self`).

The operators for order compare numbers. A value that has one has no NaN, so two of
them are ordered one way or the other (`Json.compareBy_le_eq`); a value without one
is in no order at all. Membership is loose equality with an item of a list.

Key definitions: `Operator.Agree`.
Key theorems: `Json.looseEqual_comm`, `Json.looseEqual_self`, `Json.compareBy_le_eq`,
`Operator.agree`.
-/
import Automation.Condition
import Automation.Proofs.Json.Equality

namespace Automation

namespace Json

variable {a b : Json}

/-! ### Loose equality -/

theorem eq_null_of_isNull (h : a.isNull = true) : a = null := by
  cases a with
  | null => rfl
  | bool | int | float | str | arr | obj => cases h

theorem looseEqual_null_left (b : Json) : null.looseEqual b = b.isNull := by
  cases b <;> rfl

theorem looseEqual_null_right (a : Json) : a.looseEqual null = a.isNull := by
  cases a <;> rfl

theorem looseEqual_str (s t : String) : (str s).looseEqual (str t) = (s == t) := rfl

/-- A container is compared as a whole. -/
theorem looseEqual_container (ha : a.isNull = false) (hb : b.isNull = false)
    (h : (a.isContainer || b.isContainer) = true) : a.looseEqual b = a.equal b := by
  unfold looseEqual
  split
  · cases ha
  · cases ha
  · cases hb
  · cases h
  · rw [h, if_pos rfl]

/-- Whether both values count as numbers, and these are equal; none if one does not. -/
def equalNumbers? (a b : Json) : Option Bool :=
  match a.looseNumber?, b.looseNumber? with
  | some x, some y => some (x.eq y)
  | _, _ => none

theorem equalNumbers?_comm (a b : Json) : a.equalNumbers? b = b.equalNumbers? a := by
  unfold equalNumbers?
  cases a.looseNumber? <;> cases b.looseNumber? <;> simp [Double.eq_comm]

/-- Values of different kinds are compared as numbers if they count as such. -/
theorem looseEqual_scalar (ha : a.isNull = false) (hb : b.isNull = false)
    (h : (a.isContainer || b.isContainer) = false) (htext : a.text? = none ∨ b.text? = none) :
    a.looseEqual b = (a.equalNumbers? b).getD (a.equal b) := by
  unfold looseEqual
  split
  · cases ha
  · cases ha
  · cases hb
  · simp [text?] at htext
  · rw [h, if_neg Bool.false_ne_true, equalNumbers?]
    cases a.looseNumber? <;> cases b.looseNumber? <;> rfl

theorem eq_str_of_text {s : String} (h : a.text? = some s) : a = str s := by
  cases a with
  | str t => rw [Option.some.inj h]
  | null | bool | int | float | arr | obj => cases h

/-- **Loose equality is symmetric** on values whose objects do not repeat a name. -/
theorem looseEqual_comm (ha : a.HasDistinctNames) (hb : b.HasDistinctNames) :
    a.looseEqual b = b.looseEqual a := by
  have hequal : a.equal b = b.equal a := equal_comm ha hb
  by_cases hnull : a.isNull = true
  · obtain rfl := eq_null_of_isNull hnull
    rw [looseEqual_null_left, looseEqual_null_right]
  by_cases hnull' : b.isNull = true
  · obtain rfl := eq_null_of_isNull hnull'
    rw [looseEqual_null_left, looseEqual_null_right]
  rw [Bool.not_eq_true] at hnull hnull'
  by_cases hcontainer : (a.isContainer || b.isContainer) = true
  · have hcontainer' : (b.isContainer || a.isContainer) = true := by rwa [Bool.or_comm]
    rw [looseEqual_container hnull hnull' hcontainer, looseEqual_container hnull' hnull hcontainer',
      hequal]
  rw [Bool.not_eq_true] at hcontainer
  have hcontainer' : (b.isContainer || a.isContainer) = false := by rwa [Bool.or_comm]
  by_cases htext : a.text? = none ∨ b.text? = none
  · rw [looseEqual_scalar hnull hnull' hcontainer htext,
      looseEqual_scalar hnull' hnull hcontainer' htext.symm, equalNumbers?_comm, hequal]
  · rw [not_or, ← ne_eq, ← ne_eq, Option.ne_none_iff_exists', Option.ne_none_iff_exists'] at htext
    obtain ⟨⟨s, hs⟩, t, ht⟩ := htext
    rw [eq_str_of_text hs, eq_str_of_text ht, looseEqual_str, looseEqual_str, Bool.beq_comm]

theorem isNaN_ofRank (negative : Bool) (rank : Nat) : (Double.ofRank negative rank).isNaN = false := by
  unfold Double.ofRank
  split <;> rfl

/-- What counts as a number and is no text counts as no NaN, unless it is one. -/
theorem isNaN_of_looseNumber {x : Double} (hnumbers : a.HasNoNaN) (htext : a.text? = none)
    (hx : a.looseNumber? = some x) : x.isNaN = false := by
  cases a with
  | bool b =>
    obtain rfl := Option.some.inj hx
    exact isNaN_ofRank _ _
  | int n =>
    have hfinite : (Double.ofRatio (n < 0) n.natAbs 1).finite? = some x := hx
    rw [Double.finite?, Option.ite_none_right_eq_some] at hfinite
    obtain rfl := Option.some.inj hfinite.2
    exact isNaN_ofRank _ _
  | float y =>
    obtain rfl := Option.some.inj hx
    exact hnumbers _ List.mem_cons_self
  | str s => cases htext
  | null | arr | obj => cases hx

/-- **Loose equality is reflexive** on values without NaN whose objects do not repeat a
name. The text of NaN is compared as text. -/
theorem looseEqual_self (hnames : a.HasDistinctNames) (hnumbers : a.HasNoNaN) :
    a.looseEqual a = true := by
  have hequal : a.equal a = true := equal_self hnames hnumbers
  by_cases hnull : a.isNull = true
  · obtain rfl := eq_null_of_isNull hnull
    rfl
  rw [Bool.not_eq_true] at hnull
  by_cases hcontainer : (a.isContainer || a.isContainer) = true
  · rw [looseEqual_container hnull hnull hcontainer, hequal]
  rw [Bool.not_eq_true] at hcontainer
  cases htext : a.text? with
  | some s =>
    rw [eq_str_of_text htext, looseEqual_str]
    exact beq_self_eq_true s
  | none =>
    rw [looseEqual_scalar hnull hnull hcontainer (.inl htext), equalNumbers?]
    cases hx : a.looseNumber? with
    | none => exact hequal
    | some x => exact Double.eq_self (isNaN_of_looseNumber hnumbers htext hx)

/-! ### Order -/

theorem exists_key_of_orderedNumber {x : Double} (h : a.orderedNumber? = some x) :
    ∃ k, x.key = some k := by
  unfold orderedNumber? at h
  obtain ⟨-, hx⟩ := Option.filter_eq_some_iff.1 h
  exact Double.exists_key (by simpa using hx)

/-- **Numbers are ordered one way or the other.** -/
theorem compareBy_le_eq (ha : a.orderedNumber?.isSome = true) (hb : b.orderedNumber?.isSome = true) :
    a.compareBy Double.le b = !a.compareBy (fun x y => y.lt x) b := by
  obtain ⟨x, hx⟩ := Option.isSome_iff_exists.1 ha
  obtain ⟨y, hy⟩ := Option.isSome_iff_exists.1 hb
  obtain ⟨k, hk⟩ := exists_key_of_orderedNumber hx
  obtain ⟨l, hl⟩ := exists_key_of_orderedNumber hy
  have hle : x.le y = decide (k ≤ l) := by simp [Double.le, hk, hl]
  have hlt : y.lt x = decide (l < k) := by simp [Double.lt, hk, hl]
  have htotal : decide (k ≤ l) = !decide (l < k) := by
    rw [← decide_not, decide_eq_decide]
    exact not_lt.symm
  simp only [compareBy, hx, hy]
  rw [hle, hlt, htotal]

theorem compareBy_swap (rel : Double → Double → Bool) (a b : Json) :
    a.compareBy (fun x y => rel y x) b = b.compareBy rel a := by
  unfold compareBy
  cases a.orderedNumber? <;> cases b.orderedNumber? <;> rfl

theorem compareBy_none (rel : Double → Double → Bool)
    (h : a.orderedNumber? = none ∨ b.orderedNumber? = none) : a.compareBy rel b = false := by
  unfold compareBy
  rcases h with h | h
  · rw [h]
  · rw [h]
    cases a.orderedNumber? <;> rfl

/-! ### Membership -/

theorem memberOf?_of_not_list (h : ∀ items, b ≠ arr items) : a.memberOf? b = none := by
  cases b with
  | arr items => exact absurd rfl (h items)
  | null | bool | int | float | str | obj => rfl

end Json

namespace Operator

/-- How the operators agree on two values, the field `a` and the target `b`. -/
structure Agree (a b : Json) : Prop where
  equals_comm : equals.holds a b = equals.holds b a
  equals_self : equals.holds a a = true
  notEquals_eq : notEquals.holds a b = !equals.holds a b
  greaterThan_eq : greaterThan.holds a b = lessThan.holds b a
  greaterOrEqual_eq : greaterOrEqual.holds a b = lessOrEqual.holds b a
  /-- Of two numbers the one is greater than the other, or it is not. -/
  ordered : a.orderedNumber?.isSome = true → b.orderedNumber?.isSome = true →
    lessOrEqual.holds a b = !greaterThan.holds a b
  unordered : a.orderedNumber? = none ∨ b.orderedNumber? = none →
    ∀ op ∈ [greaterThan, lessThan, greaterOrEqual, lessOrEqual], op.holds a b = false
  isIn_iff : ∀ items, b = .arr items →
    (isIn.holds a b = true ↔ ∃ item ∈ items, equals.holds a item = true)
  notIn_eq : ∀ items, b = .arr items → notIn.holds a b = !isIn.holds a b
  no_list : (∀ items, b ≠ .arr items) → isIn.holds a b = false ∧ notIn.holds a b = false

/-- A value without a number is in no order. -/
theorem holds_unordered {a b : Json} (h : a.orderedNumber? = none ∨ b.orderedNumber? = none) :
    ∀ op ∈ [greaterThan, lessThan, greaterOrEqual, lessOrEqual], op.holds a b = false := by
  have hnone : ∀ rel, a.compareBy rel b = false := fun rel => Json.compareBy_none rel h
  intro op hop
  fin_cases hop <;> exact hnone _

/-- **The operators agree with each other** on values without NaN whose objects do not
repeat a name. -/
theorem agree {a b : Json} (ha : a.HasDistinctNames) (hb : b.HasDistinctNames)
    (hnumbers : a.HasNoNaN) : Agree a b where
  equals_comm := Json.looseEqual_comm ha hb
  equals_self := Json.looseEqual_self ha hnumbers
  notEquals_eq := rfl
  greaterThan_eq := Json.compareBy_swap Double.lt a b
  greaterOrEqual_eq := Json.compareBy_swap Double.le a b
  ordered := Json.compareBy_le_eq
  unordered := holds_unordered
  isIn_iff items hitems := by
    subst hitems
    simp [holds, Json.memberOf?]
  notIn_eq items hitems := by
    subst hitems
    cases hmember : items.any (a.looseEqual ·) <;> simp [holds, Json.memberOf?, hmember]
  no_list h := by
    simp [holds, Json.memberOf?_of_not_list h]

/-- Members in another order, numbers of another kind: the values are equal from either
side. The text of NaN equals itself, and has no place in any order. -/
theorem agree_reordered :
    let a : Json := .obj [("count", .int 1), ("tags", .arr [.str "nan", .bool true])]
    let b : Json := .obj [("tags", .arr [.str "nan", .int 1]), ("count", .bool true)]
    a.HasDistinctNames ∧ b.HasDistinctNames ∧ a.HasNoNaN ∧ Agree a b
      ∧ equals.holds a b = true ∧ equals.holds b a = true
      ∧ Agree (.str "nan") (.int 1) ∧ lessThan.holds (.int 1) (.str "nan") = false := by
  intro a b
  have ha : a.HasDistinctNames := by
    simp [a, Json.HasDistinctNames, Json.parts, Json.itemParts, Json.memberParts]
  have hb : b.HasDistinctNames := by
    simp [b, Json.HasDistinctNames, Json.parts, Json.itemParts, Json.memberParts]
  have hnumbers : a.HasNoNaN := by
    simp [a, Json.HasNoNaN, Json.parts, Json.itemParts, Json.memberParts]
  have htext : (Json.str "nan").HasDistinctNames := by simp [Json.HasDistinctNames, Json.parts]
  have hone : (Json.int 1).HasDistinctNames := by simp [Json.HasDistinctNames, Json.parts]
  have hagree := agree ha hb hnumbers
  have hequal : equals.holds a b = true := by decide +kernel
  have hunordered := agree htext hone (by simp [Json.HasNoNaN, Json.parts])
  refine ⟨ha, hb, hnumbers, hagree, hequal, hagree.equals_comm ▸ hequal, hunordered, ?_⟩
  rw [← hunordered.greaterThan_eq]
  exact hunordered.unordered (.inl (by decide +kernel)) _ List.mem_cons_self

end Operator

end Automation
