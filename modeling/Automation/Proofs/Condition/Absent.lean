/-
# Conditions on fields that are not there

A place that is not there (`Json.Lacks`) counts as null, so a condition on it is decided
as one on a null. It does not hold for any operator but the negated ones, with one
exception: a target that is null, or a list with a null in it, asks for what is not there
(`Condition.holds_absent`).

Key theorems: `Operator.equals_null`, `Operator.isIn_null`, `Operator.holds_null_eq_false`,
`Condition.holds_absent`.
-/
import Automation.Proofs.Condition.Agreement
import Automation.Proofs.Condition.Integers
import Automation.Proofs.Path.Places

namespace Automation

namespace Operator

variable {target : Json}

/-! ### Operators on null -/

theorem equals_null : equals.holds .null target = true ↔ target = .null := by
  rw [holds, Json.looseEqual_null_left]
  constructor
  · exact Json.eq_null_of_isNull
  · rintro rfl
    rfl

theorem notEquals_null : notEquals.holds .null target = true ↔ target ≠ .null := by
  rw [holds, Bool.not_eq_true', ← Bool.not_eq_true]
  exact not_congr equals_null

/-- A null is among the items of a list if one of them is null. -/
theorem any_equal_null (items : List Json) :
    items.any (Json.null.looseEqual ·) = true ↔ .null ∈ items := by
  rw [List.any_eq_true]
  constructor
  · rintro ⟨item, hitem, hequal⟩
    rwa [← equals_null.1 hequal]
  · exact fun h => ⟨.null, h, rfl⟩

theorem isIn_null :
    isIn.holds .null target = true ↔ ∃ items, target = .arr items ∧ .null ∈ items := by
  cases target with
  | arr items => simp [holds, Json.memberOf?, ← any_equal_null]
  | null | bool | int | float | str | obj => simp [holds, Json.memberOf?]

theorem notIn_null :
    notIn.holds .null target = true ↔ ∃ items, target = .arr items ∧ .null ∉ items := by
  cases target with
  | arr items => simp [holds, Json.memberOf?, ← any_equal_null]
  | null | bool | int | float | str | obj => simp [holds, Json.memberOf?]

/-- A null has no text and is in no order. -/
theorem holds_null_eq_false {op : Operator}
    (hop : op ∈ [contains, greaterThan, lessThan, greaterOrEqual, lessOrEqual]) :
    op.holds .null target = false := by
  rcases List.mem_cons.1 hop with rfl | hop
  · rfl
  · exact holds_unordered (.inl rfl) op hop

/-- What holds by name holds by an operator of that name. -/
theorem exists_of_holdsNamed {name : String} {value : Json}
    (h : holdsNamed name value target = true) :
    ∃ op : Operator, op.name = name ∧ op.holds value target = true := by
  unfold holdsNamed at h
  cases hname : ofName? name with
  | none => simp [hname] at h
  | some op =>
    refine ⟨op, ?_, by simpa [hname] using h⟩
    simpa using List.find?_some hname

end Operator

namespace Condition

variable {payload : Json} {field : String}

/-- **Conditions on a field that is not there.** They do not hold for the operators of
text and order, and not for equality and membership, unless the target is null or a list
with a null in it; their negations hold then. So a list of conditions with one of them
holds only if its operator is negated or it asks for a null. -/
theorem holds_absent (h : payload.Lacks field) (target : Json) :
    (∀ op ∈ [Operator.contains, .greaterThan, .lessThan, .greaterOrEqual, .lessOrEqual],
        holds ⟨field, op.name, target⟩ payload = false)
      ∧ holds ⟨field, "not_contains", target⟩ payload = true
      ∧ (holds ⟨field, "equals", target⟩ payload = true ↔ target = .null)
      ∧ (holds ⟨field, "not_equals", target⟩ payload = true ↔ target ≠ .null)
      ∧ (holds ⟨field, "in", target⟩ payload = true
        ↔ ∃ items, target = .arr items ∧ .null ∈ items)
      ∧ (holds ⟨field, "not_in", target⟩ payload = true
        ↔ ∃ items, target = .arr items ∧ .null ∉ items)
      ∧ ∀ operator cs, ⟨field, operator, target⟩ ∈ cs → allHold cs payload = true →
        operator ∈ ["not_equals", "not_contains", "not_in"]
          ∨ (operator = "equals" ∧ target = .null)
          ∨ (operator = "in" ∧ ∃ items, target = .arr items ∧ .null ∈ items) := by
  have hnull : payload.at field = .null := Json.at_eq_null h
  have hfalse : ∀ op ∈ [Operator.contains, .greaterThan, .lessThan, .greaterOrEqual, .lessOrEqual],
      holds ⟨field, op.name, target⟩ payload = false := by
    intro op hop
    rw [holds, hnull, Operator.holdsNamed_name]
    exact Operator.holds_null_eq_false hop
  have hequals : holds ⟨field, "equals", target⟩ payload = true ↔ target = .null :=
    holds_iff_of_at hnull .equals Operator.equals_null
  have hin : holds ⟨field, "in", target⟩ payload = true
      ↔ ∃ items, target = .arr items ∧ .null ∈ items :=
    holds_iff_of_at hnull .isIn Operator.isIn_null
  refine ⟨hfalse, ?_, hequals, holds_iff_of_at hnull .notEquals Operator.notEquals_null, hin,
    holds_iff_of_at hnull .notIn Operator.notIn_null, fun operator cs hmem hall => ?_⟩
  · exact (holds_iff_of_at (P := True) hnull .notContains (iff_of_true rfl trivial)).2 trivial
  · have hholds : holds ⟨field, operator, target⟩ payload = true := List.all_eq_true.1 hall _ hmem
    obtain ⟨op, rfl, -⟩ := Operator.exists_of_holdsNamed hholds
    cases op with
    | notEquals | notContains | notIn => exact .inl (by simp [Operator.name])
    | equals => exact .inr (.inl ⟨rfl, hequals.1 hholds⟩)
    | isIn => exact .inr (.inr ⟨rfl, hin.1 hholds⟩)
    | contains | greaterThan | lessThan | greaterOrEqual | lessOrEqual =>
      rw [hfalse _ (by simp)] at hholds
      cases hholds

/-- An index behind the end, a word on a list and a name behind a text lead nowhere; a text
as the target holds for the negated operators only. -/
theorem holds_absent_items :
    let payload : Json := .obj [("items", .arr [.obj [("sku", .str "a-1")]])]
    (∀ field ∈ ["items.1.sku", "items.first.sku", "items.0.sku.length", "item"],
        payload.Lacks field)
      ∧ payload.at "items.0.sku" = .str "a-1"
      ∧ holds ⟨"items.1.sku", "not_equals", .str "a-1"⟩ payload = true
      ∧ holds ⟨"items.1.sku", "not_in", .arr [.str "a-1"]⟩ payload = true
      ∧ holds ⟨"items.1.sku", "less_than", .str "a-1"⟩ payload = false
      ∧ allHold [⟨"items.1.sku", "equals", .str "a-1"⟩] payload = false := by
  intro payload
  have hlost : ∀ field ∈ ["items.1.sku", "items.first.sku", "items.0.sku.length", "item"],
      payload.Lacks field := by
    intro field hfield
    apply Or.inr
    rw [Path.isLost_iff]
    fin_cases hfield <;> cbv
  have hindex : payload.Lacks "items.1.sku" := hlost _ List.mem_cons_self
  have habsent := holds_absent hindex (.str "a-1")
  have hlisted := holds_absent hindex (.arr [.str "a-1"])
  refine ⟨hlost, by cbv, habsent.2.2.2.1.2 (by simp), hlisted.2.2.2.2.2.1.2 ⟨_, rfl, by simp⟩,
    habsent.1 .lessThan (by simp), ?_⟩
  rw [← Bool.not_eq_true]
  intro hall
  simpa using habsent.2.2.2.2.2.2 "equals" _ List.mem_cons_self hall

/-- A target of null, as of a condition without a value, and a list with a null in it are
met by a field that is not there. -/
theorem holds_absent_null :
    let payload : Json := .obj [("customer", .obj [("name", .str "Ann")])]
    payload.Lacks "customer.vip"
      ∧ holds ⟨"customer.vip", "equals", .null⟩ payload = true
      ∧ holds { field := "customer.vip", operator := "equals" } payload = true
      ∧ holds ⟨"customer.vip", "not_equals", .null⟩ payload = false
      ∧ holds ⟨"customer.vip", "in", .arr [.str "gold", .null]⟩ payload = true
      ∧ holds ⟨"customer.vip", "not_in", .arr [.str "gold", .null]⟩ payload = false := by
  intro payload
  refine ⟨.inr (Path.isLost_iff.2 ?_), ?_, ?_, ?_, ?_, ?_⟩ <;> cbv

end Condition

end Automation
