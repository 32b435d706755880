/-
# Equality of values

Equality compares numbers by what they count, texts letter by letter, lists item by
item, and objects by their members in any order. Two objects are equal if they have
as many members and each member of the first has an equal one in the second, which
looks at one side only; it is the same from the other side as long as no object
repeats a name, since then both have the same names (`Json.names_perm`). So equality
is symmetric (`Json.equal_comm`), and, but for NaN, reflexive (`Json.equal_self`).

Key definitions: `Json.HasDistinctNames`, `Json.HasNoNaN`.
Key theorems: `Json.names_perm`, `Json.equal_comm`, `Json.equal_self`.
-/
import Automation.Proofs.Json.Readback

namespace Automation

namespace Double

theorem eq_comm (x y : Double) : x.eq y = y.eq x := by
  unfold eq
  cases x.key <;> cases y.key <;> simp [Bool.beq_comm]

theorem exists_key {x : Double} (h : x.isNaN = false) : ∃ k, x.key = some k := by
  cases x with
  | finite negative rank => exact ⟨_, rfl⟩
  | infinite negative => exact ⟨_, rfl⟩
  | nan => cases h

theorem eq_self {x : Double} (h : x.isNaN = false) : x.eq x = true := by
  obtain ⟨k, hk⟩ := exists_key h
  simp [eq, hk]

end Double

namespace Json

/-! ### Well-formed values -/

/-- No object in a value has a name twice. -/
def HasDistinctNames (j : Json) : Prop := ∀ ms, .obj ms ∈ j.parts → (ms.map (·.1)).Nodup

/-- Every number in a value is one. -/
def HasNoNaN (j : Json) : Prop := ∀ x, .float x ∈ j.parts → x.isNaN = false

theorem mem_parts_item {v x : Json} {xs : List Json} (hx : x ∈ xs) (hv : v ∈ x.parts) :
    v ∈ (arr xs).parts := by
  apply List.mem_cons_of_mem
  induction xs with
  | nil => cases hx
  | cons y ys ih =>
    rcases List.mem_cons.1 hx with rfl | hx
    · exact List.mem_append_left _ hv
    · exact List.mem_append_right _ (ih hx)

theorem mem_parts_member {v : Json} {m : String × Json} {ms : Members} (hm : m ∈ ms)
    (hv : v ∈ m.2.parts) : v ∈ (obj ms).parts := by
  apply List.mem_cons_of_mem
  induction ms with
  | nil => cases hm
  | cons n ns ih =>
    rcases List.mem_cons.1 hm with rfl | hm
    · exact List.mem_append_left _ hv
    · exact List.mem_append_right _ (ih hm)

theorem HasDistinctNames.item {xs : List Json} (h : (arr xs).HasDistinctNames) :
    ∀ x ∈ xs, x.HasDistinctNames :=
  fun _ hx ms hms => h ms (mem_parts_item hx hms)

theorem HasDistinctNames.member {ms : Members} (h : (obj ms).HasDistinctNames) :
    ∀ m ∈ ms, m.2.HasDistinctNames :=
  fun _ hm ns hns => h ns (mem_parts_member hm hns)

theorem HasDistinctNames.nodup {ms : Members} (h : (obj ms).HasDistinctNames) :
    (ms.map (·.1)).Nodup :=
  h ms List.mem_cons_self

theorem HasNoNaN.item {xs : List Json} (h : (arr xs).HasNoNaN) : ∀ x ∈ xs, x.HasNoNaN :=
  fun _ hx y hy => h y (mem_parts_item hx hy)

theorem HasNoNaN.member {ms : Members} (h : (obj ms).HasNoNaN) : ∀ m ∈ ms, m.2.HasNoNaN :=
  fun _ hm y hy => h y (mem_parts_member hm hy)

/-! ### Members by name -/

theorem mem_of_lookup {k : String} {v : Json} {ms : Members} (h : ms.lookup k = some v) :
    (k, v) ∈ ms := by
  obtain ⟨before, after, rfl, -⟩ := List.lookup_eq_some_iff.1 h
  simp

/-- A member is found by its name if no other one has it. -/
theorem lookup_of_mem {m : String × Json} {ms : Members} (hdistinct : (ms.map (·.1)).Nodup)
    (hm : m ∈ ms) : ms.lookup m.1 = some m.2 := by
  induction ms with
  | nil => cases hm
  | cons n ns ih =>
    rw [List.map_cons, List.nodup_cons] at hdistinct
    rcases List.mem_cons.1 hm with rfl | hm
    · exact List.lookup_cons_self
    · have hne : (m.1 == n.1) = false := by
        rw [beq_eq_false_iff_ne]
        intro heq
        exact hdistinct.1 (heq ▸ List.mem_map_of_mem hm)
      rw [List.lookup_cons, hne]
      exact ih hdistinct.2 hm

/-- **Objects have the same names** if they have as many and those of one are among
those of the other. -/
theorem names_perm {ms ns : Members} (hdistinct : (ms.map (·.1)).Nodup)
    (hlength : ms.length = ns.length) (h : ∀ m ∈ ms, ∃ w, ns.lookup m.1 = some w) :
    (ms.map (·.1)).Perm (ns.map (·.1)) := by
  have hsubset : ms.map (·.1) ⊆ ns.map (·.1) := by
    intro name hname
    obtain ⟨m, hm, rfl⟩ := List.mem_map.1 hname
    obtain ⟨w, hw⟩ := h m hm
    exact List.mem_map.2 ⟨(m.1, w), mem_of_lookup hw, rfl⟩
  have hsubperm : (ms.map (·.1)).Subperm (ns.map (·.1)) := List.subperm_of_subset hdistinct hsubset
  exact hsubperm.perm_of_length_le (by simp [hlength])

theorem equalMembers_iff {ms ns : Members} : equalMembers ms ns = true ↔
    ∀ m ∈ ms, ∃ w, ns.lookup m.1 = some w ∧ m.2.equal w = true := by
  induction ms with
  | nil => simp [equalMembers]
  | cons m ms ih =>
    obtain ⟨k, v⟩ := m
    rw [equalMembers, Bool.and_eq_true, ih, List.forall_mem_cons]
    apply and_congr_left
    intro _
    cases ns.lookup k <;> simp

/-! ### Numbers -/

theorem Scalar.equal_comm (x y : Scalar) : x.equal y = y.equal x := by
  cases x <;> cases y
  · exact Bool.beq_comm
  · rfl
  · rfl
  · exact Double.eq_comm _ _

theorem equal_of_scalar {a : Json} {x : Scalar} (h : a.scalar? = some x) (b : Json) :
    a.equal b = equalScalar x b := by
  cases a <;> cases h <;> rfl

theorem equal_scalar_symm {a b : Json} {x : Scalar} (ha : a.scalar? = some x)
    (h : a.equal b = true) : b.equal a = true := by
  rw [equal_of_scalar ha, equalScalar] at h
  cases hb : b.scalar? with
  | none => simp [hb] at h
  | some y =>
    have hequal : x.equal y = true := by simpa [hb] using h
    rw [equal_of_scalar hb, equalScalar, ha]
    exact (Scalar.equal_comm y x).trans hequal

/-! ### Equality -/

mutual

/-- The induction is on the first value. An object has to be searched for the names of
the second, which are its own. -/
theorem equal_symm : ∀ {a b : Json}, a.HasDistinctNames → b.HasDistinctNames →
    a.equal b = true → b.equal a = true
  | .null, b, _, _, h => by cases b <;> simp_all [equal]
  | .bool _, _, _, _, h => equal_scalar_symm rfl h
  | .int _, _, _, _, h => equal_scalar_symm rfl h
  | .float _, _, _, _, h => equal_scalar_symm rfl h
  | .str s, b, _, _, h => by cases b <;> simp_all [equal]
  | .arr xs, b, ha, hb, h => by
    cases b with
    | arr ys => exact equalItems_symm ha.item hb.item h
    | null | bool | int | float | str | obj => cases h
  | .obj ms, b, ha, hb, h => by
    cases b with
    | obj ns =>
      rw [equal, Bool.and_eq_true, beq_iff_eq] at h ⊢
      obtain ⟨hlength, hmembers⟩ := h
      have hfound := equalMembers_symm ha.member hb.member hmembers
      have hnames := names_perm ha.nodup hlength fun m hm => (hfound m hm).imp fun _ hw => hw.1
      refine ⟨hlength.symm, equalMembers_iff.2 fun n hn => ?_⟩
      -- the name of `n` is one of the first object, and `n` is what that finds
      obtain ⟨m, hm, hname⟩ := List.mem_map.1 (hnames.mem_iff.2 (List.mem_map_of_mem hn))
      obtain ⟨w, hw, hequal⟩ := hfound m hm
      have hsame : some w = some n.2 := by rw [← hw, hname, lookup_of_mem hb.nodup hn]
      obtain rfl : w = n.2 := Option.some.inj hsame
      exact ⟨m.2, hname ▸ lookup_of_mem ha.nodup hm, hequal⟩
    | null | bool | int | float | str | arr => cases h

theorem equalItems_symm : ∀ {xs ys : List Json}, (∀ x ∈ xs, x.HasDistinctNames) →
    (∀ y ∈ ys, y.HasDistinctNames) → equalItems xs ys = true → equalItems ys xs = true
  | [], [], _, _, _ => rfl
  | [], _ :: _, _, _, h => by cases h
  | _ :: _, [], _, _, h => by cases h
  | x :: xs, y :: ys, hx, hy, h => by
    rw [equalItems, Bool.and_eq_true] at h ⊢
    rw [List.forall_mem_cons] at hx hy
    exact ⟨equal_symm hx.1 hy.1 h.1, equalItems_symm hx.2 hy.2 h.2⟩

theorem equalMembers_symm : ∀ {ms ns : Members}, (∀ m ∈ ms, m.2.HasDistinctNames) →
    (∀ n ∈ ns, n.2.HasDistinctNames) → equalMembers ms ns = true →
    ∀ m ∈ ms, ∃ w, ns.lookup m.1 = some w ∧ w.equal m.2 = true
  | [], _, _, _, _ => by simp
  | (k, v) :: ms, ns, hms, hns, h => by
    rw [List.forall_mem_cons] at hms ⊢
    obtain ⟨hfirst, hrest⟩ := Bool.and_eq_true_iff.1 h
    refine ⟨?_, equalMembers_symm hms.2 hns hrest⟩
    cases hw : ns.lookup k with
    | none => simp [hw] at hfirst
    | some w =>
      rw [hw] at hfirst
      exact ⟨w, rfl, equal_symm hms.1 (hns _ (mem_of_lookup hw)) hfirst⟩

end

/-- **Equality is symmetric** on values whose objects do not repeat a name. -/
theorem equal_comm {a b : Json} (ha : a.HasDistinctNames) (hb : b.HasDistinctNames) :
    a.equal b = b.equal a :=
  Bool.eq_iff_iff.2 ⟨equal_symm ha hb, equal_symm hb ha⟩

mutual

/-- **Equality is reflexive** on values without NaN whose objects do not repeat a name. -/
theorem equal_self : ∀ {j : Json}, j.HasDistinctNames → j.HasNoNaN → j.equal j = true
  | .null, _, _ => rfl
  | .bool _, _, _ => by simp [equal, equalScalar, scalar?, Scalar.equal]
  | .int _, _, _ => by simp [equal, equalScalar, scalar?, Scalar.equal]
  | .float x, _, h => Double.eq_self (h x List.mem_cons_self)
  | .str _, _, _ => by simp [equal]
  | .arr _, hnames, hnumbers => equalItems_self hnames.item hnumbers.item
  | .obj ms, hnames, hnumbers => by
    have hfound : ∀ m ∈ ms, ms.lookup m.1 = some m.2 := fun m hm => lookup_of_mem hnames.nodup hm
    simp [equal, equalMembers_self hnames.member hnumbers.member hfound]

theorem equalItems_self : ∀ {xs : List Json}, (∀ x ∈ xs, x.HasDistinctNames) →
    (∀ x ∈ xs, x.HasNoNaN) → equalItems xs xs = true
  | [], _, _ => rfl
  | x :: xs, hnames, hnumbers => by
    rw [List.forall_mem_cons] at hnames hnumbers
    simp [equalItems, equal_self hnames.1 hnumbers.1, equalItems_self hnames.2 hnumbers.2]

theorem equalMembers_self : ∀ {ms ns : Members}, (∀ m ∈ ms, m.2.HasDistinctNames) →
    (∀ m ∈ ms, m.2.HasNoNaN) → (∀ m ∈ ms, ns.lookup m.1 = some m.2) → equalMembers ms ns = true
  | [], _, _, _, _ => rfl
  | (k, v) :: ms, ns, hnames, hnumbers, hfound => by
    rw [List.forall_mem_cons] at hnames hnumbers hfound
    simp [equalMembers, hfound.1, equal_self hnames.1 hnumbers.1,
      equalMembers_self hnames.2 hnumbers.2 hfound.2]

end

end Json

end Automation
