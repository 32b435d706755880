/-
# The first match on a day

The fields of an expression hold values of their slots in ascending order
(`Cron.inSlots_of_parse`), so going through hours, minutes and seconds in order
finds the first second of a day that an expression allows, and finds none only if
there is none (`Cron.firstOnDay_isFirst`).

Key definitions: `Cron.InSlots`, `Cron.AllowsTime`, `Cron.IsFirst`.
Key theorems: `Cron.inSlots_of_parse`, `Cron.IsFirst.findSome?`,
`Cron.firstOnDay_isFirst`.
-/
import Automation.Cron.Next
import Mathlib

namespace Automation
namespace Cron

/-! ### Values in order -/

theorem Slot.mem_values {s : Slot} {n : Nat} : n ∈ s.values ↔ s.low ≤ n ∧ n ≤ s.high := by
  unfold values
  simp only [List.mem_map, List.mem_range]
  constructor
  · rintro ⟨k, hk, rfl⟩
    omega
  · rintro ⟨hlow, hhigh⟩
    exact ⟨n - s.low, by omega, by omega⟩

theorem Slot.pairwise_values (s : Slot) : s.values.Pairwise (· < ·) := by
  unfold values
  rw [List.pairwise_map]
  exact List.pairwise_lt_range.imp fun h => by omega

/-- Whether the times of an expression are values of their slots, in order. -/
structure InSlots (c : Cron) : Prop where
  hour : c.hour.values.Sublist Slot.hour.values
  minute : c.minute.values.Sublist Slot.minute.values
  second : c.second.values.Sublist Slot.second.values

theorem fieldOf_sublist (slot : Slot) (mayWiden : Bool) (items : List Item) :
    (fieldOf slot mayWiden items).values.Sublist slot.values :=
  List.filter_sublist

theorem exists_of_bind {α β : Type} {x : Option α} {f : α → Option β} {b : β} (h : (x >>= f) = some b) :
    ∃ a, f a = some b := by
  obtain ⟨a, -, hfound⟩ := Option.bind_eq_some_iff.1 h
  exact ⟨a, hfound⟩

/-- **What is parsed has its times in order.** -/
theorem inSlots_of_parse {text : String} {c : Cron} (h : parse? text = some c) : c.InSlots := by
  unfold parse? at h
  extract_lets lower parts part items dayText nearest finish start at h
  have hfinish : ∀ day, finish day = some c → c.InSlots := by
    intro day hday
    obtain ⟨weekday, hday⟩ := exists_of_bind hday
    split at hday
    · cases hday
    · obtain ⟨minute, hday⟩ := exists_of_bind hday
      obtain ⟨hour, hday⟩ := exists_of_bind hday
      obtain ⟨month, hday⟩ := exists_of_bind hday
      obtain ⟨second, hday⟩ := exists_of_bind hday
      obtain ⟨year, hday⟩ := exists_of_bind hday
      rw [← Option.some.inj hday]
      exact ⟨fieldOf_sublist .hour _ _, fieldOf_sublist .minute _ _, fieldOf_sublist .second _ _⟩
  split at h
  · cases h
  · unfold start at h
    split at h
    all_goals
      obtain ⟨day, hday⟩ := exists_of_bind h
      exact hfinish day hday

section List

variable {f : Field} {slot : Slot} {n : Nat} (hf : f.values.Sublist slot.values)

include hf

theorem Field.list_sublist : (f.list slot).Sublist slot.values := by
  unfold list
  split
  · exact List.Sublist.refl _
  · exact hf

theorem Field.pairwise_list : (f.list slot).Pairwise (· < ·) :=
  slot.pairwise_values.sublist (list_sublist hf)

theorem Field.le_high (hn : n ∈ f.list slot) : n ≤ slot.high :=
  (Slot.mem_values.1 ((list_sublist hf).subset hn)).2

omit hf in
theorem Field.mem_list_iff (hn : n ∈ slot.values) : n ∈ f.list slot ↔ f.allows n = true := by
  unfold list allows
  cases f.every <;> simp [hn]

end List

/-! ### The first second -/

/-- The first number from `start` on that has a property. -/
inductive IsFirst (P : Nat → Prop) (start : Nat) : Option Nat → Prop
  | found {n : Nat} : P n → start ≤ n → (∀ m, P m → start ≤ m → n ≤ m) → IsFirst P start (some n)
  | none : (∀ m, P m → m < start) → IsFirst P start none

variable {P Q : Nat → Prop} {start : Nat} {found : Option Nat}

theorem IsFirst.congr (h : IsFirst P start found) (hiff : ∀ n, P n ↔ Q n) : IsFirst Q start found := by
  have hsame : P = Q := funext fun n => propext (hiff n)
  exact hsame ▸ h

/-- A search part by part, where the parts come in order, finds the first of all. -/
theorem IsFirst.findSome? {key place : Nat → Nat} {search : Nat → Option Nat} {parts : List Nat}
    (hmono : ∀ m n, m ≤ n → key m ≤ key n) (hsorted : parts.Pairwise (place · < place ·))
    (h : ∀ a ∈ parts, IsFirst (fun n => P n ∧ key n = place a) start (search a)) :
    IsFirst (fun n => P n ∧ ∃ a ∈ parts, key n = place a) start (parts.findSome? search) := by
  induction parts with
  | nil => exact .none fun m ⟨_, a, ha, _⟩ => nomatch ha
  | cons a parts ih =>
    obtain ⟨hfirst, hrest⟩ := List.pairwise_cons.1 hsorted
    have hpart := h a List.mem_cons_self
    have hparts := ih hrest fun b hb => h b (List.mem_cons_of_mem a hb)
    rw [List.findSome?_cons]
    generalize search a = found at hpart ⊢
    cases hpart with
    | @found n hn hstart hleast =>
      refine .found ⟨hn.1, a, List.mem_cons_self, hn.2⟩ hstart ?_
      rintro m ⟨hm, b, hb, hkey⟩ hlater
      rcases List.mem_cons.1 hb with rfl | hb
      · exact hleast m ⟨hm, hkey⟩ hlater
      · by_contra hlt
        have := hmono m n (by omega)
        have := hfirst b hb
        have := hn.2
        omega
    | none hnone =>
      generalize parts.findSome? search = found at hparts
      cases hparts with
      | @found n hn hstart hleast =>
        obtain ⟨hp, b, hb, hkey⟩ := hn
        refine .found ⟨hp, b, List.mem_cons_of_mem a hb, hkey⟩ hstart ?_
        rintro m ⟨hm, d, hd, hkey⟩ hlater
        rcases List.mem_cons.1 hd with rfl | hd
        · have := hnone m ⟨hm, hkey⟩
          omega
        · exact hleast m ⟨hm, d, hd, hkey⟩ hlater
      | none hnone' =>
        refine .none ?_
        rintro m ⟨hm, d, hd, hkey⟩
        rcases List.mem_cons.1 hd with rfl | hd
        · exact hnone m ⟨hm, hkey⟩
        · exact hnone' m ⟨hm, d, hd, hkey⟩

/-- The first of some numbers in order. -/
theorem IsFirst.find? {base : Nat} {parts : List Nat} (hsorted : parts.Pairwise (· < ·)) :
    IsFirst (fun n => ∃ a ∈ parts, n = base + a) start
      ((parts.find? fun a => start ≤ base + a).map (base + ·)) := by
  induction parts with
  | nil => exact .none fun m ⟨a, ha, _⟩ => nomatch ha
  | cons a parts ih =>
    obtain ⟨hfirst, hrest⟩ := List.pairwise_cons.1 hsorted
    rw [List.find?_cons]
    by_cases ha : start ≤ base + a
    · simp only [ha, decide_true, Option.map_some]
      refine .found ⟨a, List.mem_cons_self, rfl⟩ ha ?_
      rintro m ⟨b, hb, rfl⟩ -
      rcases List.mem_cons.1 hb with rfl | hb
      · exact Nat.le_refl _
      · have := hfirst b hb
        omega
    · simp only [ha, decide_false]
      have hparts := ih hrest
      generalize (parts.find? fun a => start ≤ base + a).map (base + ·) = found at hparts ⊢
      cases hparts with
      | @found n hn hstart hleast =>
        obtain ⟨b, hb, rfl⟩ := hn
        refine .found ⟨b, List.mem_cons_of_mem a hb, rfl⟩ hstart ?_
        rintro m ⟨d, hd, rfl⟩ hlater
        rcases List.mem_cons.1 hd with rfl | hd
        · omega
        · exact hleast _ ⟨d, hd, rfl⟩ hlater
      | none hnone =>
        refine .none ?_
        rintro m ⟨d, hd, rfl⟩
        rcases List.mem_cons.1 hd with rfl | hd
        · omega
        · exact hnone _ ⟨d, hd, rfl⟩

/-! ### The first second of a day -/

/-- Whether an expression allows a second of the day. -/
def AllowsTime (c : Cron) (n : Nat) : Prop :=
  c.hour.allows (n / 3600) = true ∧ c.minute.allows (n / 60 % 60) = true ∧ c.second.allows (n % 60) = true

/-- **The search of a day finds its first second that is allowed.** -/
theorem firstOnDay_isFirst {c : Cron} (hc : c.InSlots) (start : Nat) :
    IsFirst (fun n => n < 86400 ∧ c.AllowsTime n) start (c.firstOnDay start) := by
  have hseconds : ∀ h m, IsFirst (fun n => n % 60 ∈ c.second.list .second ∧ n / 60 = h * 60 + m) start
      (((c.second.list .second).find? fun s => start ≤ h * 3600 + m * 60 + s).map (h * 3600 + m * 60 + ·)) := by
    intro h m
    refine (IsFirst.find? (Field.pairwise_list hc.second)).congr fun n => ⟨?_, ?_⟩
    · rintro ⟨s, hs, rfl⟩
      have hhigh : s ≤ 59 := Field.le_high hc.second hs
      have hlow : (h * 3600 + m * 60 + s) % 60 = s := by omega
      exact ⟨hlow.symm ▸ hs, by omega⟩
    · rintro ⟨hs, hplace⟩
      exact ⟨n % 60, hs, by omega⟩
  have hminutes : ∀ h, IsFirst (fun n => (n / 60 % 60 ∈ c.minute.list .minute ∧ n % 60 ∈ c.second.list .second)
      ∧ n / 3600 = h) start ((c.minute.list .minute).findSome? fun m =>
        if h * 3600 + m * 60 + 60 ≤ start then none
        else ((c.second.list .second).find? fun s => start ≤ h * 3600 + m * 60 + s).map
          (h * 3600 + m * 60 + ·)) := by
    intro h
    refine (@IsFirst.findSome? (fun n => n % 60 ∈ c.second.list .second) start (· / 60) (h * 60 + ·) _ _
      (fun m n hle => Nat.div_le_div_right hle) ((Field.pairwise_list hc.minute).imp fun h => by omega)
      fun m hm => ?_).congr fun n => ⟨?_, ?_⟩
    · by_cases hpast : h * 3600 + m * 60 + 60 ≤ start
      · rw [if_pos hpast]
        exact .none fun n hn => by
          have := hn.2
          omega
      · rw [if_neg hpast]
        exact hseconds h m
    · rintro ⟨hs, m, hm, hplace⟩
      have hhigh : m ≤ 59 := Field.le_high hc.minute hm
      have hlow : n / 60 % 60 = m := by omega
      exact ⟨⟨hlow.symm ▸ hm, hs⟩, by omega⟩
    · rintro ⟨⟨hm, hs⟩, hplace⟩
      exact ⟨hs, _, hm, by omega⟩
  unfold firstOnDay
  refine (@IsFirst.findSome? (fun n => n / 60 % 60 ∈ c.minute.list .minute ∧ n % 60 ∈ c.second.list .second)
    start (· / 3600) id _ _ (fun m n hle => Nat.div_le_div_right hle) (Field.pairwise_list hc.hour)
    fun h hh => ?_).congr fun n => ?_
  · by_cases hpast : h * 3600 + 3600 ≤ start
    · rw [if_pos hpast]
      exact .none fun n hn => by
        have : n / 3600 = h := hn.2
        omega
    · rw [if_neg hpast]
      exact hminutes h
  · have hminute := @Field.mem_list_iff c.minute .minute (n / 60 % 60)
      (Slot.mem_values.2 ⟨Nat.zero_le _, show _ ≤ 59 by omega⟩)
    have hsecond := @Field.mem_list_iff c.second .second (n % 60)
      (Slot.mem_values.2 ⟨Nat.zero_le _, show _ ≤ 59 by omega⟩)
    unfold AllowsTime
    rw [hminute, hsecond]
    constructor
    · rintro ⟨⟨hm, hs⟩, h, hh, hplace⟩
      have hhigh : h ≤ 23 := Field.le_high hc.hour hh
      have hplace : n / 3600 = h := hplace
      have hhour := Field.mem_list_iff (f := c.hour) ((Field.list_sublist hc.hour).subset hh)
      exact ⟨by omega, by rw [hplace]; exact hhour.1 hh, hm, hs⟩
    · rintro ⟨hday, hh, hm, hs⟩
      have hhour := @Field.mem_list_iff c.hour .hour (n / 3600)
        (Slot.mem_values.2 ⟨Nat.zero_le _, show _ ≤ 23 by omega⟩)
      exact ⟨⟨hm, hs⟩, _, hhour.2 hh, rfl⟩

end Cron
end Automation
