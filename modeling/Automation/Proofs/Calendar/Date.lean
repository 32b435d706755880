/-
# Dates and their counts

The date of a count of days exists, and counting its days gives the count
back: the periods that `Date.ofDay` takes off leave a day of the year, and
`splitMonths` leaves the month that this day lies in. The dates of the years
up to 9999 are counted up to `Date.lastDay`.

Key theorems: `Date.toDay_ofDay`, `Date.isValid_ofDay`, `Date.toDay_le_lastDay`.
-/
import Automation.Calendar.Date
import Mathlib

namespace Automation
namespace Date

/-! ### Months -/

theorem daysBeforeMonth_eq (year : Int) (month : Nat) :
    daysBeforeMonth year month = ((monthLengths year).take (month - 1)).sum := by
  rw [daysBeforeMonth, List.sum_eq_foldl]

/-- The month left is the one that the day lies in. -/
theorem splitMonths_eq : ∀ (lengths : List Nat) (month rest : Nat), rest < lengths.sum →
    ∃ i < lengths.length, splitMonths lengths month rest = (month + i, rest - (lengths.take i).sum + 1)
      ∧ (lengths.take i).sum ≤ rest ∧ rest < (lengths.take i).sum + lengths.getD i 0
  | [], _, _, h => by simp at h
  | n :: lengths, month, rest, h => by
    by_cases hn : rest < n
    · refine ⟨0, by simp, ?_, by simp, by simpa using hn⟩
      simp [splitMonths, hn]
    · have hrest : rest - n < lengths.sum := by
        rw [List.sum_cons] at h
        omega
      obtain ⟨i, hi, he, hle, hlt⟩ := splitMonths_eq lengths (month + 1) (rest - n) hrest
      refine ⟨i + 1, by simpa using hi, ?_, ?_, ?_⟩
      · rw [splitMonths, if_neg hn, he, List.take_succ_cons, List.sum_cons, Prod.mk.injEq]
        omega
      · rw [List.take_succ_cons, List.sum_cons]
        omega
      · rw [List.take_succ_cons, List.sum_cons, List.getD_cons_succ]
        omega

theorem take_sum_add_getD_le : ∀ (ns : List Nat) (i : Nat), (ns.take i).sum + ns.getD i 0 ≤ ns.sum
  | [], i => by simp
  | n :: ns, 0 => by simp
  | n :: ns, i + 1 => by
    have := take_sum_add_getD_le ns i
    rw [List.take_succ_cons, List.sum_cons, List.sum_cons, List.getD_cons_succ]
    omega

/-- The number of days of a year. -/
theorem monthLengths_sum (year : Int) :
    (monthLengths year).sum = if isLeap year then 366 else 365 := by
  unfold monthLengths
  by_cases h : isLeap year <;> simp [h]

theorem monthLengths_getD_le {year : Int} {month : Nat} (h1 : 1 ≤ month) (h12 : month ≤ 12) :
    (monthLengths year).getD (month - 1) 0 ≤ 31 := by
  have hall : ∀ leap : Bool, ∀ i < 12,
      [31, if leap then 29 else 28, 31, 30, 31, 30, 31, 31, 30, 31, 30, 31].getD i 0 ≤ 31 := by
    decide
  exact hall (isLeap year) (month - 1) (by omega)

/-! ### Years -/

theorem isLeap_iff {year : Int} :
    isLeap year = true ↔ year % 4 = 0 ∧ (year % 100 ≠ 0 ∨ year % 400 = 0) := by
  simp [isLeap]

/-- The days of a year lie between the starts of the year and of the next. -/
theorem daysBeforeYear_succ (year : Int) :
    daysBeforeYear (year + 1) = daysBeforeYear year + (monthLengths year).sum := by
  rw [monthLengths_sum]
  simp only [daysBeforeYear]
  by_cases hleap : isLeap year
  · rw [if_pos hleap]
    rw [isLeap_iff] at hleap
    omega
  · rw [if_neg hleap]
    rw [isLeap_iff] at hleap
    omega

theorem daysBeforeYear_le_add (year : Int) (k : Nat) :
    daysBeforeYear year ≤ daysBeforeYear (year + k) := by
  induction k with
  | zero => simp
  | succ k ih =>
    have hsucc := daysBeforeYear_succ (year + k)
    rw [Int.natCast_succ, ← Int.add_assoc]
    omega

theorem daysBeforeYear_mono {a b : Int} (h : a ≤ b) : daysBeforeYear a ≤ daysBeforeYear b := by
  have hadd := daysBeforeYear_le_add a (b - a).toNat
  have hb : a + ((b - a).toNat : Int) = b := by omega
  rwa [hb] at hadd

/-- The year of a count, and the day in it, counted from 0. -/
theorem ofDay_year (n : Int) : ∃ dayOfYear : Nat,
    daysBeforeYear (ofDay n).year + dayOfYear = n - 1
      ∧ dayOfYear < (monthLengths (ofDay n).year).sum
      ∧ splitMonths (monthLengths (ofDay n).year) 1 dayOfYear = ((ofDay n).month, (ofDay n).day) := by
  have hk : (n - 1) % 146097 < 146097 ∧ 0 ≤ (n - 1) % 146097 := by omega
  have hdiv : n - 1 = 146097 * ((n - 1) / 146097) + (n - 1) % 146097 := by omega
  simp only [ofDay]
  generalize (n - 1) / 146097 = n400 at *
  generalize (n - 1) % 146097 = r400 at *
  -- the last day of 400 years is that of the fourth century
  generalize hn100 : min 3 (r400 / 36524) = n100
  generalize hr100 : r400 - n100 * 36524 = r100
  have h100 : 0 ≤ n100 ∧ n100 ≤ 3 ∧ 0 ≤ r100 ∧ r100 ≤ 36524 ∧ (r100 = 36524 → n100 = 3) := by omega
  generalize hn4 : r100 / 1461 = n4
  generalize hr4 : r100 % 1461 = r4
  have h4 : 0 ≤ n4 ∧ n4 ≤ 24 ∧ 0 ≤ r4 ∧ r4 ≤ 1460 ∧ r100 = 1461 * n4 + r4 := by omega
  -- the last day of four years is that of the fourth year
  generalize hn1 : min 3 (r4 / 365) = n1
  have h1 : 0 ≤ n1 ∧ n1 ≤ 3 ∧ 0 ≤ r4 - n1 * 365 ∧ r4 - n1 * 365 ≤ 365
      ∧ (r4 - n1 * 365 = 365 → n1 = 3 ∧ r4 = 1460) := by omega
  refine ⟨(r4 - n1 * 365).toNat, ?_, ?_, rfl⟩
  · have hyears : (400 * n400 + 100 * n100 + 4 * n4 + n1) / 400 = n400 := by omega
    have hcenturies : (400 * n400 + 100 * n100 + 4 * n4 + n1) / 100 = 4 * n400 + n100 := by omega
    have hleaps : (400 * n400 + 100 * n100 + 4 * n4 + n1) / 4 = 100 * n400 + 25 * n100 + n4 := by
      omega
    simp only [daysBeforeYear, Int.add_sub_cancel, hyears, hcenturies, hleaps]
    omega
  · rw [monthLengths_sum]
    by_cases hlast : r4 - n1 * 365 = 365
    · have hleap : isLeap (400 * n400 + 100 * n100 + 4 * n4 + n1 + 1) = true := by
        rw [isLeap_iff]
        omega
      rw [if_pos hleap]
      omega
    · split <;> omega

/-- A count past the days before a year lies in that year or a later one. -/
theorem le_year_ofDay {n year : Int} (h : daysBeforeYear year < n) : year ≤ (ofDay n).year := by
  obtain ⟨dayOfYear, hyear, hlt, -⟩ := ofDay_year n
  have hsucc := daysBeforeYear_succ (ofDay n).year
  by_contra hlow
  have hmono := daysBeforeYear_mono (by omega : (ofDay n).year + 1 ≤ year)
  omega

/-! ### Counts and dates -/

theorem isValid_iff {d : Date} : d.isValid = true ↔
    1 ≤ d.month ∧ d.month ≤ 12 ∧ 1 ≤ d.day ∧ d.day ≤ (monthLengths d.year).getD (d.month - 1) 0 := by
  simp [isValid, daysInMonth, and_assoc]

/-- The date of a count exists. -/
theorem isValid_ofDay (n : Int) : (ofDay n).isValid = true := by
  obtain ⟨dayOfYear, -, hlt, hsplit⟩ := ofDay_year n
  obtain ⟨i, hi, he, hle, hday⟩ := splitMonths_eq _ 1 _ hlt
  rw [hsplit, Prod.mk.injEq] at he
  have hlength : (monthLengths (ofDay n).year).length = 12 := rfl
  have hindex : (ofDay n).month - 1 = i := by omega
  rw [isValid_iff, hindex]
  omega

/-- **A count is the count of its date.** -/
theorem toDay_ofDay (n : Int) : (ofDay n).toDay = n := by
  obtain ⟨dayOfYear, hyear, hlt, hsplit⟩ := ofDay_year n
  obtain ⟨i, hi, he, hle, hday⟩ := splitMonths_eq _ 1 _ hlt
  rw [hsplit, Prod.mk.injEq] at he
  have hindex : (ofDay n).month - 1 = i := by omega
  rw [toDay, daysBeforeMonth_eq, hindex]
  omega

/-- The years of the counts of a calendar run from 1 to 9999. -/
theorem year_ofDay {n : Int} (hfirst : firstDay ≤ n) (hlast : n ≤ lastDay) :
    1 ≤ (ofDay n).year ∧ (ofDay n).year ≤ 9999 := by
  obtain ⟨dayOfYear, hyear, hlt, -⟩ := ofDay_year n
  have hsucc := daysBeforeYear_succ (ofDay n).year
  have hstart : daysBeforeYear 1 = 0 := rfl
  have hend : daysBeforeYear 10000 = 3652059 := rfl
  rw [firstDay] at hfirst
  rw [lastDay] at hlast
  constructor
  · by_contra hlow
    have := @daysBeforeYear_mono ((ofDay n).year + 1) 1 (by omega)
    omega
  · by_contra hhigh
    have := @daysBeforeYear_mono 10000 (ofDay n).year (by omega)
    omega

/-- The dates of the years up to 9999 are counted up to the last day. -/
theorem toDay_le_lastDay {d : Date} (hyear : d.year ≤ 9999) (hvalid : d.isValid = true) :
    d.toDay ≤ lastDay := by
  have hday := (isValid_iff.1 hvalid).2.2.2
  have hsum := take_sum_add_getD_le (monthLengths d.year) (d.month - 1)
  calc d.toDay
      = daysBeforeYear d.year + ((monthLengths d.year).take (d.month - 1)).sum + d.day := by
        rw [toDay, daysBeforeMonth_eq]
    _ ≤ daysBeforeYear d.year + (monthLengths d.year).sum := by omega
    _ = daysBeforeYear (d.year + 1) := (daysBeforeYear_succ d.year).symm
    _ ≤ daysBeforeYear 10000 := daysBeforeYear_mono (by omega)
    _ = lastDay := rfl

end Date
end Automation
