/-
# Months and years one after the other

A date that exists is the date of its count, so counts and dates determine each
other (`Date.ofDay_toDay`). The days of a month follow each other from its first
one on, and the first of the next month comes after the last of them
(`Date.first_monthAfter`). Of two months that follow each other one has a day of
every number (`Date.le_daysInMonth_or`).

Key definitions: `Date.first`, `Date.monthAfter`.
Key theorems: `Date.ofDay_toDay`, `Date.first_monthAfter`, `Date.ofDay_first_add`,
`Date.le_daysInMonth_or`.
-/
import Automation.Proofs.Calendar.Date

namespace Automation
namespace Date

variable {year : Int} {month day : Nat}

/-- The count of the first day of a month. -/
def first (year : Int) (month : Nat) : Int := toDay ⟨year, month, 1⟩

/-- The month after a month. -/
def monthAfter (year : Int) (month : Nat) : Int × Nat :=
  if month == 12 then (year + 1, 1) else (year, month + 1)

theorem toDay_eq (year : Int) (month day : Nat) : toDay ⟨year, month, day⟩ = first year month + day - 1 := by
  simp only [first, toDay]
  omega

theorem daysBeforeMonth_succ (h : 1 ≤ month) :
    daysBeforeMonth year (month + 1) = daysBeforeMonth year month + daysInMonth year month := by
  have hlist : ∀ (ns : List Nat) (i : Nat), (ns.take (i + 1)).sum = (ns.take i).sum + ns.getD i 0 := by
    intro ns i
    rw [List.take_add_one, List.sum_append]
    cases hget : ns[i]? <;> simp [hget]
  have hmonth : month + 1 - 1 = month - 1 + 1 := by omega
  rw [daysBeforeMonth_eq, daysBeforeMonth_eq, hmonth, hlist]
  rfl

theorem daysBeforeMonth_thirteen (year : Int) : daysBeforeMonth year 13 = (monthLengths year).sum := by
  rw [daysBeforeMonth_eq]
  rfl

/-- The first of the next month comes after the last day of a month. -/
theorem first_monthAfter (h : 1 ≤ month) :
    first (monthAfter year month).1 (monthAfter year month).2
      = first year month + daysInMonth year month := by
  by_cases h12 : month = 12
  · subst h12
    have hsucc : daysBeforeMonth year 13 = daysBeforeMonth year 12 + daysInMonth year 12 :=
      daysBeforeMonth_succ h
    have hnext := daysBeforeYear_succ year
    have hyear := daysBeforeMonth_thirteen year
    have hstart : daysBeforeMonth (year + 1) 1 = 0 := rfl
    simp only [monthAfter, first, toDay, beq_self_eq_true, if_true]
    omega
  · have hsucc := @daysBeforeMonth_succ year month h
    have hne : (month == 12) = false := by simp [h12]
    simp only [monthAfter, first, toDay, hne, Bool.false_eq_true, if_false]
    omega

theorem month_monthAfter (h12 : month ≤ 12) :
    1 ≤ (monthAfter year month).2 ∧ (monthAfter year month).2 ≤ 12 := by
  unfold monthAfter
  split
  · simp
  · rename_i hne
    have hlt : month ≠ 12 := by simpa using hne
    exact ⟨by simp, by show month + 1 ≤ 12; omega⟩

/-! ### Dates and counts -/

theorem daysBeforeMonth_mono {a b : Nat} (h : a ≤ b) : daysBeforeMonth year a ≤ daysBeforeMonth year b := by
  rw [daysBeforeMonth_eq, daysBeforeMonth_eq]
  exact List.monotone_sum_take _ (by omega)

/-- A date lies in its month, and that in its year. -/
theorem toDay_bounds {d : Date} (h : d.isValid = true) :
    daysBeforeYear d.year < d.toDay ∧ d.toDay ≤ daysBeforeYear (d.year + 1)
      ∧ daysBeforeYear d.year + daysBeforeMonth d.year d.month < d.toDay
      ∧ d.toDay ≤ daysBeforeYear d.year + daysBeforeMonth d.year (d.month + 1) := by
  obtain ⟨h1, h12, hday, hlast⟩ := isValid_iff.1 h
  have hsum := take_sum_add_getD_le (monthLengths d.year) (d.month - 1)
  have hsucc := daysBeforeYear_succ d.year
  have hmonth : daysBeforeMonth d.year (d.month + 1)
      = daysBeforeMonth d.year d.month + daysInMonth d.year d.month := daysBeforeMonth_succ h1
  rw [← daysBeforeMonth_eq] at hsum
  simp only [daysInMonth] at hmonth
  rw [toDay]
  omega

/-- **A date that exists is the date of its count.** -/
theorem ofDay_toDay {d : Date} (h : d.isValid = true) : ofDay d.toDay = d := by
  have hsame : (ofDay d.toDay).toDay = d.toDay := toDay_ofDay _
  have hd := toDay_bounds h
  have he := toDay_bounds (isValid_ofDay d.toDay)
  rw [hsame] at he
  generalize hfound : ofDay d.toDay = e at hsame he
  have hyear : e.year = d.year := by
    by_contra hne
    rcases Int.lt_or_gt_of_ne hne with hlt | hlt
    · have := daysBeforeYear_mono (show e.year + 1 ≤ d.year by omega)
      omega
    · have := daysBeforeYear_mono (show d.year + 1 ≤ e.year by omega)
      omega
  rw [hyear] at he
  have hmonth : e.month = d.month := by
    by_contra hne
    rcases Nat.lt_or_gt_of_ne hne with hlt | hlt
    · have := @daysBeforeMonth_mono d.year _ _ (show e.month + 1 ≤ d.month by omega)
      omega
    · have := @daysBeforeMonth_mono d.year _ _ (show d.month + 1 ≤ e.month by omega)
      omega
  have hday : e.day = d.day := by
    rw [toDay, toDay, hyear, hmonth] at hsame
    omega
  cases e
  cases d
  simp only at hyear hmonth hday
  rw [hyear, hmonth, hday]

/-- The days of a month are those from its first one on. -/
theorem ofDay_first_add (h1 : 1 ≤ month) (h12 : month ≤ 12) {n : Int} (hfirst : first year month ≤ n)
    (hlast : n < first year month + daysInMonth year month) :
    ofDay n = ⟨year, month, (n - first year month + 1).toNat⟩ := by
  have hvalid : isValid ⟨year, month, (n - first year month + 1).toNat⟩ = true := by
    rw [isValid_iff]
    have hlength : (monthLengths year).getD (month - 1) 0 = daysInMonth year month := rfl
    simp only [hlength]
    omega
  have hcount : toDay ⟨year, month, (n - first year month + 1).toNat⟩ = n := by
    rw [toDay_eq]
    omega
  rw [← hcount, ofDay_toDay hvalid, hcount]

/-- Every date lies in its month. -/
theorem first_ofDay_le (n : Int) : first (ofDay n).year (ofDay n).month ≤ n
    ∧ n < first (ofDay n).year (ofDay n).month + daysInMonth (ofDay n).year (ofDay n).month := by
  obtain ⟨h1, h12, hday, hlast⟩ := isValid_iff.1 (isValid_ofDay n)
  have hcount := toDay_ofDay n
  have heq := toDay_eq (ofDay n).year (ofDay n).month (ofDay n).day
  have hlength : (monthLengths (ofDay n).year).getD ((ofDay n).month - 1) 0
      = daysInMonth (ofDay n).year (ofDay n).month := rfl
  rw [show (⟨(ofDay n).year, (ofDay n).month, (ofDay n).day⟩ : Date) = ofDay n from rfl, hcount] at heq
  omega

/-- A count lies in the year of its date. -/
theorem year_bounds (n : Int) :
    daysBeforeYear (ofDay n).year < n ∧ n ≤ daysBeforeYear ((ofDay n).year + 1) := by
  obtain ⟨hlow, hhigh, -⟩ := toDay_bounds (isValid_ofDay n)
  rw [toDay_ofDay] at hlow hhigh
  exact ⟨hlow, hhigh⟩

theorem daysBeforeYear_succ_ge (year : Int) : daysBeforeYear year + 365 ≤ daysBeforeYear (year + 1) := by
  have hsum := monthLengths_sum year
  rw [daysBeforeYear_succ, hsum]
  split <;> omega

/-- Two days of which one follows the other lie in one year or in two years
that follow each other. -/
theorem year_ofDay_succ (n : Int) : (ofDay (n + 1)).year = (ofDay n).year
    ∨ ((ofDay (n + 1)).year = (ofDay n).year + 1 ∧ daysBeforeYear ((ofDay n).year + 1) = n) := by
  obtain ⟨hlow, hhigh⟩ := year_bounds n
  obtain ⟨hlow', hhigh'⟩ := year_bounds (n + 1)
  generalize (ofDay n).year = year at *
  generalize (ofDay (n + 1)).year = year' at *
  rcases Int.lt_trichotomy year' year with hlt | heq | hlt
  · have := daysBeforeYear_mono (show year' + 1 ≤ year by omega)
    omega
  · exact .inl heq
  · have hnext := daysBeforeYear_mono (show year + 1 ≤ year' by omega)
    have hlong := daysBeforeYear_succ_ge (year + 1)
    by_cases hyear : year' = year + 1
    · exact .inr ⟨hyear, by omega⟩
    · have := daysBeforeYear_mono (show year + 1 + 1 ≤ year' by omega)
      omega

/-! ### The lengths of months -/

theorem le_daysInMonth (year : Int) {month : Nat} (h1 : 1 ≤ month) (h12 : month ≤ 12) :
    28 ≤ daysInMonth year month := by
  have hall : ∀ leap : Bool, ∀ i < 12,
      28 ≤ [31, if leap then 29 else 28, 31, 30, 31, 30, 31, 31, 30, 31, 30, 31].getD i 0 := by
    decide
  exact hall (isLeap year) (month - 1) (by omega)

/-- Of two months that follow each other one has thirty-one days. -/
theorem le_daysInMonth_or (h1 : 1 ≤ month) (h12 : month ≤ 12) :
    daysInMonth year month = 31
      ∨ daysInMonth (monthAfter year month).1 (monthAfter year month).2 = 31 := by
  have hall : ∀ leap leap' : Bool, ∀ m < 12,
      [31, if leap then 29 else 28, 31, 30, 31, 30, 31, 31, 30, 31, 30, 31].getD m 0 = 31
        ∨ [31, if leap' then 29 else 28, 31, 30, 31, 30, 31, 31, 30, 31, 30, 31].getD
          ((if m + 1 == 12 then 1 else m + 2) - 1) 0 = 31 := by
    decide
  have hmonth := hall (isLeap year) (isLeap (monthAfter year month).1) (month - 1) (by omega)
  have hindex : month - 1 + 1 = month ∧ month - 1 + 2 = month + 1 := by omega
  rw [hindex.1, hindex.2] at hmonth
  have hnext : (monthAfter year month).2 = if month == 12 then 1 else month + 1 := by
    unfold monthAfter
    split <;> rfl
  rw [← hnext] at hmonth
  exact hmonth

end Date
end Automation
