/-
# Dates

Days of the proleptic Gregorian calendar are counted from day 1, the first
of January of the year 1. A count of days and a date determine each other
inside the years 1 to 9999.

Key definitions: `Date`, `Date.toDay`, `Date.ofDay`, `weekdayOf`.
-/
namespace Automation

structure Date where
  year : Int
  month : Nat
  day : Nat
deriving DecidableEq, Repr

namespace Date

def isLeap (year : Int) : Bool :=
  year % 4 == 0 && (year % 100 != 0 || year % 400 == 0)

/-- The lengths of the months of a year. -/
def monthLengths (year : Int) : List Nat :=
  [31, if isLeap year then 29 else 28, 31, 30, 31, 30, 31, 31, 30, 31, 30, 31]

/-- The length of a month, 1 to 12, of a year. -/
def daysInMonth (year : Int) (month : Nat) : Nat := (monthLengths year).getD (month - 1) 0

/-- The days before the first of January of a year. -/
def daysBeforeYear (year : Int) : Int :=
  let y := year - 1
  365 * y + y / 4 - y / 100 + y / 400

/-- The days before the first of a month in its year. -/
def daysBeforeMonth (year : Int) (month : Nat) : Nat := ((monthLengths year).take (month - 1)).foldl (· + ·) 0

/-- The count of a date. -/
def toDay (d : Date) : Int := daysBeforeYear d.year + daysBeforeMonth d.year d.month + d.day

/-- The month and the day in it of a day of the year, counted from 0; `month`
is the number of the first of the months left. -/
def splitMonths : (lengths : List Nat) → (month rest : Nat) → Nat × Nat
  | [], month, rest => (month, rest + 1)
  | n :: lengths, month, rest =>
    if rest < n then (month, rest + 1) else splitMonths lengths (month + 1) (rest - n)

/-- The date of a count: periods of 400, 100, 4 and 1 years are taken off,
where the last day of a leap period belongs to the year before it. -/
def ofDay (n : Int) : Date :=
  let k := n - 1
  let n400 := k / 146097
  let r400 := k % 146097
  let n100 := min 3 (r400 / 36524)
  let r100 := r400 - n100 * 36524
  let n4 := r100 / 1461
  let r4 := r100 % 1461
  let n1 := min 3 (r4 / 365)
  let year := 400 * n400 + 100 * n100 + 4 * n4 + n1 + 1
  let (month, day) := splitMonths (monthLengths year) 1 (r4 - n1 * 365).toNat
  ⟨year, month, day⟩

/-- The weekday of a count: 0 is Sunday, 6 is Saturday. -/
def weekdayOf (n : Int) : Nat := (n % 7).toNat

/-- The first and the last day of the years 1 to 9999. -/
def firstDay : Int := 1

def lastDay : Int := 3652059

/-- Whether the date exists. -/
def isValid (d : Date) : Bool :=
  1 ≤ d.month && d.month ≤ 12 && 1 ≤ d.day && d.day ≤ daysInMonth d.year d.month

end Date

end Automation
