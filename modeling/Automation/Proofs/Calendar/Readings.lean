/-
# The next reading of a schedule

A schedule of clock times whose fields are in order runs at its time on some of
the days. The reading that `Schedule.nextReading` gives for what the clock shows
now is the one on the first of these days whose time is still to come, and a
search fails only where that day lies beyond the calendar
(`Schedule.nextReading_finds`). Of two months that follow each other one has
every day of the month, so the months that are looked through are more than
enough.

Key definitions: `Schedule.IsTimed`, `Schedule.runsOn`, `Schedule.IsNextDay`,
`Schedule.Finds`.
Key theorems: `TimeOfDay.parse?_lt`, `Schedule.nextMonthly_finds`,
`Schedule.nextReading_finds`.
-/
import Automation.Proofs.Calendar.Months
import Automation.Schedule

namespace Automation

/-! ### Times of day -/

namespace Text

theorem digitValue?_lt {c : Char} {n : Nat} (h : digitValue? c = some n) : n < 10 := by
  unfold digitValue? at h
  split at h
  · split at h
    · rename_i hdigit
      have hbounds : 48 ≤ c.toNat ∧ c.toNat ≤ 57 := by
        simpa [Char.isDigit, UInt32.le_iff_toNat_le] using hdigit
      have hn : c.toNat - 48 = n := Option.some.inj h
      omega
    · cases h
  · obtain ⟨first, hfirst, hn⟩ := Option.map_eq_some_iff.1 h
    have hblock := List.find?_some hfirst
    simp only [Bool.and_eq_true, decide_eq_true_eq] at hblock
    omega

end Text

namespace TimeOfDay

/-- Whether a day has the time. -/
def InDay (t : TimeOfDay) : Prop := t.hour < 24 ∧ t.minute < 60

theorem hour?_lt {cs : List Char} {n : Nat} (h : hour? cs = some n) : n < 24 := by
  unfold hour? at h
  split at h
  · have := Text.digitValue?_lt h
    omega
  · split at h
    · rename_i d hd
      have hlast : d.toNat ≤ 51 := by
        have := (Bool.and_eq_true _ _ ▸ hd).2
        simpa [Char.le_def, UInt32.le_iff_toNat_le] using this
      have hn : 20 + (d.toNat - 48) = n := Option.some.inj h
      omega
    · cases h
  · split at h
    · rename_i t d _ ht
      obtain ⟨v, hv, hn⟩ := Option.map_eq_some_iff.1 h
      have hlt := Text.digitValue?_lt hv
      have hten : t.toNat - 48 ≤ 1 := by
        rcases Bool.or_eq_true _ _ ▸ ht with h0 | h1
        · rw [eq_of_beq h0]
          decide
        · rw [eq_of_beq h1]
          decide
      omega
    · cases h
  · cases h

theorem minute?_lt {t d : Char} {n : Nat} (h : minute? t d = some n) : n < 60 := by
  unfold minute? at h
  split at h
  · rename_i ht
    have hfirst : t.toNat ≤ 53 := by
      have := (Bool.and_eq_true _ _ ▸ ht).2
      simpa [Char.le_def, UInt32.le_iff_toNat_le] using this
    obtain ⟨v, hv, hn⟩ := Option.map_eq_some_iff.1 h
    have hlt := Text.digitValue?_lt hv
    omega
  · cases h

/-- **A time of day in text is one that a day has.** -/
theorem parse?_lt {text : String} {t : TimeOfDay} (h : parse? text = some t) : t.InDay := by
  have hparts : ∀ cs a b, (do return (⟨← hour? cs, ← minute? a b⟩ : TimeOfDay)) = some t → t.InDay := by
    intro cs a b hdo
    simp only [Option.bind_eq_bind, Option.bind_eq_some_iff, Option.pure_def, Option.some.injEq] at hdo
    obtain ⟨hour, hhour, minute, hminute, rfl⟩ := hdo
    exact ⟨hour?_lt hhour, minute?_lt hminute⟩
  simp only [parse?] at h
  split at h
  · exact hparts _ _ _ h
  · exact hparts _ _ _ h
  · cases h

end TimeOfDay

/-! ### Readings at a time of day -/

namespace Wall

variable {t : TimeOfDay} {day day' : Int} {now : Wall}

theorem atTime_micros (day : Int) (hour minute : Nat) :
    (atTime day hour minute).micros = day * 86400000000 + (hour * 3600 + minute * 60) * 1000000 := by
  simp [atTime, ofDay, microsPerDay, microsPerSecond]

/-- The reading at a time of a day lies in that day. -/
theorem day_atTime (ht : t.InDay) : (atTime day t.hour t.minute).day = day := by
  obtain ⟨hhour, hminute⟩ := ht
  have hmicros := atTime_micros day t.hour t.minute
  simp only [Wall.day, microsPerDay, microsPerSecond]
  omega

/-- At one time of day, later days have later readings. -/
theorem atTime_lt_iff : (atTime day t.hour t.minute).micros < (atTime day' t.hour t.minute).micros
    ↔ day < day' := by
  rw [atTime_micros, atTime_micros]
  omega

theorem day_le_of_lt_atTime (ht : t.InDay) (h : now.micros < (atTime day t.hour t.minute).micros) :
    now.day ≤ day := by
  obtain ⟨hhour, hminute⟩ := ht
  rw [atTime_micros] at h
  simp only [Wall.day, microsPerDay, microsPerSecond]
  omega

theorem lt_atTime_of_day_lt (h : now.day < day) : now.micros < (atTime day t.hour t.minute).micros := by
  rw [atTime_micros]
  simp only [Wall.day, microsPerDay, microsPerSecond] at h
  omega

end Wall

/-! ### The days of a schedule -/

namespace Schedule

open Zone (Local)

/-- Whether the field that names the days of a schedule is there and in range. -/
def hasDay (s : Schedule) : Bool :=
  match s.kind with
  | .daily => true
  | .weekly => s.dayOfWeek.any fun d => 0 ≤ d && d ≤ 6
  | .monthly => s.dayOfMonth.any fun d => 1 ≤ d && d ≤ 31
  | _ => false

/-- Whether a schedule runs on a day: every day, on its weekday, or on its day
of the month. -/
def runsOn (s : Schedule) (day : Int) : Bool :=
  match s.kind with
  | .daily => true
  | .weekly => s.dayOfWeek == some (Date.weekdayOf day : Int)
  | .monthly => s.dayOfMonth == some ((Date.ofDay day).day : Int)
  | _ => false

/-- A schedule of clock times whose fields are in order, and its time of day. -/
structure IsTimed (s : Schedule) (t : TimeOfDay) : Prop where
  time : s.time.bind TimeOfDay.parse? = some t
  day : s.hasDay = true

/-- No day before `day` has a run of the schedule that is still to come. -/
def NoneBefore (s : Schedule) (t : TimeOfDay) (now : Wall) (day : Int) : Prop :=
  ∀ other, s.runsOn other = true → now.micros < (Wall.atTime other t.hour t.minute).micros → day ≤ other

/-- A day is the first one that the schedule runs on at a time still to come. -/
structure IsNextDay (s : Schedule) (t : TimeOfDay) (now : Wall) (day : Int) : Prop where
  runs : s.runsOn day = true
  ahead : now.micros < (Wall.atTime day t.hour t.minute).micros
  first : s.NoneBefore t now day

/-- What the search for the reading at the time of a day gives: the reading,
or an error if the day lies beyond the calendar, though never for want of a month. -/
inductive Finds (t : TimeOfDay) (day : Int) : Except CalendarError (Option Local) → Prop
  | reading (fold : Bool) : day ≤ Date.lastDay → Finds t day (.ok (some ⟨.atTime day t.hour t.minute, fold⟩))
  | beyond (e : CalendarError) : Date.lastDay < day → (∀ d, e ≠ .noMonth d) → Finds t day (.error e)

variable {s : Schedule} {t : TimeOfDay} {now : Local} {day : Int}

theorem IsTimed.inDay (h : s.IsTimed t) : t.InDay := by
  obtain ⟨text, -, hparse⟩ := Option.bind_eq_some_iff.1 h.time
  exact TimeOfDay.parse?_lt hparse

/-- The next day is not in the past. -/
theorem IsNextDay.day_le {wall : Wall} (h : s.IsNextDay t wall day) (ht : t.InDay) : wall.day ≤ day :=
  Wall.day_le_of_lt_atTime ht h.ahead

/-- The reading at a time of a day from today on exists unless the calendar ends before. -/
theorem atTime_eq (ht : t.InDay) (hnow : now.wall.inRange = true) (hday : now.wall.day ≤ day) :
    atTime day t = if day ≤ Date.lastDay then .ok ⟨.atTime day t.hour t.minute, false⟩
      else .error .dateOutOfRange := by
  have hfirst := (Wall.inRange_iff.1 hnow).1
  have hrange : (Wall.atTime day t.hour t.minute).inRange = true ↔ day ≤ Date.lastDay := by
    rw [Wall.inRange_iff, Wall.day_atTime ht]
    omega
  unfold atTime Wall.checked
  by_cases hlast : day ≤ Date.lastDay
  · rw [if_pos hlast, if_pos (hrange.2 hlast)]
    rfl
  · rw [if_neg hlast, if_neg (mt hrange.1 hlast)]
    rfl

theorem finds_atTime (ht : t.InDay) (hnow : now.wall.inRange = true) (hday : now.wall.day ≤ day) :
    Finds t day ((atTime day t).map some) := by
  rw [atTime_eq ht hnow hday]
  by_cases hlast : day ≤ Date.lastDay
  · rw [if_pos hlast]
    exact .reading false hlast
  · rw [if_neg hlast]
    exact .beyond .dateOutOfRange (by omega) (by simp)

/-! ### Every day -/

theorem nextDaily_finds (hkind : s.kind = .daily) (ht : t.InDay) (hnow : now.wall.inRange = true) :
    ∃ day, s.IsNextDay t now.wall day ∧ Finds t day ((nextDaily now t).map some) := by
  have hruns : ∀ day, s.runsOn day = true := by
    intro day
    simp only [runsOn, hkind]
  unfold nextDaily
  by_cases hpast : (Wall.atTime now.wall.day t.hour t.minute).micros ≤ now.wall.micros
  · refine ⟨now.wall.day + 1, ⟨hruns _, Wall.lt_atTime_of_day_lt (by omega), ?_⟩, ?_⟩
    · intro other _ hahead
      have := Wall.atTime_lt_iff.1 (Int.lt_of_le_of_lt hpast hahead)
      omega
    · rw [if_pos hpast]
      exact finds_atTime ht hnow (by omega)
  · refine ⟨now.wall.day, ⟨hruns _, by omega, ?_⟩, ?_⟩
    · intro other _ hahead
      exact Wall.day_le_of_lt_atTime ht hahead
    · rw [if_neg hpast]
      exact .reading now.fold (Wall.inRange_iff.1 hnow).2

/-! ### On a weekday -/

theorem nextWeekly_finds {weekday : Int} (hkind : s.kind = .weekly) (hfield : s.dayOfWeek = some weekday)
    (hweekday : 0 ≤ weekday ∧ weekday ≤ 6) (ht : t.InDay) (hnow : now.wall.inRange = true) :
    ∃ day, s.IsNextDay t now.wall day ∧ Finds t day ((nextWeekly now t weekday).map some) := by
  have hruns : ∀ day, s.runsOn day = true ↔ day % 7 = weekday := by
    intro day
    simp only [runsOn, hkind, hfield, beq_iff_eq, Option.some.injEq, Date.weekdayOf]
    omega
  -- the first day from today on with the weekday
  generalize hfound : now.wall.day + (weekday - Date.weekdayOf now.wall.day) % 7 = found
  have hle : now.wall.day ≤ found := by omega
  have hon : found % 7 = weekday := by
    simp only [Date.weekdayOf] at hfound
    omega
  have hfirst : ∀ other, s.runsOn other = true → now.wall.day ≤ other → found ≤ other := by
    intro other hother hother'
    rw [hruns] at hother
    simp only [Date.weekdayOf] at hfound
    omega
  unfold nextWeekly
  simp only [hfound, atTime_eq ht hnow hle]
  by_cases hlast : found ≤ Date.lastDay
  · rw [if_pos hlast]
    simp only [bind, Except.bind, pure, Except.pure, Wall.day_atTime ht]
    by_cases hpast : (Wall.atTime found t.hour t.minute).micros ≤ now.wall.micros
    · have hlater : now.wall.day < found + 7 := by omega
      refine ⟨found + 7, ⟨(hruns _).2 (by omega), Wall.lt_atTime_of_day_lt hlater, ?_⟩, ?_⟩
      · intro other hother hahead
        have hlt := Wall.atTime_lt_iff.1 (Int.lt_of_le_of_lt hpast hahead)
        rw [hruns] at hother
        omega
      · rw [if_pos hpast]
        exact finds_atTime ht hnow (by omega)
    · refine ⟨found, ⟨(hruns _).2 hon, by omega, ?_⟩, ?_⟩
      · intro other hother hahead
        exact hfirst other hother (Wall.day_le_of_lt_atTime ht hahead)
      · rw [if_neg hpast]
        exact .reading false hlast
  · have hlater : now.wall.day < found := by
      have := (Wall.inRange_iff.1 hnow).2
      omega
    refine ⟨found, ⟨(hruns _).2 hon, Wall.lt_atTime_of_day_lt hlater, ?_⟩, ?_⟩
    · intro other hother hahead
      exact hfirst other hother (Wall.day_le_of_lt_atTime ht hahead)
    · rw [if_neg hlast]
      exact .beyond .dateOutOfRange (by omega) (by simp)

/-! ### On a day of the month -/

section Monthly

variable {d : Nat} {year : Int} {month : Nat}

/-- Of the days of a month only one has a number. -/
theorem day_ofDay_eq_iff (h1 : 1 ≤ month) (h12 : month ≤ 12) {other : Int}
    (hfirst : Date.first year month ≤ other)
    (hlast : other < Date.first year month + Date.daysInMonth year month) (hd : 1 ≤ d) :
    (Date.ofDay other).day = d ↔ other = Date.first year month + d - 1 := by
  rw [Date.ofDay_first_add h1 h12 hfirst hlast]
  show (other - Date.first year month + 1).toNat = d ↔ _
  omega

/-- The days of the years up to 9999 are those of the calendar. -/
theorem year_le_iff (h1 : 1 ≤ month) (h12 : month ≤ 12) (hd : 1 ≤ d)
    (hlength : d ≤ Date.daysInMonth year month) : year ≤ 9999 ↔ Date.first year month + d - 1 ≤ Date.lastDay := by
  have hvalid : (Date.mk year month d).isValid = true := Date.isValid_iff.2 ⟨h1, h12, hd, hlength⟩
  have hday := Date.toDay_eq year month d
  constructor
  · intro hyear
    have := Date.toDay_le_lastDay hyear hvalid
    omega
  · intro hlast
    have hstart : Date.daysBeforeYear year < (Date.mk year month d).toDay := (Date.toDay_bounds hvalid).1
    have hend : Date.daysBeforeYear 10000 = Date.lastDay := rfl
    by_contra hlate
    have := Date.daysBeforeYear_mono (show 10000 ≤ year by omega)
    omega

/-- One month of the search. -/
theorem nextMonthly_succ (now : Local) (t : TimeOfDay) (d months : Nat) (year : Int) (month : Nat) :
    nextMonthly now t d (months + 1) year month =
      if d ≤ Date.daysInMonth year month then
        if 9999 < year then .error (.yearOutOfRange year)
        else if now.wall.micros < (Wall.atTime (Date.first year month + d - 1) t.hour t.minute).micros then
          .ok ⟨.atTime (Date.first year month + d - 1) t.hour t.minute, now.fold⟩
        else nextMonthly now t d months (Date.monthAfter year month).1 (Date.monthAfter year month).2
      else nextMonthly now t d months (Date.monthAfter year month).1 (Date.monthAfter year month).2 := by
  rw [← Date.toDay_eq]
  rfl

/-- The search ends in a month whose day is still to come. -/
theorem nextMonthly_found (months : Nat) (h1 : 1 ≤ month) (h12 : month ≤ 12) (hd : 1 ≤ d)
    (hlength : d ≤ Date.daysInMonth year month)
    (hahead : now.wall.micros < (Wall.atTime (Date.first year month + d - 1) t.hour t.minute).micros) :
    Finds t (Date.first year month + d - 1) ((nextMonthly now t d (months + 1) year month).map some) := by
  have hyear := year_le_iff h1 h12 hd hlength
  rw [nextMonthly_succ, if_pos hlength]
  by_cases hlate : 9999 < year
  · rw [if_pos hlate]
    exact .beyond (.yearOutOfRange year) (by omega) (by simp)
  · rw [if_neg hlate, if_pos hahead]
    exact .reading now.fold (by omega)

/-- The search goes on after a month that has not the day, or has it in the past. -/
theorem nextMonthly_skip (months : Nat) (h1 : 1 ≤ month) (h12 : month ≤ 12) (hd : 1 ≤ d)
    (hnow : now.wall.inRange = true)
    (hskip : d ≤ Date.daysInMonth year month →
      (Wall.atTime (Date.first year month + d - 1) t.hour t.minute).micros ≤ now.wall.micros) :
    nextMonthly now t d (months + 1) year month = nextMonthly now t d months
      (Date.monthAfter year month).1 (Date.monthAfter year month).2 := by
  rw [nextMonthly_succ]
  by_cases hlength : d ≤ Date.daysInMonth year month
  · have hpast := hskip hlength
    have hlast : Date.first year month + d - 1 ≤ Date.lastDay := by
      have hnowlast := (Wall.inRange_iff.1 hnow).2
      by_contra hlate
      have := @Wall.lt_atTime_of_day_lt t (Date.first year month + d - 1) now.wall (by omega)
      omega
    have hyear := (year_le_iff h1 h12 hd hlength).2 hlast
    rw [if_pos hlength, if_neg (by omega), if_neg (by omega)]
  · rw [if_neg hlength]

variable (hkind : s.kind = .monthly) (hfield : s.dayOfMonth = some (d : Int)) (hd : 1 ≤ d)

include hkind hfield

theorem runsOn_monthly (day : Int) : s.runsOn day = true ↔ (Date.ofDay day).day = d := by
  simp only [runsOn, hkind, hfield, beq_iff_eq, Option.some.injEq]
  omega

include hd

/-- A month whose day is still to come holds the next day of the schedule. -/
theorem isNextDay_of_month {wall : Wall} (h1 : 1 ≤ month) (h12 : month ≤ 12)
    (hbefore : s.NoneBefore t wall (Date.first year month)) (hlength : d ≤ Date.daysInMonth year month)
    (hahead : wall.micros < (Wall.atTime (Date.first year month + d - 1) t.hour t.minute).micros) :
    s.IsNextDay t wall (Date.first year month + d - 1) := by
  refine ⟨?_, hahead, ?_⟩
  · have hle : Date.first year month ≤ Date.first year month + d - 1 := by omega
    have hlt : Date.first year month + d - 1 < Date.first year month + Date.daysInMonth year month := by omega
    rw [runsOn_monthly hkind hfield]
    exact (day_ofDay_eq_iff h1 h12 hle hlt hd).2 rfl
  · intro other hother hlater
    have hle := hbefore other hother hlater
    by_contra hlt
    rw [runsOn_monthly hkind hfield, day_ofDay_eq_iff h1 h12 hle (by omega) hd] at hother
    omega

/-- A month that has not the day, or has it in the past, is passed over. -/
theorem noneBefore_monthAfter {wall : Wall} (h1 : 1 ≤ month) (h12 : month ≤ 12)
    (hbefore : s.NoneBefore t wall (Date.first year month))
    (hskip : d ≤ Date.daysInMonth year month →
      (Wall.atTime (Date.first year month + d - 1) t.hour t.minute).micros ≤ wall.micros) :
    s.NoneBefore t wall (Date.first (Date.monthAfter year month).1 (Date.monthAfter year month).2) := by
  intro other hother hlater
  have hle := hbefore other hother hlater
  rw [Date.first_monthAfter h1]
  by_contra hlt
  rw [runsOn_monthly hkind hfield, day_ofDay_eq_iff h1 h12 hle (by omega) hd] at hother
  have hpast := hskip (by omega)
  rw [hother] at hlater
  omega

/-- A month holds the next day, or the search goes on in the month after it. -/
theorem nextMonthly_cases (months : Nat) (h1 : 1 ≤ month) (h12 : month ≤ 12) (hnow : now.wall.inRange = true)
    (hbefore : s.NoneBefore t now.wall (Date.first year month)) :
    (∃ day, s.IsNextDay t now.wall day ∧ Finds t day ((nextMonthly now t d (months + 1) year month).map some))
      ∨ ((d ≤ Date.daysInMonth year month →
          (Wall.atTime (Date.first year month + d - 1) t.hour t.minute).micros ≤ now.wall.micros)
        ∧ s.NoneBefore t now.wall (Date.first (Date.monthAfter year month).1 (Date.monthAfter year month).2)
        ∧ nextMonthly now t d (months + 1) year month = nextMonthly now t d months
          (Date.monthAfter year month).1 (Date.monthAfter year month).2) := by
  by_cases hfound : d ≤ Date.daysInMonth year month
      ∧ now.wall.micros < (Wall.atTime (Date.first year month + d - 1) t.hour t.minute).micros
  · obtain ⟨hlength, hahead⟩ := hfound
    exact .inl ⟨_, isNextDay_of_month hkind hfield hd h1 h12 hbefore hlength hahead,
      nextMonthly_found months h1 h12 hd hlength hahead⟩
  · have hskip : d ≤ Date.daysInMonth year month →
        (Wall.atTime (Date.first year month + d - 1) t.hour t.minute).micros ≤ now.wall.micros := by
      intro hlength
      by_contra hahead
      exact hfound ⟨hlength, by omega⟩
    exact .inr ⟨hskip, noneBefore_monthAfter hkind hfield hd h1 h12 hbefore hskip,
      nextMonthly_skip months h1 h12 hd hnow hskip⟩

/-- Of the months that are still to come two are enough. -/
theorem nextMonthly_finds (months : Nat) (h1 : 1 ≤ month) (h12 : month ≤ 12) (hd31 : d ≤ 31)
    (hnow : now.wall.inRange = true) (hstart : now.wall.day < Date.first year month)
    (hbefore : s.NoneBefore t now.wall (Date.first year month)) :
    ∃ day, s.IsNextDay t now.wall day ∧ Finds t day ((nextMonthly now t d (months + 2) year month).map some) := by
  have hahead : ∀ first, now.wall.day < first →
      now.wall.micros < (Wall.atTime (first + d - 1) t.hour t.minute).micros := by
    intro first hfirst
    exact Wall.lt_atTime_of_day_lt (by omega)
  rcases nextMonthly_cases hkind hfield hd (months + 1) h1 h12 hnow hbefore with
    hfound | ⟨hskip, hlater, hgoes⟩
  · exact hfound
  · -- this month is too short, so the next one is not
    have hshort : ¬ d ≤ Date.daysInMonth year month := by
      intro hlength
      have := hahead _ hstart
      have := hskip hlength
      omega
    have hlength : d ≤ Date.daysInMonth (Date.monthAfter year month).1 (Date.monthAfter year month).2 := by
      have := @Date.le_daysInMonth_or year month h1 h12
      omega
    have hfollows := @Date.first_monthAfter year month h1
    obtain ⟨h1', h12'⟩ := @Date.month_monthAfter year month h12
    rw [hgoes]
    rcases nextMonthly_cases hkind hfield hd months h1' h12' hnow hlater with hfound | ⟨hskip', -⟩
    · exact hfound
    · have hstart' : now.wall.day
          < Date.first (Date.monthAfter year month).1 (Date.monthAfter year month).2 := by omega
      have := hahead _ hstart'
      have := hskip' hlength
      omega

/-- From the month of today on three are enough. -/
theorem nextMonthly_finds_today (months : Nat) (hd31 : d ≤ 31) (ht : t.InDay)
    (hnow : now.wall.inRange = true) : ∃ day, s.IsNextDay t now.wall day
      ∧ Finds t day ((nextMonthly now t d (months + 3) now.wall.date.year now.wall.date.month).map some) := by
  obtain ⟨h1, h12, -⟩ := Date.isValid_iff.1 (Date.isValid_ofDay now.wall.day)
  obtain ⟨hfirst, hlast⟩ := Date.first_ofDay_le now.wall.day
  rw [Wall.date]
  generalize (Date.ofDay now.wall.day).year = year at *
  generalize (Date.ofDay now.wall.day).month = month at *
  have hbefore : s.NoneBefore t now.wall (Date.first year month) := by
    intro other _ hlater
    exact Int.le_trans hfirst (Wall.day_le_of_lt_atTime ht hlater)
  rcases nextMonthly_cases hkind hfield hd (months + 2) h1 h12 hnow hbefore with
    hfound | ⟨-, hlater, hgoes⟩
  · exact hfound
  · have hfollows := @Date.first_monthAfter year month h1
    obtain ⟨h1', h12'⟩ := @Date.month_monthAfter year month h12
    rw [hgoes]
    exact nextMonthly_finds hkind hfield hd months h1' h12' hd31 hnow (by omega) hlater

end Monthly

/-- **The next reading is the one on the first day whose time is still to
come**, for a daily, weekly or monthly schedule whose fields are in order. -/
theorem nextReading_finds (h : s.IsTimed t) (hnow : now.wall.inRange = true) :
    ∃ day, s.IsNextDay t now.wall day ∧ Finds t day (s.nextReading t now) := by
  have ht := h.inDay
  have hday := h.day
  unfold hasDay at hday
  unfold nextReading
  cases hkind : s.kind with
  | daily => exact nextDaily_finds hkind ht hnow
  | weekly =>
    rw [hkind] at hday
    obtain ⟨d, hfield, hrange⟩ := Option.any_eq_true _ _ |>.1 hday
    have hbounds : 0 ≤ d ∧ d ≤ 6 := by simpa using hrange
    simp only [hfield, hrange, if_true]
    exact nextWeekly_finds hkind hfield hbounds ht hnow
  | monthly =>
    rw [hkind] at hday
    obtain ⟨d, hfield, hrange⟩ := Option.any_eq_true _ _ |>.1 hday
    have hbounds : 1 ≤ d ∧ d ≤ 31 := by simpa using hrange
    have hnat : ((d.toNat : Nat) : Int) = d := by omega
    simp only [hfield, hrange, if_true]
    exact nextMonthly_finds_today hkind (by rw [hfield, hnat]) (by omega) 21 (by omega) ht hnow
  | cron | other name =>
    rw [hkind] at hday
    cases hday

end Schedule
end Automation
