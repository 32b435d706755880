/-
# Schedules

A schedule names the readings of the local clock at which a workflow runs:
a time of day on every day, on a weekday or on a day of the month, or a cron
expression. `Schedule.nextAfter` gives the next run strictly after an instant.

Key definitions: `Schedule`, `TimeOfDay.parse?`, `Schedule.nextAfter`.
-/
import Automation.Calendar.Timestamp
import Automation.Cron.Next
import Automation.Text.Digit
import Automation.Text.Quoted

namespace Automation

/-- The kinds of schedules. A kind that is none of them has no runs. -/
inductive ScheduleKind where
  | daily
  | weekly
  | monthly
  | cron
  | other (name : String)
deriving DecidableEq, Repr

namespace ScheduleKind

def all : List ScheduleKind := [.daily, .weekly, .monthly, .cron]

def name : ScheduleKind → String
  | .daily => "daily"
  | .weekly => "weekly"
  | .monthly => "monthly"
  | .cron => "cron"
  | .other name => name

def ofName? (s : String) : Option ScheduleKind := all.find? (·.name == s)

end ScheduleKind

/-- A schedule; of its fields those count that belong to its kind. -/
structure Schedule where
  kind : ScheduleKind
  time : Option String := none
  /-- 0 is Sunday. -/
  dayOfWeek : Option Int := none
  dayOfMonth : Option Int := none
  cronExpression : Option String := none
  nextRun : Option Timestamp := none

structure TimeOfDay where
  hour : Nat
  minute : Nat
deriving DecidableEq, Repr

namespace TimeOfDay

/-- An hour of one or two digits, below 24. The last digit may be of any script
if the first one is not a two. -/
def hour? : List Char → Option Nat
  | [d] => Text.digitValue? d
  | ['2', d] => if '0' ≤ d && d ≤ '3' then some (20 + (d.toNat - 48)) else none
  | [t, d] => if t == '0' || t == '1' then (Text.digitValue? d).map (10 * (t.toNat - 48) + ·) else none
  | _ => none

/-- Two digits below 60, the last of any script. -/
def minute? (t d : Char) : Option Nat :=
  if '0' ≤ t && t ≤ '5' then (Text.digitValue? d).map (10 * (t.toNat - 48) + ·) else none

/-- A time of day in text, an hour and two digits of minutes parted by a
colon; a line feed may follow. -/
def parse? (text : String) : Option TimeOfDay :=
  let cs := text.toList
  let hour := cs.takeWhile (· != ':')
  match cs.dropWhile (· != ':') with
  | [':', t, d] | [':', t, d, '\n'] => do return ⟨← hour? hour, ← minute? t d⟩
  | _ => none

/-- The message for a text that is no time of day. -/
def faultMessage (text : Option String) : String :=
  "Schedule time must be HH:MM, got: " ++ Text.quoteOption text

end TimeOfDay

namespace Schedule

open Zone (Local)

/-- The reading at a time of a day, if the day exists. -/
def atTime (day : Int) (t : TimeOfDay) : Except CalendarError Local := do
  let wall ← (Wall.atTime day t.hour t.minute).checked
  return ⟨wall, false⟩

/-- Today at the time if that is still to come, else tomorrow. -/
def nextDaily (now : Local) (t : TimeOfDay) : Except CalendarError Local :=
  let today := Wall.atTime now.wall.day t.hour t.minute
  if today.micros ≤ now.wall.micros then atTime (now.wall.day + 1) t else .ok ⟨today, now.fold⟩

/-- The next day with the weekday; today if the time is still to come. -/
def nextWeekly (now : Local) (t : TimeOfDay) (weekday : Int) : Except CalendarError Local := do
  let ahead := (weekday - Date.weekdayOf now.wall.day) % 7
  let first ← atTime (now.wall.day + ahead) t
  if first.wall.micros ≤ now.wall.micros then atTime (first.wall.day + 7) t else return first

/-- The months looked through for a day that not every month has. -/
def monthsSearched : Nat := 24

/-- The reading in the first month from `year`, `month` on that has the day, with
the time still to come. -/
def nextMonthly (now : Local) (t : TimeOfDay) (dayOfMonth : Nat) :
    (months : Nat) → (year : Int) → (month : Nat) → Except CalendarError Local
  | 0, _, _ => .error (.noMonth dayOfMonth)
  | months + 1, year, month =>
    let (nextYear, nextMonth) := if month == 12 then (year + 1, 1) else (year, month + 1)
    if dayOfMonth ≤ Date.daysInMonth year month then
      if 9999 < year then .error (.yearOutOfRange year)
      else
        let wall := Wall.atTime (Date.mk year month dayOfMonth).toDay t.hour t.minute
        if now.wall.micros < wall.micros then .ok ⟨wall, now.fold⟩
        else nextMonthly now t dayOfMonth months nextYear nextMonth
    else nextMonthly now t dayOfMonth months nextYear nextMonth

/-- The next reading of a schedule of clock times; none if a field that
belongs to its kind is missing or out of range. -/
def nextReading (s : Schedule) (t : TimeOfDay) (now : Local) : Except CalendarError (Option Local) :=
  match s.kind with
  | .daily => (nextDaily now t).map some
  | .weekly =>
    match s.dayOfWeek with
    | some d => if 0 ≤ d && d ≤ 6 then (nextWeekly now t d).map some else .ok none
    | none => .ok none
  | .monthly =>
    match s.dayOfMonth with
    | some d =>
      if 1 ≤ d && d ≤ 31 then
        (nextMonthly now t d.toNat monthsSearched now.wall.date.year now.wall.date.month).map some
      else .ok none
    | none => .ok none
  | _ => .ok none

/-- The next run of a schedule of clock times. Where the clock is set back or
forward the reading may lie before `now`; then the search starts an hour
later. -/
def nextClockRun (z : Zone) (s : Schedule) (t : TimeOfDay) (now : Instant) :
    Except CalendarError (Option Instant) :=
  let here := z.toLocal now
  if !here.wall.inRange then .error .dateOutOfRange
  else
    match s.nextReading t here with
    | .error e => .error e
    | .ok none => .ok none
    | .ok (some reading) =>
      let result := z.toInstant reading
      if !(result.plus 0).inRange then .error .dateOutOfRange
      else if result.micros ≤ now.micros then
        if _h : ((now.addSeconds 3600).plus 0).inRange = true then
          nextClockRun z s t (now.addSeconds 3600)
        else .error .dateOutOfRange
      else .ok (some result)
termination_by ((Date.lastDay + 1) * microsPerDay - now.micros).toNat
decreasing_by
  have hlast := (Wall.inRange_iff.1 _h).2
  simp only [Wall.day, Instant.plus, Instant.addSeconds, microsPerDay, microsPerSecond,
    Date.lastDay] at hlast ⊢
  omega

/-- The next run strictly after an instant that the clocks of the zone can show;
none for a schedule that has no time to run at. -/
def nextAfter (s : Schedule) (z : Zone) (now : Instant) : Except Cron.SearchError (Option Instant) :=
  if !(z.toLocal now).wall.inRange then .error (.calendar .dateOutOfRange)
  else
    match s.kind with
    | .cron =>
      if !Cron.isValid s.cronExpression then .ok none
      else
        match s.cronExpression.bind Cron.parse? with
        | some c => (c.next z now).map some
        | none => .ok none
    | _ =>
      match s.time.bind TimeOfDay.parse? with
      | some t => (nextClockRun z s t now).mapError .calendar
      | none => .ok none

end Schedule

end Automation
