/-
# The next match of a cron expression

Matches are readings of the local clock. From the minute, or second, after
an instant the days are searched for one that matches, up to fifty years
later. A match in a gap of the clock moves to the first minute after it, or
is passed over if every hour matches; of a reading that occurs twice the
first occurrence after the instant counts.

Key definitions: `Cron.matchesDay`, `Cron.firstOnDay`, `Cron.search`,
`Cron.next`.
-/
import Automation.Cron.Expression
import Automation.Zone.Basic

namespace Automation.Cron

/-- Why there is no next match. -/
inductive SearchError where
  | noMatch
  | calendar (error : CalendarError)
deriving DecidableEq, Repr

def SearchError.message : SearchError → String
  | .noMatch => "failed to find next date"
  | .calendar e => e.message

/-- The years searched. -/
def searchYears : Int := 50

/-- The weekday (Monday to Friday) of the month that is nearest to a day: the
Friday before a Saturday, the Monday after a Sunday, unless these lie in
another month. -/
def nearestWeekday (year : Int) (month day : Nat) : Nat :=
  let length := Date.daysInMonth year month
  let day := min day length
  match Date.weekdayOf (Date.mk year month day).toDay with
  | 6 => if day == 1 then 3 else day - 1
  | 0 => if day == length then day - 2 else day + 1
  | _ => day

/-- Whether the day field allows a date. -/
def matchesMonthDay (c : Cron) (d : Date) : Bool :=
  match c.nearest with
  | some day => d.day == nearestWeekday d.year d.month day
  | none => c.day.allows d.day || (c.lastDay && d.day == Date.daysInMonth d.year d.month)

/-- Whether a date is the weekday at a place in its month. -/
def isPlaced (d : Date) (weekday : Nat) (place : Place) : Bool :=
  Date.weekdayOf d.toDay == weekday
    && match place with
      | .nth n => (d.day - 1) / 7 + 1 == n
      | .last => Date.daysInMonth d.year d.month < d.day + 7

/-- Whether a date is one of the placed weekdays; all are if there are none. -/
def matchesPlace (c : Cron) (d : Date) : Bool :=
  c.placed.isEmpty || c.placed.any fun (weekday, place) => isPlaced d weekday place

/-- Whether the weekday field allows a date. -/
def matchesWeekday (c : Cron) (d : Date) : Bool :=
  if c.placed.isEmpty then c.weekday.allows (Date.weekdayOf d.toDay) else c.matchesPlace d

/-- Whether the day field restricts dates. -/
def restrictsDay (c : Cron) : Bool := !c.day.every

def restrictsWeekday (c : Cron) : Bool := !c.weekday.every

/-- Whether a date matches. Where day and weekday both restrict, one of the
two is enough, but a nearest weekday and a place in the month hold for both. -/
def matchesDay (c : Cron) (d : Date) : Bool :=
  c.year.allows d.year.toNat && c.month.allows d.month
    && if c.restrictsDay && c.restrictsWeekday then
        (c.matchesMonthDay d && c.matchesPlace d)
          || (c.matchesWeekday d && (c.nearest.isNone || c.matchesMonthDay d))
      else c.matchesMonthDay d && c.matchesWeekday d

/-- The values a field allows, in ascending order. -/
def Field.list (f : Field) (slot : Slot) : List Nat := if f.every then slot.values else f.values

/-- The first matching second of a day from a second of it on. -/
def firstOnDay (c : Cron) (start : Nat) : Option Nat :=
  (c.hour.list .hour).findSome? fun h =>
    if h * 3600 + 3600 ≤ start then none
    else
      (c.minute.list .minute).findSome? fun m =>
        let base := h * 3600 + m * 60
        if base + 60 ≤ start then none
        else ((c.second.list .second).find? fun s => start ≤ base + s).map (base + ·)

/-- The second on the wall at which the gap around a reading ends. -/
def gapEnd? (z : Zone) (second : Int) : Option Int :=
  go z.base (z.changesNear second)
where
  go : Int → List Zone.Change → Option Int
    | _, [] => none
    | before, c :: cs =>
      if c.second + before ≤ second && second < c.second + c.offset then some (c.second + c.offset)
      else go c.offset cs

/-- The first matching reading, in seconds, from `second` on; `last` is the last
day searched. -/
def search (c : Cron) (z : Zone) (last : Int) (second : Int) : Except SearchError Int :=
  let day := second / 86400
  if _h : last < day then .error .noMatch
  else if Date.lastDay < day then .error (.calendar (.yearOutOfRange 10000))
  else
    let found :=
      if c.matchesDay (.ofDay day) then c.firstOnDay (second % 86400).toNat else none
    match found with
    | none => search c z last ((day + 1) * 86400)
    | some s =>
      let reading := day * 86400 + s
      match gapEnd? z reading with
      | none => .ok reading
      | some after =>
        if !c.hour.every then .ok ((after + 59) / 60 * 60)
        else if _h : second < after then search c z last after
        else .error .noMatch
termination_by ((last + 1) * 86400 - second).toNat
decreasing_by all_goals omega

/-! ### What a search finds lies ahead -/

theorem firstOnDay_le {c : Cron} {start s : Nat} (h : c.firstOnDay start = some s) : start ≤ s := by
  unfold firstOnDay at h
  obtain ⟨hour, -, h⟩ := List.exists_of_findSome?_eq_some h
  split at h
  · cases h
  · obtain ⟨minute, -, h⟩ := List.exists_of_findSome?_eq_some h
    dsimp only at h
    split at h
    · cases h
    · obtain ⟨second, hsecond, rfl⟩ := Option.map_eq_some_iff.1 h
      simpa using List.find?_some hsecond

theorem gapEnd?.lt_of_go {second before after : Int} {changes : List Zone.Change}
    (h : gapEnd?.go second before changes = some after) : second < after := by
  induction changes generalizing before with
  | nil => cases h
  | cons c changes ih =>
    unfold gapEnd?.go at h
    split at h
    · rename_i hgap
      cases h
      simp only [Bool.and_eq_true, decide_eq_true_eq] at hgap
      exact hgap.2
    · exact ih h

theorem gapEnd?_gt {z : Zone} {second after : Int} (h : gapEnd? z second = some after) :
    second < after :=
  gapEnd?.lt_of_go h

/-- A reading that is found lies no earlier than where the search began, and
the search began on one of the days to be searched. -/
theorem search_le {c : Cron} {z : Zone} {last second found : Int}
    (h : c.search z last second = .ok found) : second ≤ found ∧ second / 86400 ≤ last := by
  fun_induction search c z last second with
  | case1 | case2 => cases h
  | case3 second day hday _ _ hfound ih =>
    have := ih h
    omega
  | case4 second day hday _ found? s hs reading hgap =>
    have hfound : reading = found := Except.ok.inj h
    have hle : (second % 86400).toNat ≤ s := by
      simp only [found?] at hs
      split at hs
      · exact firstOnDay_le hs
      · cases hs
    omega
  | case5 second day hday _ found? s hs reading after hgap =>
    have hfound : (after + 59) / 60 * 60 = found := Except.ok.inj h
    have hle : (second % 86400).toNat ≤ s := by
      simp only [found?] at hs
      split at hs
      · exact firstOnDay_le hs
      · cases hs
    have := gapEnd?_gt hgap
    omega
  | case6 second day hday _ found? s hs reading after hgap _ hlt ih =>
    have := ih h
    omega
  | case7 => cases h

/-! ### The next match -/

/-- The first occurrence of a reading, in seconds, that comes after `now`; the
second one if none does. -/
def occurrence (z : Zone) (now : Instant) (second : Int) : Instant :=
  let wall : Wall := ⟨second * microsPerSecond⟩
  let first := z.toInstant ⟨wall, false⟩
  if now.micros < first.micros then first else z.toInstant ⟨wall, true⟩

/-- The instant of the first matching reading from `second` on that occurs after
`now`. -/
def firstAfter (c : Cron) (z : Zone) (now : Instant) (last second : Int) :
    Except SearchError Instant :=
  match _h : c.search z last second with
  | .error e => .error e
  | .ok found =>
    let t := occurrence z now found
    if now.micros < t.micros then t.checked.mapError .calendar
    else firstAfter c z now last (found + 1)
termination_by ((last + 2) * 86400 - second).toNat
decreasing_by
  have := search_le _h
  omega

/-- The instant of the next match after an instant. -/
def next (c : Cron) (z : Zone) (now : Instant) : Except SearchError Instant :=
  let unit : Int := if c.bySecond then 1 else 60
  let start := (z.toLocal (now.addSeconds unit)).wall.micros / microsPerSecond / unit * unit
  let year := (Date.ofDay ((z.toLocal now).wall.day)).year
  c.firstAfter z now (Date.daysBeforeYear (year + searchYears + 1)) start

end Automation.Cron
