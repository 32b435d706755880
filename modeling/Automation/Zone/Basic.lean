/-
# Time zones

A zone is the history of the offsets of the clocks at some place: a first
offset, changes at instants in ascending order, and possibly a rule that
repeats two changes every year after the last of these. Where clocks are set
back a reading occurs twice, where they are set forward it does not occur at
all; which offset such a reading has is decided by its *fold*: the first
occurrence, or the offset before the gap, for `false`.

Key definitions: `Zone`, `Zone.offsetAt`, `Zone.offsetOfWall`,
`Zone.toLocal`, `Zone.toInstant`.
-/
import Automation.Calendar.Clock

namespace Automation

namespace Zone

/-- A change of offset; the instant is counted in seconds. -/
structure Change where
  second : Int
  offset : Int
deriving DecidableEq, Repr

/-- A day given by its weekday in a month, 5 for the last one, and a second of
that day on the clock. -/
structure YearlyDay where
  month : Nat
  week : Nat
  weekday : Nat
  second : Int
deriving DecidableEq, Repr

/-- Two changes that repeat every year. -/
structure Yearly where
  standard : Int
  daylight : Int
  start : YearlyDay
  stop : YearlyDay
deriving DecidableEq, Repr

/-- The count of the day in a year. -/
def YearlyDay.dayIn (d : YearlyDay) (year : Int) : Int :=
  let first := (Date.mk year d.month 1).toDay
  let lead := (d.weekday + 7 - Date.weekdayOf first) % 7
  let length := Date.daysInMonth year d.month
  let day := lead + 7 * (d.week - 1)
  first + (if day < length then day else if day - 7 < length then day - 7 else day - 14 : Nat)

/-- The changes of a year, in order. -/
def Yearly.changes (r : Yearly) (year : Int) : List Change :=
  let on : Change := ⟨r.start.dayIn year * 86400 + r.start.second - r.standard, r.daylight⟩
  let off : Change := ⟨r.stop.dayIn year * 86400 + r.stop.second - r.daylight, r.standard⟩
  if on.second ≤ off.second then [on, off] else [off, on]

end Zone

structure Zone where
  /-- The offset before the first change, in seconds. -/
  base : Int
  changes : List Zone.Change := []
  yearly : Option Zone.Yearly := none
deriving Repr

namespace Zone

/-- The zone without changes. -/
def fixed (offset : Int) : Zone := { base := offset }

def utc : Zone := fixed 0

/-- The changes of the rule in the years around a second, after the last one
of the history. -/
def ruleChanges (z : Zone) (second : Int) : List Change :=
  match z.yearly with
  | none => []
  | some r =>
    let year := (Date.ofDay (second / 86400)).year
    let all := r.changes (year - 1) ++ r.changes year ++ r.changes (year + 1)
    match z.changes.getLast? with
    | none => all
    | some last => all.filter fun c => last.second < c.second

/-- The changes that decide the offset near a second. -/
def changesNear (z : Zone) (second : Int) : List Change := z.changes ++ z.ruleChanges second

/-- The offset after the changes that have come: `come before c` tells whether
the change `c` of the offset `before` has. -/
def offsetAfter (come : Int → Change → Bool) : Int → List Change → Int
  | offset, [] => offset
  | offset, c :: cs => if come offset c then offsetAfter come c.offset cs else offset

/-- The offset at an instant. -/
def offsetAt (z : Zone) (t : Instant) : Int :=
  offsetAfter (fun _ c => c.second ≤ t.seconds) z.base (z.changesNear t.seconds)

/-- The second on the wall from which the offset of a change holds: where
clocks are set forward, a reading in the gap has the offset before for fold
`false` and the offset after for fold `true`; where they are set back, a
reading is taken for its first occurrence or for its second one. -/
def Change.wallSecond (c : Change) (before : Int) (fold : Bool) : Int :=
  c.second + (if fold then min before c.offset else max before c.offset)

/-- The offset of a reading. -/
def offsetOfWall (z : Zone) (fold : Bool) (w : Wall) : Int :=
  let second := w.micros / microsPerSecond
  offsetAfter (fun before c => c.wallSecond before fold ≤ second) z.base (z.changesNear second)

/-- A reading in a zone. -/
structure Local where
  wall : Wall
  fold : Bool := false
deriving DecidableEq, Repr

/-- The reading at an instant, with the fold that leads back to it. -/
def toLocal (z : Zone) (t : Instant) : Local :=
  let offset := z.offsetAt t
  let wall := t.plus offset
  ⟨wall, z.offsetOfWall false wall != offset⟩

/-- The instant of a reading. -/
def toInstant (z : Zone) (l : Local) : Instant := l.wall.minus (z.offsetOfWall l.fold l.wall)

end Zone

end Automation
