/-
# Instants and wall clocks

An instant is a point in time; a wall clock reading is what a clock shows at
some place. Both count microseconds from the start of day 0, instants on a
clock at offset zero, so a reading is an instant plus an offset. Readings
outside the years 1 to 9999 do not exist.

Key definitions: `Instant`, `Wall`, `CalendarError`.
-/
import Automation.Calendar.Date

namespace Automation

def microsPerSecond : Int := 1000000

def microsPerDay : Int := 86400 * microsPerSecond

/-- A point in time. -/
structure Instant where
  micros : Int
deriving DecidableEq, Repr

/-- What a wall clock shows. -/
structure Wall where
  micros : Int
deriving DecidableEq, Repr

/-- What is wrong with a point in time that cannot be written, or is not there. -/
inductive CalendarError where
  | dateOutOfRange
  | yearOutOfRange (year : Int)
  /-- A day that none of the months looked through has. -/
  | noMonth (day : Nat)
  /-- A stretch of time of more days than can be counted. -/
  | spanTooLong (days : Int)
deriving DecidableEq, Repr

def CalendarError.message : CalendarError → String
  | .dateOutOfRange => "date value out of range"
  | .yearOutOfRange year => s!"year {year} is out of range"
  | .noMonth day => s!"No month contains day {day}"
  | .spanTooLong days =>
    if -0x80000000 ≤ days && days < 0x80000000 then
      s!"days={days}; must have magnitude <= 999999999"
    else "Python int too large to convert to C int"

namespace Wall

/-- The reading of a date and a time of day in microseconds. -/
def ofDay (day : Int) (timeOfDay : Int) : Wall := ⟨day * microsPerDay + timeOfDay⟩

/-- The reading at the start of a minute of a day. -/
def atTime (day : Int) (hour minute : Nat) : Wall :=
  ofDay day ((hour * 3600 + minute * 60 : Nat) * microsPerSecond)

def day (w : Wall) : Int := w.micros / microsPerDay

def timeOfDay (w : Wall) : Int := w.micros % microsPerDay

def date (w : Wall) : Date := .ofDay w.day

/-- The second of the day. -/
def secondOfDay (w : Wall) : Nat := (w.timeOfDay / microsPerSecond).toNat

def hour (w : Wall) : Nat := w.secondOfDay / 3600

def minute (w : Wall) : Nat := w.secondOfDay / 60 % 60

def second (w : Wall) : Nat := w.secondOfDay % 60

def microsecond (w : Wall) : Nat := (w.timeOfDay % microsPerSecond).toNat

/-- Whether the date lies in the years 1 to 9999. -/
def inRange (w : Wall) : Bool := Date.firstDay ≤ w.day && w.day ≤ Date.lastDay

theorem inRange_iff {w : Wall} :
    w.inRange = true ↔ Date.firstDay ≤ w.day ∧ w.day ≤ Date.lastDay := by
  simp [inRange]

/-- The reading if it exists. -/
def checked (w : Wall) : Except CalendarError Wall :=
  if w.inRange then .ok w else .error .dateOutOfRange

/-- The instant at which a clock with an offset, in seconds, shows the reading. -/
def minus (w : Wall) (offset : Int) : Instant := ⟨w.micros - offset * microsPerSecond⟩

end Wall

namespace Instant

/-- What a clock with an offset, in seconds, shows at the instant. -/
def plus (t : Instant) (offset : Int) : Wall := ⟨t.micros + offset * microsPerSecond⟩

/-- The instant if a clock at offset zero can show it. -/
def checked (t : Instant) : Except CalendarError Instant :=
  if (t.plus 0).inRange then .ok t else .error .dateOutOfRange

def addMicros (t : Instant) (n : Int) : Instant := ⟨t.micros + n⟩

def addSeconds (t : Instant) (n : Int) : Instant := ⟨t.micros + n * microsPerSecond⟩

/-- The start of the second that the instant lies in. -/
def seconds (t : Instant) : Int := t.micros / microsPerSecond

/-- The first instant of 1970, from which timestamps count. -/
def epoch : Instant := (Wall.ofDay 719163 0).minus 0

end Instant

end Automation
