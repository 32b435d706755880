/-
# Stretches of time

A stretch of time is a number of microseconds. One given as a number of
seconds with a fraction is rounded: the fraction becomes a double of
microseconds first, and that the nearest integer, a half to the even one.

Key definitions: `microsOfSeconds`, `Instant.later`.
-/
import Automation.Calendar.Clock
import Automation.Number.Double

namespace Automation

/-- The microseconds of a finite number of seconds. -/
def microsOfSeconds (seconds : Double) : Int :=
  match seconds.quanta with
  | none => 0
  | some (negative, quanta) =>
    let unit := Double.unitQuanta
    let fraction := Double.ofRatio false (quanta % unit * 1000000) unit
    let micros :=
      match fraction.quanta with
      | some (_, q) => Double.roundHalfEven q unit
      | none => 0
    let size : Int := quanta / unit * 1000000 + micros
    if negative then -size else size

/-- The most days that a stretch of time may have. -/
def mostDays : Nat := 999999999

/-- The instant some microseconds later. -/
def Instant.later (t : Instant) (micros : Int) : Except CalendarError Instant :=
  let days := micros / microsPerDay
  if mostDays < days.natAbs then .error (.spanTooLong days) else (t.addMicros micros).checked

end Automation
