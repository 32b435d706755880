/-
# Timestamps

A timestamp is a wall clock reading with the offset of the clock, if that is
known; one without is taken to be at offset zero. Two texts are in use, which
differ in how they write offset zero: `+00:00` or `Z`.

Key definitions: `Timestamp`, `Timestamp.utc`, `Timestamp.isoText`,
`Timestamp.wireText`.
-/
import Automation.Calendar.Clock

namespace Automation

structure Timestamp where
  wall : Wall
  /-- The offset of the clock in seconds. -/
  offset : Option Int := none
deriving DecidableEq, Repr

namespace Timestamp

def ofInstant (t : Instant) : Timestamp := ⟨t.plus 0, some 0⟩

/-- The instant, wherever it lies. -/
def instant (t : Timestamp) : Instant := t.wall.minus (t.offset.getD 0)

/-- The instant, if a clock at offset zero can show it. -/
def utc (t : Timestamp) : Except CalendarError Instant := t.instant.checked

/-- The last `width` decimal digits of `n`. -/
def decimals : (width : Nat) → (n : Nat) → List Char
  | 0, _ => []
  | width + 1, n => decimals width (n / 10) ++ [Char.ofNat (48 + n % 10)]

/-- The last `width` decimal digits of `n`, as text. -/
def pad (width n : Nat) : String := String.ofList (decimals width n)

/-- Date and time of day; a fraction of a second has six digits. -/
def wallText (w : Wall) : String :=
  let d := w.date
  pad 4 d.year.toNat ++ "-" ++ pad 2 d.month ++ "-" ++ pad 2 d.day ++ "T" ++ pad 2 w.hour ++ ":"
    ++ pad 2 w.minute ++ ":" ++ pad 2 w.second
    ++ (if w.microsecond == 0 then "" else "." ++ pad 6 w.microsecond)

/-- Hours and minutes of an offset, and seconds if there are any. -/
def offsetText (offset : Int) : String :=
  let n := offset.natAbs
  (if offset < 0 then "-" else "+") ++ pad 2 (n / 3600) ++ ":" ++ pad 2 (n / 60 % 60)
    ++ (if n % 60 == 0 then "" else ":" ++ pad 2 (n % 60))

/-- The text that writes offset zero in digits. -/
def isoText (t : Timestamp) : String :=
  wallText t.wall ++ (t.offset.map offsetText).getD ""

/-- The text that writes offset zero as `Z`. -/
def wireText (t : Timestamp) : String :=
  wallText t.wall
    ++ match t.offset with
      | none => ""
      | some 0 => "Z"
      | some offset => offsetText offset

end Timestamp

/-- The text of an instant with offset zero in digits. -/
def Instant.isoText (t : Instant) : String := (Timestamp.ofInstant t).isoText

/-- The text of an instant with offset zero as `Z`. -/
def Instant.wireText (t : Instant) : String := (Timestamp.ofInstant t).wireText

end Automation
