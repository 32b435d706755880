/-
# Reading timestamps

A timestamp in text is a date, or a date, one of `T t _` or a blank, and a
time of day with an optional offset. A number, also one in text, counts the
seconds since 1970, or the milliseconds if it is large. Text that is neither
is reported as a date with a fault.

Key definitions: `DateFault`, `Timestamp.readText`, `Timestamp.ofInt`,
`Timestamp.ofDouble`.
-/
import Automation.Calendar.Timestamp
import Automation.Number.Reading
import Automation.Number.Word

namespace Automation

/-- What is wrong with a text that is no date. -/
inductive DateFault where
  | tooShort
  | yearCharacter
  | monthCharacter
  | dayCharacter
  | separator
  | monthRange
  | dayRange
  | extraCharacters
  | tooEarly
  | tooLate
deriving DecidableEq, Repr

def DateFault.message : DateFault → String
  | .tooShort => "input is too short"
  | .yearCharacter => "invalid character in year"
  | .monthCharacter => "invalid character in month"
  | .dayCharacter => "invalid character in day"
  | .separator => "invalid date separator, expected `-`"
  | .monthRange => "month value is outside expected range of 1-12"
  | .dayRange => "day value is outside expected range"
  | .extraCharacters => "unexpected extra characters at the end of the input"
  | .tooEarly => "dates before 0000 are not supported as unix timestamps"
  | .tooLate => "dates after 9999 are not supported as unix timestamps"

/-- Why a value is no timestamp: a date with a fault, a count out of range, or
the year 0, which has no timestamps. -/
inductive TimestampFault where
  | date (fault : DateFault)
  | count (fault : DateFault)
  | yearZero
deriving DecidableEq, Repr

namespace Timestamp

/-- The value of two digits. -/
def twoDigits? (a b : Char) : Option Nat :=
  if a.isDigit && b.isDigit then some (digitsValue [a, b]) else none

/-- A date at the start of a text, and the text after it. The fault is that of
the first part, from the left, which is no part of a date. -/
def takeDate (cs : List Char) : Except DateFault (Date × List Char) :=
  match cs with
  | y1 :: y2 :: y3 :: y4 :: s1 :: m1 :: m2 :: s2 :: d1 :: d2 :: rest =>
    if !([y1, y2, y3, y4].all Char.isDigit) then .error .yearCharacter
    else if s1 != '-' then .error .separator
    else
      match twoDigits? m1 m2 with
      | none => .error .monthCharacter
      | some month =>
        if s2 != '-' then .error .separator
        else
          match twoDigits? d1 d2 with
          | none => .error .dayCharacter
          | some day =>
            let date : Date := ⟨digitsValue [y1, y2, y3, y4], month, day⟩
            if month == 0 || 12 < month then .error .monthRange
            else if !date.isValid then .error .dayRange
            else .ok (date, rest)
  | _ => .error .tooShort

/-- An offset up to the end of a text, in seconds; it is below a day. -/
def readOffset : List Char → Option (Option Int)
  | [] => some none
  | ['Z'] | ['z'] => some (some 0)
  | sign :: rest =>
    if sign == '+' || sign == '-' || sign == '−' then
      let parts :=
        match rest with
        | [a, b, ':', c, d] => some (a, b, c, d)
        | [a, b, c, d] => some (a, b, c, d)
        | _ => none
      match parts with
      | none => none
      | some (a, b, c, d) =>
        match twoDigits? a b, twoDigits? c d with
        | some h, some m =>
          let n : Int := (h * 3600 + m * 60 : Nat)
          if m < 60 && n < 86400 then some (some (if sign == '+' then n else -n)) else none
        | _, _ => none
    else none

/-- The digits after the point of a second, one to nine, as microseconds. -/
def fractionMicros (ds : List Char) : Nat :=
  digitsValue ((ds ++ List.replicate 6 '0').take 6)

/-- The seconds of a time of day, as microseconds, and what follows them. -/
def takeSeconds : List Char → Option (Nat × List Char)
  | ':' :: a :: b :: rest =>
    match twoDigits? a b with
    | none => none
    | some s =>
      if 59 < s then none
      else
        match rest with
        | c :: more =>
          if c == '.' || c == ',' then
            let (ds, after) := takeDigits more
            if ds.isEmpty || 9 < ds.length then none
            else some (s * 1000000 + fractionMicros ds, after)
          else some (s * 1000000, rest)
        | [] => some (s * 1000000, [])
  | ':' :: _ => none
  | cs => some (0, cs)

/-- A time of day, in microseconds, with an optional offset, up to the end. -/
def readTime : List Char → Option (Nat × Option Int)
  | a :: b :: ':' :: c :: d :: rest => do
    let h ← twoDigits? a b
    let m ← twoDigits? c d
    if 23 < h || 59 < m then none
    let (micros, after) ← takeSeconds rest
    let offset ← readOffset after
    return ((h * 3600 + m * 60) * 1000000 + micros, offset)
  | _ => none

/-- A date and a time of day. -/
def readDateTime (cs : List Char) : Option Timestamp :=
  match takeDate cs with
  | .ok (date, sep :: rest) =>
    if sep == 'T' || sep == 't' || sep == ' ' || sep == '_' then
      (readTime rest).map fun (micros, offset) => ⟨.ofDay date.toDay micros, offset⟩
    else none
  | _ => none

/-- Counts beyond it are in milliseconds. -/
def millisecondsFrom : Nat := 20000000000

/-- The first and the last second of the years 0 to 9999. -/
def earliestSecond : Int := -62167219200

def latestSecond : Int := 253402300799

/-- The seconds, and the microseconds in the last of them, of a count. -/
def splitCount (n : Int) : Int × Int :=
  if n.natAbs ≤ millisecondsFrom then (n, 0) else (n / 1000, n % 1000 * 1000)

/-- The timestamp of a count and some microseconds, which may make up a
further second. -/
def ofCount (n : Int) (micros : Int) : Except DateFault Timestamp :=
  if n ≤ Word.least then .error .tooEarly
  else
    let micros := (splitCount n).2 + micros
    let seconds := (splitCount n).1 + micros / 1000000
    if seconds < earliestSecond then .error .tooEarly
    else if latestSecond < seconds then .error .tooLate
    else .ok (ofInstant ((Instant.epoch.addSeconds seconds).addMicros (micros % 1000000)))

/-- The timestamp if its year is not 0. -/
def checkYear (t : Timestamp) : Except TimestampFault Timestamp :=
  if t.wall.day < Date.firstDay then .error .yearZero else .ok t

def ofInt (n : Int) : Except TimestampFault Timestamp :=
  match ofCount n 0 with
  | .ok t => t.checkYear
  | .error fault => .error (.count fault)

/-- The largest whole number of units not above the number, and its distance
to zero beyond the whole part in microseconds, rounded. -/
def splitDouble (x : Double) : Option (Int × Int) :=
  match x.quanta with
  | none => none
  | some (negative, q) =>
    let one := Double.unitQuanta
    let fraction := q % one
    let whole : Int := (q / one : Nat)
    let floor := if negative then (if fraction == 0 then -whole else -whole - 1) else whole
    let scaled := fraction * 1000000
    some (floor, ((2 * scaled + one) / (2 * one) : Nat))

/-- A count that is a double; infinities lie after or before every date. -/
def ofDouble (x : Double) : Except TimestampFault Timestamp :=
  match splitDouble x with
  | none => .error (.count (if x.isNegative then .tooEarly else .tooLate))
  | some (n, micros) =>
    match ofCount n micros with
    | .ok t => t.checkYear
    | .error fault => .error (.count fault)

/-- A whole number in text: an optional sign and ASCII digits. -/
def readCount? (cs : List Char) : Option Int :=
  let (negative, ds) := takeSign cs
  if ds.isEmpty || !ds.all Char.isDigit then none
  else
    let n : Int := digitsValue ds
    some (if negative then -n else n)

/-- A count in text: a whole number, or digits with a fraction. -/
def readDecimal? (cs : List Char) : Option Double :=
  let (negative, rest) := takeSign cs
  let (whole, rest) := takeDigits rest
  match rest with
  | '.' :: more =>
    if !more.isEmpty && !whole.isEmpty && more.all Char.isDigit then
      some (Double.ofDecimal negative (digitsValue (whole ++ more)) (-(more.length : Int)))
    else none
  | _ => none

/-- A date alone, up to the end of the text. -/
def readDate (cs : List Char) : Except DateFault Date :=
  match takeDate cs with
  | .ok (date, []) => .ok date
  | .ok _ => .error .extraCharacters
  | .error fault => .error fault

/-- The timestamp that a text writes: a date and a time, a count, or a date,
which stands for its midnight. -/
def readText (text : String) : Except TimestampFault Timestamp :=
  let cs := text.toList
  match readDateTime cs with
  | some t => t.checkYear
  | none =>
    match readCount? cs with
    | some n =>
      match ofCount n 0 with
      | .ok t => t.checkYear
      | .error fault => .error (.date fault)
    | none =>
      match readDate cs with
      | .ok date => checkYear ⟨.ofDay date.toDay 0, none⟩
      | .error fault =>
        match readDecimal? cs with
        | some x => (ofDouble x).mapError fun
          | .count _ => .date fault
          | other => other
        | none => .error (.date fault)

end Timestamp

end Automation
