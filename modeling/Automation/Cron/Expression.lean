/-
# Cron expressions

An expression has five fields (minute, hour, day, month, weekday), a sixth
for seconds and a seventh for years, or is one of a few names. A field is a
list of items: a value, a range, a step, or everything. Days may name the
last day of the month or the weekday nearest to a day; weekdays may name
their place in the month.

Key definitions: `Cron`, `Cron.parse?`.
-/
import Automation.Text.Case
import Automation.Number.Reading

namespace Automation

namespace Cron

/-- The fields, in the order in which they are written. -/
inductive Slot where
  | minute
  | hour
  | day
  | month
  | weekday
  | second
  | year
deriving DecidableEq, Repr

namespace Slot

def all : List Slot := [.minute, .hour, .day, .month, .weekday, .second, .year]

def low : Slot → Nat
  | .day | .month => 1
  | .year => 1970
  | _ => 0

def high : Slot → Nat
  | .minute | .second => 59
  | .hour => 23
  | .day => 31
  | .month => 12
  | .weekday => 6
  | .year => 2099

/-- The names of values. -/
def names : Slot → List (String × Nat)
  | .month =>
    [("jan", 1), ("feb", 2), ("mar", 3), ("apr", 4), ("may", 5), ("jun", 6), ("jul", 7), ("aug", 8),
      ("sep", 9), ("oct", 10), ("nov", 11), ("dec", 12)]
  | .weekday =>
    [("sun", 0), ("mon", 1), ("tue", 2), ("wed", 3), ("thu", 4), ("fri", 5), ("sat", 6)]
  | _ => []

/-- Every value, in ascending order. -/
def values (s : Slot) : List Nat := (List.range (s.high + 1 - s.low)).map (· + s.low)

/-- Second spellings of values, which depend on the number of fields: the
weekday 7 is 0, and a day 0 is 1 where seconds are written. -/
def canonical (s : Slot) (fields n : Nat) : Nat :=
  match s, n, fields with
  | .weekday, 7, 5 => 0
  | .day, 0, 6 => 1
  | _, n, _ => n

end Slot

/-- The place of a weekday in its month. -/
inductive Place where
  | nth (n : Nat)
  | last
deriving DecidableEq, Repr

/-- What a field allows: everything, or some values. -/
structure Field where
  every : Bool
  values : List Nat
deriving Repr

def Field.allows (f : Field) (n : Nat) : Bool := f.every || f.values.contains n

end Cron

structure Cron where
  minute : Cron.Field
  hour : Cron.Field
  day : Cron.Field
  /-- Whether the day field allows the last day of the month. -/
  lastDay : Bool
  /-- The day whose nearest weekday is meant. -/
  nearest : Option Nat
  month : Cron.Field
  weekday : Cron.Field
  /-- Weekdays with a place in the month. -/
  placed : List (Nat × Cron.Place)
  second : Cron.Field
  year : Cron.Field
  /-- Whether seconds are written. -/
  bySecond : Bool
deriving Repr

namespace Cron

/-- What one item of a field allows. -/
inductive Item where
  | every
  | value (n : Nat)
  | lastDay
  | placed (weekday : Nat) (place : Place)
deriving DecidableEq, Repr

/-- A whole number in ASCII digits. -/
def number? (cs : List Char) : Option Nat :=
  if cs.isEmpty || !cs.all Char.isDigit then none else some (digitsValue cs)

/-- A value by number or by name. -/
def value? (slot : Slot) (fields : Nat) (cs : List Char) : Option Nat :=
  match number? cs with
  | some n => some (slot.canonical fields n)
  | none => (slot.names.lookup (String.ofList cs)).map (slot.canonical fields)

/-- The text before and after the first of a character. -/
def splitFirst (c : Char) (cs : List Char) : Option (List Char × List Char) :=
  match cs.dropWhile (· != c) with
  | [] => none
  | _ :: after => some (cs.takeWhile (· != c), after)

/-- `low`, `low + step`, … up to `high`. -/
def stepped (low high step : Nat) : List Nat :=
  (List.range (high + 1 - low)).filterMap fun k => if k % step == 0 then some (low + k) else none

/-- The values of a range: equal ends mean the whole field, a range that ends
before it starts goes on from the first value. -/
def rangeValues (slot : Slot) (low high step : Nat) : List Nat :=
  if low < high then stepped low high step
  else if low == high then stepped slot.low slot.high step
  else
    let upper := stepped low slot.high step
    let last := upper.getLast?.getD low
    let left := slot.high - last
    let skipped :=
      if slot.high - slot.low + 1 < last - slot.low + step && left < step then step - left else 0
    upper ++ stepped (slot.low + skipped) high step

/-- The values of `low-high/step`. -/
def range? (slot : Slot) (fields : Nat) (low high : List Char) (step : Nat) : Option (List Nat) := do
  let a ← value? slot fields low
  let b ← if slot == .day && high == ['l'] then some 31 else value? slot fields high
  if slot.high < max a b || step == 0 then none
  else return (rangeValues slot a b step).map (slot.canonical fields)

/-- The values of an item that has a range or a step. -/
def steps? (slot : Slot) (fields : Nat) (cs : List Char) : Option (List Nat) :=
  let (body, step) :=
    match splitFirst '/' cs with
    | some (body, step) => (body, number? step)
    | none => (cs, some 1)
  match step, splitFirst '-' body with
  | some n, some (low, high) => range? slot fields low high n
  | some n, none =>
    if body == ['*'] then
      if slot.high < slot.low || n == 0 then none
      else some (rangeValues slot slot.low slot.high n)
    else
      match value? slot fields body with
      | some a => if slot.high < a || n == 0 then none else some (rangeValues slot a slot.high n)
      | none => none
  | none, _ => none

/-- Values that lie in the field. -/
def checked (slot : Slot) (values : List Nat) : Option (List Nat) :=
  if values.all fun n => slot.low ≤ n && n ≤ slot.high then some values else none

/-- The items of a text without a place in the month. -/
def plainItems? (slot : Slot) (fields : Nat) (cs : List Char) : Option (List Item) :=
  if cs == ['*'] then some [.every]
  else if slot == .day && cs == ['l'] then some [.lastDay]
  else if cs.contains '-' || cs.contains '/' then
    ((steps? slot fields cs).bind (checked slot)).map (·.map .value)
  else ((value? slot fields cs).bind fun n => checked slot [n]).map (·.map .value)

/-- The items of one text between commas. -/
def items? (slot : Slot) (fields : Nat) (cs : List Char) : Option (List Item) :=
  if slot != .weekday then plainItems? slot fields cs
  else
    match cs, splitFirst '#' cs with
    | 'l' :: rest, none =>
      (number? rest).bind fun n =>
        (checked slot [slot.canonical fields n]).map (·.map (Item.placed · .last))
    | _, some (body, place) => do
      let n ← number? place
      if n == 0 || 5 < n || body.contains '/' || body == ['*'] then none
      else if body.contains '-' && body.any Char.isDigit then none
      else
        let items ← plainItems? slot fields body
        return items.filterMap fun
          | .value v => some (.placed v (.nth n))
          | _ => none
    | _, none => plainItems? slot fields cs

/-- The day of `15w` or `w15`. -/
def nearest? (cs : List Char) : Option Nat :=
  let day? := match cs with
    | 'w' :: rest => number? rest
    | _ => match cs.reverse with
      | 'w' :: rest => number? rest.reverse
      | _ => none
  day?.filter fun n => 1 ≤ n && n ≤ 31

/-- Text parted by commas. -/
def splitCommas : List Char → List (List Char)
  | [] => [[]]
  | ',' :: cs => [] :: splitCommas cs
  | c :: cs =>
    match splitCommas cs with
    | part :: parts => (c :: part) :: parts
    | [] => [[c]]

/-- All items of a field. -/
def fieldItems? (slot : Slot) (fields : Nat) (cs : List Char) : Option (List Item) :=
  if cs.contains '?' then
    if cs == ['?'] && (slot == .day || slot == .weekday) then some [.every] else none
  else ((splitCommas cs).mapM (items? slot fields)).map List.flatten

/-- A field from its items. One that lists every value counts as everything;
for days and weekdays only if `mayWiden`. -/
def fieldOf (slot : Slot) (mayWiden : Bool) (items : List Item) : Field :=
  let listed := items.filterMap fun
    | .value n => some n
    | .placed n _ => some n
    | _ => none
  let values := slot.values.filter listed.contains
  let full := mayWiden && values.length == slot.values.length && !items.contains .lastDay
  ⟨items.contains .every || full, values⟩

/-- Whether items mix weekdays with and without a place. -/
def mixesPlaces (items : List Item) : Bool :=
  let placed := items.filterMap fun
    | .placed n _ => some n
    | _ => none
  let plain := items.filterMap fun
    | .value n => some n
    | _ => none
  let all := (plain ++ placed).eraseDups
  !placed.isEmpty && plain.any (!placed.contains ·) && all.length != 7

/-- The names of whole expressions. -/
def shorthand : List (String × String) :=
  [("@midnight", "0 0 * * *"), ("@hourly", "0 * * * *"), ("@daily", "0 0 * * *"),
    ("@weekly", "0 0 * * 0"), ("@monthly", "0 0 1 * *"), ("@yearly", "0 0 1 1 *"),
    ("@annually", "0 0 1 1 *")]

def isSpace (c : Char) : Bool :=
  c == ' ' || (0x09 ≤ c.toNat && c.toNat ≤ 0x0d)

/-- The words of a text; `word` is the one before it, last character first. -/
def words (word : List Char) : List Char → List (List Char)
  | [] => if word.isEmpty then [] else [word.reverse]
  | c :: cs =>
    if isSpace c then
      if word.isEmpty then words [] cs else word.reverse :: words [] cs
    else words (c :: word) cs

/-- The expression that a text writes. -/
def parse? (text : String) : Option Cron := do
  let lower := Text.toLower text
  let parts := words [] ((shorthand.lookup lower).getD lower).toList
  if parts.length < 5 || 7 < parts.length then none
  let part (slot : Slot) (missing : String) : List Char :=
    ((Slot.all.zip parts).lookup slot).getD missing.toList
  let items (slot : Slot) (missing : String) := fieldItems? slot parts.length (part slot missing)
  let dayText := part .day "*"
  let nearest := nearest? dayText
  let day ← if nearest.isSome then some [] else items .day "*"
  let weekday ← items .weekday "*"
  if mixesPlaces weekday then none
  return {
    minute := fieldOf .minute true (← items .minute "*")
    hour := fieldOf .hour true (← items .hour "*")
    day := fieldOf .day ((part .weekday "*").contains '*') day
    lastDay := day.contains .lastDay
    nearest := nearest
    month := fieldOf .month true (← items .month "*")
    weekday := fieldOf .weekday (dayText.contains '*') weekday
    placed := weekday.filterMap fun
      | .placed n place => some (n, place)
      | _ => none
    second := fieldOf .second true (← items .second "0")
    year := fieldOf .year true (← items .year "*")
    bySecond := 5 < parts.length }

/-- Whether a text is an expression; a missing or empty one is none. -/
def isValid : Option String → Bool
  | none => false
  | some text => !text.isEmpty && (parse? text).isSome

end Cron

end Automation
