/-
# Written zone histories

The history of a zone is written as text in four parts: its name; the offsets
it ever had, in seconds, the first one first; the changes, in lines, each as the seconds
since the change before it (since 1970 for the first) in base 36 and a
capital letter that numbers the new offset; and eight numbers of the yearly
rule, or nothing.

Key definitions: `Zone.Entry`, `Zone.decode`.
-/
import Automation.Zone.Basic

namespace Automation.Zone

/-- Name, offsets, changes and yearly rule. -/
abbrev Entry := String × String × List String × String

/-- A whole number with an optional minus. -/
def readInt (s : String) : Int :=
  let digits (cs : List Char) : Nat := cs.foldl (fun n c => 10 * n + (c.toNat - 48)) 0
  match s.toList with
  | '-' :: cs => -(digits cs : Int)
  | cs => digits cs

/-- Whole numbers parted by blanks. -/
def readInts (s : String) : List Int :=
  if s.isEmpty then [] else (s.splitOn " ").map readInt

def digit36 (c : Char) : Nat := if c.isDigit then c.toNat - 48 else c.toNat - 87

/-- The changes from the characters left: `last` is the second of the change
before, `negative` and `acc` the number read so far. -/
def readChanges (offsets : List Int) (last : Int) (negative : Bool) (acc : Nat) :
    List Char → List Change
  | [] => []
  | '-' :: cs => readChanges offsets last true acc cs
  | c :: cs =>
    if c.isUpper then
      let second := last + (if negative then -(acc : Int) else acc)
      ⟨second, offsets.getD (c.toNat - 65) 0⟩ :: readChanges offsets second false 0 cs
    else readChanges offsets last negative (36 * acc + digit36 c) cs

def readYearly (s : String) : Option Yearly :=
  match readInts s with
  | [standard, daylight, m, w, d, t, m', w', d', t'] =>
    some ⟨standard, daylight, ⟨m.toNat, w.toNat, d.toNat, t⟩, ⟨m'.toNat, w'.toNat, d'.toNat, t'⟩⟩
  | _ => none

/-- The zone of an entry. -/
def decode : Entry → Zone
  | (_, offsets, changes, yearly) =>
    let offsets := readInts offsets
    { base := offsets.headD 0
      changes := readChanges offsets Instant.epoch.seconds false 0 (changes.flatMap (·.toList))
      yearly := readYearly yearly }

end Automation.Zone
