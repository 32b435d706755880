/-
# The shortest decimal of a double

For every number of digits the decimals of that size form a grid; the value
has two neighbours on it. The first grid with a neighbour that reads back as
the same double gives the digits: the nearer of two, the even one on a tie.

Key definitions: `Double.shortest`, `Double.toText`.
-/
import Automation.Number.Double

namespace Automation.Double

/-- `10 ^ e * num / den` as a fraction. -/
def scaleByTen (num den : Nat) (e : Int) : Nat × Nat :=
  if 0 ≤ e then (num * Nat.pow 10 e.toNat, den) else (num, den * Nat.pow 10 e.natAbs)

/-- Whether `10 ^ e ≤ num / den`. -/
def tenPowerLe (num den : Nat) (e : Int) : Bool :=
  let (n, d) := scaleByTen num den (-e)
  d ≤ n

/-- The exponent of the leading digit of `num / den`, a positive number. -/
def leadingExponent (num den : Nat) : Int :=
  let estimate : Int := ((num.log2 : Int) - den.log2) * 30103 / 100000
  if !tenPowerLe num den estimate then estimate - 1
  else if tenPowerLe num den (estimate + 1) then estimate + 1
  else estimate

/-- A decimal: `digits * 10 ^ exponent`. -/
structure Decimal where
  digits : Nat
  exponent : Int
deriving DecidableEq, Repr

/-- The rank that a decimal reads back as. -/
def Decimal.rank (d : Decimal) : Nat :=
  let (n, k) := scaleByTen d.digits 1 d.exponent
  rankOfRatio n k

/-- The neighbour of `num / den` on the grid of `10 ^ exponent` that reads
back as `rank`, the nearer first. -/
def onGrid (rank num den : Nat) (exponent : Int) : Option Decimal :=
  let (n, d) := scaleByTen num den (-exponent)
  let low := n / d
  let twice := 2 * (n % d)
  let below : Decimal := ⟨low, exponent⟩
  let above : Decimal := ⟨low + 1, exponent⟩
  let candidates :=
    if twice < d || (twice == d && low % 2 == 0) then [below, above] else [above, below]
  candidates.find? fun c => c.rank == rank

/-- The shortest decimal that reads back as the magnitude of a positive rank. -/
def shortest (rank : Nat) : Decimal :=
  let num := quantaOf rank
  let den := unitQuanta
  let e := leadingExponent num den
  let found := (List.range 17).findSome? fun (n : Nat) => onGrid rank num den (e - n)
  found.getD ⟨num, -(quantumBits : Int)⟩

/-- Digits without zeros at the end, and the number of zeros taken. -/
def dropZeros : (fuel : Nat) → (digits : Nat) → (taken : Nat) → Nat × Nat
  | 0, digits, taken => (digits, taken)
  | fuel + 1, digits, taken =>
    if digits % 10 == 0 && digits != 0 then dropZeros fuel (digits / 10) (taken + 1)
    else (digits, taken)

/-- Positional notation is used for leading exponents from `leastPositional`
up to, but not including, `firstScientific`; an exponent has at least two
digits. -/
def leastPositional : Int := -4

def firstScientific : Int := 16

def pad2 (n : Nat) : String := if n < 10 then "0" ++ toString n else toString n

/-- The text of a magnitude with the digits `digits`, the first of which
counts `10 ^ lead`. -/
def layOut (digits : List Char) (lead : Int) : String :=
  if leastPositional ≤ lead && lead < firstScientific then
    if lead < 0 then
      "0." ++ String.ofList (List.replicate (lead.natAbs - 1) '0' ++ digits)
    else
      let whole := lead.toNat + 1
      let front := digits.take whole ++ List.replicate (whole - digits.length) '0'
      let back := digits.drop whole
      String.ofList front ++ "." ++ (if back.isEmpty then "0" else String.ofList back)
  else
    let fraction := digits.drop 1
    String.ofList (digits.take 1) ++ (if fraction.isEmpty then "" else "." ++ String.ofList fraction)
      ++ "e" ++ (if lead < 0 then "-" else "+") ++ pad2 lead.natAbs

/-- The text of a number: the fewest digits that read back, always with a
point or an exponent. -/
def toText : Double → String
  | .nan => "nan"
  | .infinite negative => if negative then "-inf" else "inf"
  | .finite negative rank =>
    let sign := if negative then "-" else ""
    if rank.val == 0 then sign ++ "0.0"
    else
      let d := shortest rank.val
      let (digits, taken) := dropZeros 20 d.digits 0
      let cs := (toString digits).toList
      sign ++ layOut cs (d.exponent + taken + cs.length - 1)

end Automation.Double
