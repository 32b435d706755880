/-
# Double precision numbers

A double is a sign and the *rank* of its magnitude: the number of doubles
between zero and it. Ranks grow with the magnitude, so order is order of
ranks (`Double.lt_iff_key`), and a magnitude is read off its rank as an
integer number of quanta of `2 ^ -1074` (`Double.quanta`). Every operation
is exact rational arithmetic followed by one rounding, `Double.ofRatio`.

Key definitions: `Double`, `Double.quanta`, `Double.ofRatio`, `Double.key`.
-/
namespace Automation

/-- The number of finite magnitudes. -/
def Double.finiteRanks : Nat := 2047 <<< 52

/-- A number of the binary interchange format with 64 bits; the payload of
a NaN is not kept. -/
inductive Double where
  | finite (negative : Bool) (rank : Fin Double.finiteRanks)
  | infinite (negative : Bool)
  | nan
deriving DecidableEq, Repr

namespace Double

/-- The number of quanta in a unit is the power of two of this exponent. -/
def quantumBits : Nat := 1074

/-- The number of quanta in a unit. -/
def unitQuanta : Nat := 1 <<< quantumBits

/-- The first rank whose significand has all its bits, `2 ^ 52`. -/
def normalRank : Nat := 1 <<< 52

/-- The shift of the significand of a rank: ranks below `2 ^ 53` are their
own number of quanta. -/
def shiftOf (rank : Nat) : Nat := rank / normalRank - 1

/-- The magnitude of a rank, in quanta. -/
def quantaOf (rank : Nat) : Nat :=
  if rank < normalRank then rank else (normalRank + rank % normalRank) <<< shiftOf rank

/-- `num / den` rounded to an integer, a half to the even neighbour. -/
def roundHalfEven (num den : Nat) : Nat :=
  let q := num / den
  let twice := 2 * (num % den)
  if twice < den then q
  else if den < twice then q + 1
  else q + q % 2

/-- The rank nearest to `num / den` among all naturals; ranks from
`finiteRanks` on are beyond the finite magnitudes. -/
def rankOfRatio (num den : Nat) : Nat :=
  let scaled := num * unitQuanta
  let whole := scaled / den
  let shift := if whole < 2 * normalRank then 0 else whole.log2 - 52
  shift * normalRank + roundHalfEven scaled (den <<< shift)

/-- The double of a sign and a rank; a rank that is too large is infinite. -/
def ofRank (negative : Bool) (rank : Nat) : Double :=
  if h : rank < finiteRanks then .finite negative ⟨rank, h⟩ else .infinite negative

/-- The double nearest to `± num / den`. -/
def ofRatio (negative : Bool) (num den : Nat) : Double :=
  ofRank negative (rankOfRatio num den)

def zero : Double := .finite false ⟨0, by decide⟩

/-- The sign, with the magnitude in quanta, of a finite number. -/
def quanta : Double → Option (Bool × Nat)
  | .finite negative rank => some (negative, quantaOf rank)
  | _ => none

/-- The key of a number other than NaN: keys are ordered as the numbers are,
and both zeros have key 0. -/
def key : Double → Option Int
  | .finite negative rank => some (if negative then -(rank : Int) else rank)
  | .infinite negative => some (if negative then -(finiteRanks : Int) else finiteRanks)
  | .nan => none

/-- Equality of numbers: NaN equals nothing, the zeros equal each other. -/
def eq (x y : Double) : Bool :=
  match x.key, y.key with
  | some a, some b => a == b
  | _, _ => false

def lt (x y : Double) : Bool :=
  match x.key, y.key with
  | some a, some b => decide (a < b)
  | _, _ => false

def le (x y : Double) : Bool :=
  match x.key, y.key with
  | some a, some b => decide (a ≤ b)
  | _, _ => false

def isNaN : Double → Bool
  | .nan => true
  | _ => false

def isFinite : Double → Bool
  | .finite _ _ => true
  | _ => false

def isNegative : Double → Bool
  | .finite negative _ => negative
  | .infinite negative => negative
  | .nan => false

theorem lt_iff_key {x y : Double} :
    x.lt y = true ↔ ∃ a b, x.key = some a ∧ y.key = some b ∧ a < b := by
  unfold lt
  cases x.key <;> cases y.key <;> simp

/-- The number, if it is finite. -/
def finite? (x : Double) : Option Double := if x.isFinite then some x else none

/-- The double nearest to an integer; none if it is beyond the finite range. -/
def ofInt? (n : Int) : Option Double := (ofRatio (n < 0) n.natAbs 1).finite?

/-- The double nearest to an integer that is known to be small. -/
def ofInt (n : Int) : Double := ofRatio (n < 0) n.natAbs 1

/-- The double nearest to the quotient of two integers; none if it is beyond
the finite range. The divisor is not zero. -/
def ofQuotient? (n d : Int) : Option Double :=
  (ofRatio ((n < 0) != (d < 0)) n.natAbs d.natAbs).finite?

/-- The double nearest to `± digits * 10 ^ exponent`. -/
def ofDecimal (negative : Bool) (digits : Nat) (exponent : Int) : Double :=
  if digits = 0 then ofRank negative 0
  else
    let size : Int := Nat.log2 digits * 30103 / 100000 + exponent
    if 320 < size then .infinite negative
    else if size < -340 then ofRank negative 0
    else if exponent < 0 then ofRatio negative digits (Nat.pow 10 exponent.natAbs)
    else ofRatio negative (digits * Nat.pow 10 exponent.toNat) 1

/-- The integer that a number equals, if there is one. -/
def toInt? (x : Double) : Option Int :=
  match x.quanta with
  | some (negative, q) =>
    if q % unitQuanta = 0 then
      let n : Int := (q / unitQuanta : Nat)
      some (if negative then -n else n)
    else none
  | none => none

/-- Whether the number equals the integer exactly. -/
def equalsInt (x : Double) (n : Int) : Bool := x.toInt? == some n

/-- `x` times a natural number, rounded once. -/
def mulNat (x : Double) (n : Nat) : Double :=
  match x with
  | .finite negative rank => ofRatio negative (quantaOf rank * n) unitQuanta
  | other => other

/-- `x * scale` rounded to an integer (a half to even), over `scale`, rounded
to a double: `x` with as many places as `scale` has zeros. The sign of a
zero is kept. -/
def roundTo (x : Double) (scale : Nat) : Double :=
  match x with
  | .finite negative rank =>
    ofRatio negative (roundHalfEven (quantaOf rank * scale) unitQuanta) scale
  | other => other

end Double

end Automation
