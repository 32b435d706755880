/-
# Conditions

A condition compares the value at a path with a target. Equality is loose:
text that writes a number and booleans count as numbers, null equals null
only. Order is that of numbers, where booleans and blank text have no place.

Key definitions: `Operator`, `Operator.holds`, `Condition.holds`.
-/
import Automation.Display
import Automation.Path
import Automation.Number.Reading
import Automation.Text.Search

namespace Automation

inductive Operator where
  | equals
  | notEquals
  | greaterThan
  | lessThan
  | greaterOrEqual
  | lessOrEqual
  | contains
  | notContains
  | isIn
  | notIn
deriving DecidableEq, Repr

namespace Operator

/-- The operators, in the order in which they are listed. -/
def all : List Operator :=
  [.equals, .notEquals, .greaterThan, .lessThan, .greaterOrEqual, .lessOrEqual, .contains,
    .notContains, .isIn, .notIn]

def name : Operator → String
  | .equals => "equals"
  | .notEquals => "not_equals"
  | .greaterThan => "greater_than"
  | .lessThan => "less_than"
  | .greaterOrEqual => "greater_or_equal"
  | .lessOrEqual => "less_or_equal"
  | .contains => "contains"
  | .notContains => "not_contains"
  | .isIn => "in"
  | .notIn => "not_in"

def ofName? (s : String) : Option Operator := all.find? (·.name == s)

end Operator

namespace Json

/-- The number a value counts as in an equality; blank text counts as zero. -/
def looseNumber? : Json → Option Double
  | .bool b => some (.ofInt (if b then 1 else 0))
  | .int n => Double.ofInt? n
  | .float x => some x
  | .str s =>
    let cs := Text.trim s.toList
    if cs.isEmpty then some .zero else readDouble? cs
  | _ => none

/-- The number a value is ordered by. -/
def orderedNumber? (v : Json) : Option Double :=
  let number? : Option Double :=
    match v with
    | .int n => Double.ofInt? n
    | .float x => some x
    | .str s => if (Text.trim s.toList).isEmpty then none else readDouble? s.toList
    | _ => none
  number?.filter (!·.isNaN)

/-- Equality across the kinds of values. -/
def looseEqual (a b : Json) : Bool :=
  match a, b with
  | .null, .null => true
  | .null, _ => false
  | _, .null => false
  | .str s, .str t => s == t
  | a, b =>
    if a.isContainer || b.isContainer then a.equal b
    else
      match a.looseNumber?, b.looseNumber? with
      | some x, some y => x.eq y
      | _, _ => a.equal b

/-- Whether the text of `needle` occurs in that of `hay`; null has no text. -/
def containsText (hay needle : Json) : Bool :=
  !hay.isNull && Text.occurs needle.display.toList hay.display.toList

/-- Whether both values have a number and `rel` holds of these. -/
def compareBy (rel : Double → Double → Bool) (a b : Json) : Bool :=
  match a.orderedNumber?, b.orderedNumber? with
  | some x, some y => rel x y
  | _, _ => false

/-- Whether a list has an item that equals the value loosely; none for a
target that is no list. -/
def memberOf? (value : Json) : Json → Option Bool
  | .arr items => some (items.any (value.looseEqual ·))
  | _ => none

end Json

/-- Whether `value operator target` holds. -/
def Operator.holds (op : Operator) (value target : Json) : Bool :=
  match op with
  | .equals => value.looseEqual target
  | .notEquals => !value.looseEqual target
  | .greaterThan => value.compareBy (fun x y => y.lt x) target
  | .lessThan => value.compareBy Double.lt target
  | .greaterOrEqual => value.compareBy (fun x y => y.le x) target
  | .lessOrEqual => value.compareBy Double.le target
  | .contains => value.containsText target
  | .notContains => !value.containsText target
  | .isIn => value.memberOf? target == some true
  | .notIn => value.memberOf? target == some false

/-- Whether the operator of a name holds; one that does not exist never does. -/
def Operator.holdsNamed (name : String) (value target : Json) : Bool :=
  match Operator.ofName? name with
  | some op => op.holds value target
  | none => false

/-- A condition on the value at a path. The operator is kept as it is
written; one that does not exist makes the condition false. -/
structure Condition where
  field : String
  operator : String
  value : Json := .null

namespace Condition

def holds (c : Condition) (payload : Json) : Bool :=
  Operator.holdsNamed c.operator (payload.at c.field) c.value

/-- Whether all conditions hold; no conditions always hold. -/
def allHold (cs : List Condition) (payload : Json) : Bool := cs.all (·.holds payload)

/-- Whether two conditions ask the same of the same value. -/
def equal (a b : Condition) : Bool :=
  a.field == b.field && a.operator == b.operator && a.value.equal b.value

/-- Whether lists ask the same, condition by condition. -/
def equalAll : List Condition → List Condition → Bool
  | [], [] => true
  | a :: as, b :: bs => a.equal b && equalAll as bs
  | _, _ => false

end Condition

end Automation
