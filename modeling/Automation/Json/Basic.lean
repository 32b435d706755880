/-
# JSON values

Payloads, records and the free parts of workflow documents are JSON values.
Integers are unbounded and differ from doubles; the members of an object
keep their order. Equality of values is that of the numbers they hold:
`1`, `1.0` and `true` are equal, the order of members does not matter.

Key definitions: `Json`, `Json.member?`, `Json.put`, `Json.equal`.
-/
import Automation.Number.Double

namespace Automation

inductive Json where
  | null
  | bool (b : Bool)
  | int (n : Int)
  | float (x : Double)
  | str (s : String)
  | arr (items : List Json)
  | obj (members : List (String × Json))
deriving Inhabited, Repr

/-- The members of an object, in order. -/
abbrev Members := List (String × Json)

/-- Sets a member: an existing one keeps its place, a new one goes to the end. -/
def Members.put (key : String) (value : Json) : Members → Members
  | [] => [(key, value)]
  | (k, v) :: rest => if k == key then (k, value) :: rest else (k, v) :: put key value rest

/-- The members of `front` with those of `back` set, in order. -/
def Members.merge (front back : Members) : Members :=
  back.foldl (fun acc (k, v) => acc.put k v) front

/-- The members whose names are not among `names`. -/
def Members.without (names : List String) (ms : Members) : Members :=
  ms.filter fun (k, _) => !names.contains k

namespace Json

/-- The member of an object; none for an absent one and for other values. -/
def member? (name : String) : Json → Option Json
  | .obj members => members.lookup name
  | _ => none

def isNull : Json → Bool
  | .null => true
  | _ => false

def isContainer : Json → Bool
  | .arr _ | .obj _ => true
  | _ => false

/-- Null for a missing text. -/
def ofText? : Option String → Json
  | some s => .str s
  | none => .null

/-- Null for a missing number. -/
def ofInt? : Option Int → Json
  | some n => .int n
  | none => .null

def text? : Json → Option String
  | .str s => some s
  | _ => none

def int? : Json → Option Int
  | .int n => some n
  | _ => none

def ofTexts (ss : List String) : Json := .arr (ss.map .str)

/-- Whether a value counts as given: null, false, zero and empty ones do not. -/
def isGiven : Json → Bool
  | .null => false
  | .bool b => b
  | .int n => n != 0
  | .float x => !x.eq .zero
  | .str s => !s.isEmpty
  | .arr items => !items.isEmpty
  | .obj members => !members.isEmpty

/-- A value that counts as a number: booleans count as 1 and 0. -/
inductive Scalar where
  | int (n : Int)
  | float (x : Double)

def scalar? : Json → Option Scalar
  | .bool b => some (.int (if b then 1 else 0))
  | .int n => some (.int n)
  | .float x => some (.float x)
  | _ => none

/-- Exact equality of an integer or a double with another. -/
def Scalar.equal : Scalar → Scalar → Bool
  | .int m, .int n => m == n
  | .int m, .float y => y.equalsInt m
  | .float x, .int n => x.equalsInt n
  | .float x, .float y => x.eq y

/-- Whether a value counts as a number equal to `x`. -/
def equalScalar (x : Scalar) (y : Json) : Bool :=
  match y.scalar? with
  | some y => x.equal y
  | none => false

mutual

/-- Whether every double in a value is finite. -/
def isFinite : Json → Bool
  | .float x => x.isFinite
  | .arr items => areFinite items
  | .obj members => membersAreFinite members
  | _ => true

def areFinite : List Json → Bool
  | [] => true
  | x :: xs => x.isFinite && areFinite xs

def membersAreFinite : List (String × Json) → Bool
  | [] => true
  | (_, v) :: ms => v.isFinite && membersAreFinite ms

end

mutual

/-- Equality of values: numbers by what they count, lists item by item,
objects by their members in any order. -/
def equal : Json → Json → Bool
  | .null, .null => true
  | .str s, .str t => s == t
  | .arr xs, .arr ys => equalItems xs ys
  | .obj ms, .obj ns => ms.length == ns.length && equalMembers ms ns
  | .bool b, y => equalScalar (.int (if b then 1 else 0)) y
  | .int n, y => equalScalar (.int n) y
  | .float x, y => equalScalar (.float x) y
  | _, _ => false

def equalItems : List Json → List Json → Bool
  | [], [] => true
  | x :: xs, y :: ys => equal x y && equalItems xs ys
  | _, _ => false

/-- Whether every member of the first has an equal one in the second. -/
def equalMembers : List (String × Json) → List (String × Json) → Bool
  | [], _ => true
  | (k, v) :: rest, ns =>
    (match ns.lookup k with
      | some w => equal v w
      | none => false)
    && equalMembers rest ns

end

end Json

end Automation
