/-
# How values read in messages

Messages show a value as it is: text by itself stays, text inside a list or
an object stands between quotes.

Key definitions: `Json.described`, `Json.kindName`.
-/
import Automation.Json.Basic
import Automation.Number.Shortest
import Automation.Text.Quoted

namespace Automation.Json

open Text (quote)

mutual

/-- A value with its text between quotes. -/
def describedInside : Json → String
  | .null => "None"
  | .bool b => if b then "True" else "False"
  | .int n => toString n
  | .float x => x.toText
  | .str s => quote s
  | .arr [] => "[]"
  | .arr (x :: xs) => "[" ++ (describedInside x ++ describedItems xs)
  | .obj [] => "\x7b\x7d"
  | .obj ((k, v) :: ms) =>
    "\x7b" ++ (quote k ++ ": " ++ (describedInside v ++ describedMembers ms))

/-- The items after the first, and the end of the list. -/
def describedItems : List Json → String
  | [] => "]"
  | x :: xs => ", " ++ (describedInside x ++ describedItems xs)

/-- The members after the first, and the end of the object. -/
def describedMembers : List (String × Json) → String
  | [] => "\x7d"
  | (k, v) :: ms => ", " ++ (quote k ++ ": " ++ (describedInside v ++ describedMembers ms))

end

/-- What messages call the kind of a value. -/
def kindName : Json → String
  | .null => "NoneType"
  | .bool _ => "bool"
  | .int _ => "int"
  | .float _ => "float"
  | .str _ => "str"
  | .arr _ => "list"
  | .obj _ => "dict"

/-- A value as a message shows it. -/
def described : Json → String
  | .str s => s
  | v => v.describedInside

end Automation.Json
