/-
# How values read in text

The text that stands for a value in rendered templates and in tests for
contained text: nothing for null, integral doubles without a fraction, the
items of a list joined by commas, objects as JSON text.

Key definitions: `Json.display`.
-/
import Automation.Json.Printer

namespace Automation

/-- The text of a double: an integral one is written as an integer. -/
def Double.display (x : Double) : String :=
  match x.toInt? with
  | some n => toString n
  | none => x.toText

namespace Json

mutual

/-- The text that stands for a value. -/
def display : Json → String
  | .null => ""
  | .bool b => if b then "true" else "false"
  | .int n => toString n
  | .float x => x.display
  | .str s => s
  | .arr [] => ""
  | .arr (x :: xs) => display x ++ displayRest xs
  | .obj members => (Json.obj members).render

/-- The items after the first, each behind a comma. -/
def displayRest : List Json → String
  | [] => ""
  | x :: xs => "," ++ (display x ++ displayRest xs)

end

end Json

end Automation
