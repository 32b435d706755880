/-
# Writing JSON text

Text is ASCII: any other character is written by its code in UTF-16 units.
Items are parted by a comma and a blank, names from values by a colon and a
blank; members keep their order.

Key definitions: `Json.writeString`, `Json.write`, `Json.render`.
-/
import Automation.Json.Basic
import Automation.Number.Shortest
import Automation.Text.Quoted

namespace Automation.Json

open Text (hexDigits)

/-- The escape of one UTF-16 unit. -/
def unitEscape (unit : Nat) : List Char := '\\' :: 'u' :: hexDigits 4 unit

/-- One character inside a string. -/
def writeChar (c : Char) : List Char :=
  if c == '"' || c == '\\' then ['\\', c]
  else if c == '\n' then ['\\', 'n']
  else if c == '\r' then ['\\', 'r']
  else if c == '\t' then ['\\', 't']
  else if c == '\x08' then ['\\', 'b']
  else if c == '\x0c' then ['\\', 'f']
  else if 0x20 ≤ c.toNat && c.toNat < 0x7f then [c]
  else if c.toNat < 0x10000 then unitEscape c.toNat
  else
    unitEscape (0xd800 + (c.toNat - 0x10000) / 0x400)
      ++ unitEscape (0xdc00 + (c.toNat - 0x10000) % 0x400)

def writeString (s : String) : List Char := '"' :: s.toList.flatMap writeChar ++ ['"']

/-- A double; infinities and NaN have names. -/
def writeDouble (x : Double) : List Char :=
  match x with
  | .nan => "NaN".toList
  | .infinite negative => (if negative then "-Infinity" else "Infinity").toList
  | _ => x.toText.toList

mutual

def write : Json → List Char
  | .null => "null".toList
  | .bool b => (if b then "true" else "false").toList
  | .int n => (toString n).toList
  | .float x => writeDouble x
  | .str s => writeString s
  | .arr [] => ['[', ']']
  | .arr (x :: xs) => '[' :: (write x ++ writeItems xs)
  | .obj [] => ['{', '}']
  | .obj ((k, v) :: ms) => '{' :: (writeString k ++ ':' :: ' ' :: (write v ++ writeMembers ms))

/-- The items after the first, and the end of the list. -/
def writeItems : List Json → List Char
  | [] => [']']
  | x :: xs => ',' :: ' ' :: (write x ++ writeItems xs)

/-- The members after the first, and the end of the object. -/
def writeMembers : List (String × Json) → List Char
  | [] => ['}']
  | (k, v) :: ms => ',' :: ' ' :: (writeString k ++ ':' :: ' ' :: (write v ++ writeMembers ms))

end

/-- The text of a value. -/
def render (j : Json) : String := String.ofList j.write

end Automation.Json
