/-
# Zones by name

Zones are found by names such as `Europe/London`. A name is a relative path:
one that starts at the root, that is not in its shortest form or that climbs
above its start is no name at all.

Key definitions: `Zone.NameError`, `Zone.named`.
-/
import Automation.Zone.Africa
import Automation.Zone.America
import Automation.Zone.Asia
import Automation.Zone.Europe
import Automation.Zone.Ocean
import Automation.Zone.Alias

namespace Automation.Zone

/-- What is wrong with a name of a zone. -/
inductive NameError where
  | unknown (name : String)
  | absolute (name : String)
  | notNormal (name : String)
  | climbsOut (name : String)
deriving DecidableEq, Repr

def NameError.message : NameError → String
  | .unknown name => s!"'No time zone found with key {name}'"
  | .absolute name => s!"ZoneInfo keys may not be absolute paths, got: {name}"
  | .notNormal name => s!"ZoneInfo keys must be normalized relative paths, got: {name}"
  | .climbsOut name => s!"ZoneInfo keys must refer to subdirectories of TZPATH, got: {name}"

/-- The parts of a relative path in its shortest form: empty parts and dots
go, two dots take away the part before them; `acc` is reversed. -/
def normalParts (acc : List String) : List String → List String
  | [] => acc.reverse
  | part :: parts =>
    if part == "" || part == "." then normalParts acc parts
    else if part == ".." then
      match acc with
      | before :: rest =>
        if before == ".." then normalParts (".." :: acc) parts else normalParts rest parts
      | [] => normalParts [".."] parts
    else normalParts (part :: acc) parts

/-- The length of the shortest form of a relative path. -/
def normalLength (parts : List String) : Nat :=
  match normalParts [] parts with
  | [] => 1
  | normal => (String.intercalate "/" normal).length

def allZones : List Entry := africaZones ++ americaZones ++ asiaZones ++ europeZones ++ oceanZones

/-- The zone of a name. -/
def named (name : String) : Except NameError Zone :=
  let parts := name.splitOn "/"
  if name.startsWith "/" then .error (.absolute name)
  else if normalLength parts != name.length then .error (.notNormal name)
  else if (normalParts [] parts).head? == some ".." then .error (.climbsOut name)
  else
    match allZones.lookup ((aliases.lookup name).getD name) with
    | some history => .ok (decode (name, history))
    | none => .error (.unknown name)

end Automation.Zone
