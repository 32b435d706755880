/-
# Reading numbers from text

A number in text has an optional sign and either decimal digits with an
optional fraction and exponent, or a name of infinity or NaN. Digits may be
of any script, and single underscores may stand between digits. White space
around the number does not count.

Key definitions: `readDouble?`, `readIndex?`.
-/
import Automation.Number.Double
import Automation.Text.Blank
import Automation.Text.Digit

namespace Automation

open Text

/-- The ASCII digit for a digit of any script; other characters stay. -/
def asciiDigit (c : Char) : Char :=
  match digitValue? c with
  | some n => Char.ofNat (48 + n)
  | none => c

/-- Takes out underscores that stand between two digits; none if an
underscore stands anywhere else. `before` tells whether the character before
was a digit. -/
def joinUnderscores (before : Bool) : List Char → Option (List Char)
  | [] => some []
  | '_' :: c :: rest =>
    if before && c.isDigit then (joinUnderscores true rest).map (c :: ·) else none
  | c :: rest =>
    if c == '_' then none else (joinUnderscores c.isDigit rest).map (c :: ·)

/-- A sign, if there is one: whether it is a minus, and what follows. -/
def takeSign : List Char → Bool × List Char
  | '-' :: rest => (true, rest)
  | '+' :: rest => (false, rest)
  | cs => (false, cs)

/-- The leading ASCII digits, and what follows them. -/
def takeDigits (cs : List Char) : List Char × List Char :=
  (cs.takeWhile Char.isDigit, cs.dropWhile Char.isDigit)

/-- The value of ASCII digits. -/
def digitsValue (ds : List Char) : Nat := ds.foldl (fun n d => 10 * n + (d.toNat - 48)) 0

/-- The exponent part: nothing, or a letter `e`, a sign and digits up to the
end of the text. -/
def readExponent : List Char → Option Int
  | [] => some 0
  | c :: rest =>
    if c == 'e' || c == 'E' then
      let (negative, ds) := takeSign rest
      if ds.isEmpty || !ds.all Char.isDigit then none
      else
        let n : Int := digitsValue ds
        some (if negative then -n else n)
    else none

/-- A decimal without sign: digits, fraction, exponent. At least one digit
stands before the exponent. -/
def readMagnitude (negative : Bool) (cs : List Char) : Option Double :=
  let (whole, rest) := takeDigits cs
  let (fraction, rest) :=
    match rest with
    | '.' :: more => takeDigits more
    | _ => ([], rest)
  if whole.isEmpty && fraction.isEmpty then none
  else
    (readExponent rest).map fun e =>
      Double.ofDecimal negative (digitsValue (whole ++ fraction)) (e - fraction.length)

/-- A number with an optional sign; names count in any case. -/
def readSigned (cs : List Char) : Option Double :=
  let (negative, rest) := takeSign cs
  let name := String.ofList (rest.map Char.toLower)
  if name == "inf" || name == "infinity" then some (.infinite negative)
  else if name == "nan" then some .nan
  else readMagnitude negative rest

/-- A number in text; none if the text writes none. -/
def readDouble? (cs : List Char) : Option Double :=
  (joinUnderscores false ((trimOf isSpace cs).map asciiDigit)).bind readSigned

/-- The most digits that a list index may be written with. -/
def indexDigits : Nat := 4300

/-- A list index: one or more decimal digits of any script, not too many. -/
def readIndex? (cs : List Char) : Option Nat :=
  if cs.isEmpty || indexDigits < cs.length then none else digits? cs

end Automation
