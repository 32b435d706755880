/-
# Reading JSON text

A reader of one value takes the characters before it and returns what
follows. Besides the standard grammar the names `NaN`, `Infinity` and
`-Infinity` are values. A number with a point or an exponent is a double,
any other an integer; a repeated member keeps its first place and its last
value. A fault names the place where reading stopped.

Key definitions: `Json.Fault`, `Json.readValue`, `Json.read`.
-/
import Automation.Json.Basic
import Automation.Number.Reading

namespace Automation.Json

open Text (hexValue?)

/-- What is wrong with a text that is no JSON value. -/
inductive Fault where
  | expectedValue
  | expectedName
  | expectedColon
  | expectedComma
  | extraData
  | unterminatedString
  | controlCharacter
  | badEscape
  | badUnicodeEscape
deriving DecidableEq, Repr

def Fault.message : Fault → String
  | .expectedValue => "Expecting value"
  | .expectedName => "Expecting property name enclosed in double quotes"
  | .expectedColon => "Expecting ':' delimiter"
  | .expectedComma => "Expecting ',' delimiter"
  | .extraData => "Extra data"
  | .unterminatedString => "Unterminated string starting at"
  | .controlCharacter => "Invalid control character at"
  | .badEscape => "Invalid \\escape"
  | .badUnicodeEscape => "Invalid \\uXXXX escape"

/-- A fault and the number of characters from its place to the end. -/
structure Stop where
  fault : Fault
  remaining : Nat
deriving DecidableEq, Repr

/-- White space between tokens. -/
def isSpace (c : Char) : Bool := c == ' ' || c == '\t' || c == '\n' || c == '\r'

def skipSpace (cs : List Char) : List Char := cs.dropWhile isSpace

/-- The number that four hexadecimal digits write. -/
def hexCode? (a b c d : Char) : Option Nat := do
  return ((← hexValue? a) * 16 + (← hexValue? b)) * 256 + (← hexValue? c) * 16 + (← hexValue? d)

/-- The character of a code; a surrogate that stands alone has none. -/
def charOfCode (code : Nat) : Char :=
  if 0xd800 ≤ code && code < 0xe000 then Char.ofNat 0xfffd else Char.ofNat code

/-- The character that a pair of surrogates writes. -/
def joinSurrogates (high low : Nat) : Char :=
  Char.ofNat (0x10000 + (high - 0xd800) * 0x400 + (low - 0xdc00))

/-- The character that an escape other than `\u` writes. -/
def escaped? : Char → Option Char
  | '"' => some '"'
  | '\\' => some '\\'
  | '/' => some '/'
  | 'b' => some '\x08'
  | 'f' => some '\x0c'
  | 'n' => some '\n'
  | 'r' => some '\r'
  | 't' => some '\t'
  | _ => none

/-- The rest of a string after its opening quote. `opened` is the number of
characters from that quote to the end; `acc` holds what was read, last first. -/
def readString (opened : Nat) (acc : List Char) : List Char → Except Stop (String × List Char)
  | [] => .error ⟨.unterminatedString, opened⟩
  | '"' :: rest => .ok (String.ofList acc.reverse, rest)
  | '\\' :: 'u' :: rest =>
    match rest with
    | a :: b :: c :: d :: rest' =>
      match hexCode? a b c d, rest' with
      | some high, '\\' :: 'u' :: e :: f :: g :: h :: after :: rest'' =>
        if 0xd800 ≤ high && high < 0xdc00 then
          match hexCode? e f g h with
          | some low =>
            if 0xdc00 ≤ low && low < 0xe000 then
              readString opened (joinSurrogates high low :: acc) (after :: rest'')
            else readString opened (charOfCode high :: acc) ('\\' :: 'u' :: e :: f :: g :: h :: after :: rest'')
          | none => .error ⟨.badUnicodeEscape, rest''.length + 6⟩
        else readString opened (charOfCode high :: acc) ('\\' :: 'u' :: e :: f :: g :: h :: after :: rest'')
      | some code, next :: rest'' => readString opened (charOfCode code :: acc) (next :: rest'')
      | _, _ => .error ⟨.badUnicodeEscape, rest.length + 1⟩
    | _ => .error ⟨.badUnicodeEscape, rest.length + 1⟩
  | '\\' :: c :: rest =>
    match escaped? c with
    | some e => readString opened (e :: acc) rest
    | none => .error ⟨.badEscape, rest.length + 2⟩
  | ['\\'] => .error ⟨.unterminatedString, opened⟩
  | c :: rest =>
    if c.toNat < 0x20 then .error ⟨.controlCharacter, rest.length + 1⟩
    else readString opened (c :: acc) rest

/-- The digits of a whole number: a zero, or digits that start with another. -/
def takeWhole : List Char → Option (List Char × List Char)
  | '0' :: rest => some (['0'], rest)
  | cs =>
    let (ds, rest) := takeDigits cs
    if ds.isEmpty then none else some (ds, rest)

/-- A fraction, if a point and a digit follow. -/
def takeFraction : List Char → Option (List Char × List Char)
  | '.' :: rest =>
    let (ds, rest') := takeDigits rest
    if ds.isEmpty then none else some (ds, rest')
  | _ => none

/-- An exponent, if a letter, a sign and a digit follow. -/
def takeExponent : List Char → Option (Int × List Char)
  | c :: rest =>
    if c == 'e' || c == 'E' then
      let (negative, rest) := takeSign rest
      let (ds, rest') := takeDigits rest
      if ds.isEmpty then none
      else
        let n : Int := digitsValue ds
        some (if negative then -n else n, rest')
    else none
  | [] => none

def readNumber (cs : List Char) : Except Stop (Json × List Char) :=
  let (negative, unsigned) :=
    match cs with
    | '-' :: rest => (true, rest)
    | _ => (false, cs)
  match takeWhole unsigned with
  | none => .error ⟨.expectedValue, cs.length⟩
  | some (whole, rest) =>
    let fraction := takeFraction rest
    let rest := (fraction.map (·.2)).getD rest
    let exponent := takeExponent rest
    let rest := (exponent.map (·.2)).getD rest
    if fraction.isNone && exponent.isNone then
      let n : Int := digitsValue whole
      .ok (.int (if negative then -n else n), rest)
    else
      let places := (fraction.map (·.1)).getD []
      let e := (exponent.map (·.1)).getD 0 - places.length
      .ok (.float (.ofDecimal negative (digitsValue (whole ++ places)) e), rest)

mutual

/-- One value. -/
def readValue : (fuel : Nat) → List Char → Except Stop (Json × List Char)
  | 0, cs => .error ⟨.expectedValue, cs.length⟩
  | fuel + 1, cs =>
    match cs with
    | '"' :: rest => (readString cs.length [] rest).map fun (s, r) => (.str s, r)
    | '{' :: rest =>
      match skipSpace rest with
      | '}' :: r => .ok (.obj [], r)
      | r => readMembers fuel [] r
    | '[' :: rest =>
      match skipSpace rest with
      | ']' :: r => .ok (.arr [], r)
      | r => readItems fuel [] r
    | 'n' :: 'u' :: 'l' :: 'l' :: r => .ok (.null, r)
    | 't' :: 'r' :: 'u' :: 'e' :: r => .ok (.bool true, r)
    | 'f' :: 'a' :: 'l' :: 's' :: 'e' :: r => .ok (.bool false, r)
    | 'N' :: 'a' :: 'N' :: r => .ok (.float .nan, r)
    | 'I' :: 'n' :: 'f' :: 'i' :: 'n' :: 'i' :: 't' :: 'y' :: r => .ok (.float (.infinite false), r)
    | '-' :: 'I' :: 'n' :: 'f' :: 'i' :: 'n' :: 'i' :: 't' :: 'y' :: r =>
      .ok (.float (.infinite true), r)
    | _ => readNumber cs

/-- The members of an object from the next name on. -/
def readMembers : (fuel : Nat) → Members → List Char → Except Stop (Json × List Char)
  | 0, _, cs => .error ⟨.expectedValue, cs.length⟩
  | fuel + 1, acc, cs =>
    match cs with
    | '"' :: rest => do
      let (name, rest) ← readString cs.length [] rest
      match skipSpace rest with
      | ':' :: rest => do
        let (value, rest) ← readValue fuel (skipSpace rest)
        let acc := acc.put name value
        match skipSpace rest with
        | '}' :: rest => .ok (.obj acc, rest)
        | ',' :: rest => readMembers fuel acc (skipSpace rest)
        | rest => .error ⟨.expectedComma, rest.length⟩
      | rest => .error ⟨.expectedColon, rest.length⟩
    | _ => .error ⟨.expectedName, cs.length⟩

/-- The items of a list from the next one on; `acc` holds those before, last
first. -/
def readItems : (fuel : Nat) → List Json → List Char → Except Stop (Json × List Char)
  | 0, _, cs => .error ⟨.expectedValue, cs.length⟩
  | fuel + 1, acc, cs => do
    let (value, rest) ← readValue fuel cs
    match skipSpace rest with
    | ']' :: rest => .ok (.arr (value :: acc).reverse, rest)
    | ',' :: rest => readItems fuel (value :: acc) (skipSpace rest)
    | rest => .error ⟨.expectedComma, rest.length⟩

end

/-- The value that a text writes, or the fault and the place of its first
character. Every call of a reader but two takes a character, so twice the
length is enough fuel. -/
def read (text : String) : Except (Fault × Nat) Json :=
  let cs := text.toList
  let place (stop : Stop) := (stop.fault, cs.length - stop.remaining)
  match readValue (2 * cs.length + 2) (skipSpace cs) with
  | .error stop => .error (place stop)
  | .ok (value, rest) =>
    match skipSpace rest with
    | [] => .ok value
    | rest => .error (place ⟨.extraData, rest.length⟩)

end Automation.Json
