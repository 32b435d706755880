/-
# Fields of a document

Readers for the plain values of a document and for the fields of its
records. A field goes by its name or by the same name in words parted by
underscores; its own name counts first. Numbers and truth values may be
written as text.

Key definitions: `Document.required`, `Document.optional`,
`Document.readInteger`, `Document.readBoolean`, `Document.readTimestamp`.
-/
import Automation.Document.Checked
import Automation.Text.Search
import Automation.Json.Basic
import Automation.Number.Word

namespace Automation.Document

variable {α : Type}

open Checked (valid fault)

/-! ### Plain values -/

def readText : Json → Checked String
  | .str s => .valid s
  | _ => fault .notText

/-- Text of a least and, if there is one, a most number of characters. -/
def readSizedText (least : Nat) (most : Option Nat) (v : Json) : Checked String :=
  (readText v).andThen fun s =>
    if s.length < least then fault (.tooShort least)
    else
      match most with
      | some most => if most < s.length then fault (.tooLong most) else .valid s
      | none => .valid s

/-- Text of a number without the white space around it. -/
def trimNumber (cs : List Char) : List Char := Text.trimOf Text.isSpace cs

/-- Leading zeros, and underscores among them, count for nothing, but for the
last of them where no digit follows. None if the text starts with no digit. -/
def dropZeros (cs : List Char) : Option (List Char) :=
  match cs with
  | '0' :: _ =>
    let isZero := fun c => c == '0' || c == '_'
    let last := ((cs.takeWhile isZero).getLast?).getD '0'
    match cs.dropWhile isZero with
    | [] => some [last]
    | c :: rest =>
      if c.isDigit then some (c :: rest)
      else if c == '.' then some (last :: c :: rest)
      else none
  | c :: _ => if c.isDigit then some cs else none
  | [] => none

/-- What stands before a point with zeros behind it. -/
def dropFraction (cs : List Char) : List Char :=
  match cs.dropWhile (· != '.') with
  | '.' :: zeros =>
    if !zeros.isEmpty && zeros.all (· == '0') then cs.takeWhile (· != '.') else cs
  | _ => cs

/-- The most digits of an integer that is written as text. -/
def integerDigits : Nat := 4300

/-- An integer in text: a sign, digits with single underscores between them,
and perhaps a fraction of zeros. -/
def readIntegerText (s : String) : Checked Int :=
  let (negative, rest) := takeSign (trimNumber s.toList)
  match (dropZeros rest).bind fun cs => joinUnderscores false (dropFraction cs) with
  | some ds =>
    if ds.isEmpty || !ds.all Char.isDigit then fault .integerText
    else if integerDigits < ds.length then fault .integerSize
    else
      let n : Int := digitsValue ds
      .valid (if negative then -n else n)
  | none => fault .integerText

/-- Whether an integer fits into a word and is not the least of them. -/
def fitsWord (n : Int) : Bool := Word.fits n && n != Word.least

/-- An integral double of 64 bits. -/
def readIntegerDouble (x : Double) : Checked Int :=
  if !x.isFinite then fault .integerInfinite
  else
    match x.toInt? with
    | none => fault .integerFraction
    | some n => if fitsWord n then .valid n else fault .integerSize

def readInteger : Json → Checked Int
  | .int n => .valid n
  | .bool b => .valid (if b then 1 else 0)
  | .float x => readIntegerDouble x
  | .str s => readIntegerText s
  | _ => fault .notInteger

/-- The integer if it lies within the bounds. -/
def checkBounds (least : Int) (most : Option Int) (n : Int) : Checked Int :=
  match most with
  | some most =>
    if most < n then fault (.above most)
    else if n < least then fault (.below least) else .valid n
  | none => if n < least then fault (.below least) else .valid n

def readBounded (least : Int) (most : Option Int) (v : Json) : Checked Int :=
  (readInteger v).andThen (checkBounds least most)

/-- A number in text: ASCII digits only, with blanks around it; or with
underscores, single ones and not at the ends, and then without blanks. -/
def readDoubleText (s : String) : Checked Double :=
  let cs := s.toList
  let joined : Option (List Char) :=
    if cs.head? == some '_' || cs.getLast? == some '_' || Text.occurs ['_', '_'] cs then none
    else some (cs.filter (· != '_'))
  match (readSigned (trimNumber cs)).or (joined.bind readSigned) with
  | some x => .valid x
  | none => fault .numberText

def falseWords : List String := ["0", "off", "f", "false", "n", "no"]

def trueWords : List String := ["1", "on", "t", "true", "y", "yes"]

def readBooleanText (s : String) : Checked Bool :=
  let word := String.ofList (s.toList.map Char.toLower)
  if falseWords.contains word then .valid false
  else if trueWords.contains word then .valid true
  else fault .booleanText

/-- One and zero are truth values; other integers are not, and those beyond
64 bits are not even taken for one. -/
def readBooleanInteger (n : Int) : Checked Bool :=
  if n == 0 then .valid false
  else if n == 1 then .valid true
  else if Word.fits n then fault .booleanText
  else fault .notBoolean

def readBooleanDouble (x : Double) : Checked Bool :=
  match x.toInt? with
  | some n => if fitsWord n then readBooleanInteger n else fault .notBoolean
  | none => fault .notBoolean

def readBoolean : Json → Checked Bool
  | .bool b => .valid b
  | .str s => readBooleanText s
  | .int n => readBooleanInteger n
  | .float x => readBooleanDouble x
  | _ => fault .notBoolean

def readTimestamp (v : Json) : Checked Timestamp :=
  let result : Option (Except TimestampFault Timestamp) :=
    match v with
    | .str s => some (Timestamp.readText s)
    | .int n => some (Timestamp.ofInt n)
    | .float x => some (Timestamp.ofDouble x)
    | _ => none
  match result with
  | some (.ok t) => .valid t
  | some (.error e) => fault (.timestamp e)
  | none => fault .notTimestamp

/-- A value of a listed set, by its name. -/
def readNamed (all : List α) (name : α → String) (v : Json) : Checked α :=
  let found : Option α :=
    match v with
    | .str s => all.find? (name · == s)
    | _ => none
  match found with
  | some a => .valid a
  | none => fault (.notAmong (all.map name))

/-- Null for none. -/
def nullable (read : Json → Checked α) : Json → Checked (Option α)
  | .null => .valid none
  | v => (read v).map some

/-! ### Lists and objects -/

/-- The items from an index on. -/
def readItems (read : Json → Checked α) (index : Nat) : List Json → Checked (List α)
  | [] => .valid []
  | x :: xs =>
    valid List.cons |>.and ((read x).within (.index index)) |>.and (readItems read (index + 1) xs)

def readList (read : Json → Checked α) : Json → Checked (List α)
  | .arr xs => readItems read 0 xs
  | _ => fault .notList

def readObject : Json → Checked Members
  | .obj ms => .valid ms
  | _ => fault .notObject

def readTextMembers : Members → Checked (List (String × String))
  | [] => .valid []
  | (k, v) :: ms =>
    valid (fun s rest => (k, s) :: rest)
      |>.and ((readText v).within (.name k))
      |>.and (readTextMembers ms)

/-! ### Records -/

/-- A name of a field in words parted by underscores. -/
def underscored (name : String) : String :=
  String.ofList (name.toList.flatMap fun c => if c.isUpper then ['_', c.toLower] else [c])

/-- A field of a record, and the name that it goes by. -/
def find? (name : String) (ms : Members) : Option (String × Json) :=
  match ms.lookup name with
  | some v => some (name, v)
  | none => (ms.lookup (underscored name)).map (underscored name, ·)

/-- A field that a record has to have. -/
def required (name : String) (read : Json → Checked α) (ms : Members) : Checked α :=
  match find? name ms with
  | some (key, v) => (read v).within (.name key)
  | none => (fault .missing).within (.name name)

/-- A field that stands for `default` when it is missing. -/
def optional (name : String) (default : α) (read : Json → Checked α) (ms : Members) : Checked α :=
  match find? name ms with
  | some (key, v) => (read v).within (.name key)
  | none => .valid default

/-- A record of the name, read from the members of an object. -/
def readRecord (name : String) (read : Members → Checked α) : Json → Checked α
  | .obj ms => read ms
  | _ => fault (.notRecord name)

end Automation.Document
