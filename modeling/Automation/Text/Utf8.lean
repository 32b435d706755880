/-
# Bytes as text

Text travels as bytes, one to four for each character. Bytes that are no
text read as the replacement character, one for each longest start of a
character that breaks off.

Key definitions: `encodeChar`, `decodeUtf8`.
-/
namespace Automation.Text

/-- The bytes of a character. -/
def encodeChar (c : Char) : List Nat :=
  let n := c.toNat
  let tail (shift : Nat) : Nat := 0x80 + (n >>> (6 * shift)) % 64
  if n < 0x80 then [n]
  else if n < 0x800 then [0xc0 + (n >>> 6), tail 0]
  else if n < 0x10000 then [0xe0 + (n >>> 12), tail 1, tail 0]
  else [0xf0 + (n >>> 18), tail 2, tail 1, tail 0]

/-- A character that has begun: the bytes that are missing, the bounds of the
next one, and the value so far. -/
structure Begun where
  missing : Nat
  least : Nat
  most : Nat
  value : Nat

def replacement : Char := Char.ofNat 0xfffd

/-- A byte at the start of a character: a character, or the start of one. -/
def firstByte (b : Nat) : List Char × Option Begun :=
  if b < 0x80 then ([Char.ofNat b], none)
  else if 0xc2 ≤ b && b ≤ 0xdf then ([], some ⟨1, 0x80, 0xbf, b - 0xc0⟩)
  else if 0xe0 ≤ b && b ≤ 0xef then
    ([], some ⟨2, if b = 0xe0 then 0xa0 else 0x80, if b = 0xed then 0x9f else 0xbf, b - 0xe0⟩)
  else if 0xf0 ≤ b && b ≤ 0xf4 then
    ([], some ⟨3, if b = 0xf0 then 0x90 else 0x80, if b = 0xf4 then 0x8f else 0xbf, b - 0xf0⟩)
  else ([replacement], none)

/-- A byte after the start of a character; one that does not fit starts anew. -/
def nextByte (begun : Begun) (b : Nat) : List Char × Option Begun :=
  if begun.least ≤ b && b ≤ begun.most then
    let value := begun.value * 64 + (b - 0x80)
    if begun.missing ≤ 1 then ([Char.ofNat value], none)
    else ([], some ⟨begun.missing - 1, 0x80, 0xbf, value⟩)
  else
    let (cs, next) := firstByte b
    (replacement :: cs, next)

/-- The characters of bytes, after the start of one. -/
def decodeFrom : Option Begun → List Nat → List Char
  | none, [] => []
  | some _, [] => [replacement]
  | begun, b :: rest =>
    let (cs, next) :=
      match begun with
      | none => firstByte b
      | some begun => nextByte begun b
    cs ++ decodeFrom next rest

/-- The characters of bytes. -/
def decodeUtf8 (bytes : List Nat) : List Char := decodeFrom none bytes

end Automation.Text
