/-
# Blank characters

White space is a Unicode property. The blanks that text is trimmed of are
the white space together with the four separators U+001C to U+001F; numbers
are trimmed of the white space only.

Key definitions: `isSpace`, `isBlank`, `trim`.
-/
namespace Automation.Text

/-- The property of white space. -/
def isSpace (c : Char) : Bool :=
  let n := c.toNat
  (0x09 ≤ n && n ≤ 0x0d) || n == 0x20 || n == 0x85 || n == 0xa0 || n == 0x1680
    || (0x2000 ≤ n && n ≤ 0x200a) || n == 0x2028 || n == 0x2029 || n == 0x202f || n == 0x205f
    || n == 0x3000

/-- White space and the ASCII separators. -/
def isBlank (c : Char) : Bool := isSpace c || (0x1c ≤ c.toNat && c.toNat ≤ 0x1f)

/-- Characters without those of a class at either end. -/
def trimOf (p : Char → Bool) (cs : List Char) : List Char :=
  ((cs.dropWhile p).reverse.dropWhile p).reverse

/-- Characters without blanks at either end. -/
def trim (cs : List Char) : List Char := trimOf isBlank cs

/-- Text without blanks at either end. -/
def trimmed (s : String) : String := String.ofList (trim s.toList)

end Automation.Text
