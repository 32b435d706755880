/-
# Words

Integers of 64 bits with a sign: what a column of numbers holds, and what
counts of time and whole fields of documents are kept in.
-/
namespace Automation.Word

/-- The least of the words. -/
def least : Int := -0x8000000000000000

def fits (n : Int) : Bool := least ≤ n && n < -least

end Automation.Word
