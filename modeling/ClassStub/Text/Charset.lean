/-!
# Sets of characters

A set of characters is given by the code points, in ascending order, at which membership changes: the first
member, the first character after it that is none, and so on.
-/

namespace ClassStub.Text

/-- A set of characters by the code points at which membership changes. -/
structure Charset where
  changes : List Nat

/-- The character is a member. -/
def Charset.contains (s : Charset) (c : Char) : Bool :=
  (s.changes.takeWhile (· ≤ c.toNat)).length % 2 == 1

/-- The white space characters of Unicode. -/
def blanks : Charset where
  changes := [0x9, 0xE, 0x20, 0x21, 0x85, 0x86, 0xA0, 0xA1, 0x1680, 0x1681, 0x2000, 0x200B, 0x2028, 0x202A,
    0x202F, 0x2030, 0x205F, 0x2060, 0x3000, 0x3001]

/-- A white space character. -/
def isBlank (c : Char) : Bool := blanks.contains c

/-- The text without blanks at its start. -/
def trimStart (cs : List Char) : List Char := cs.dropWhile isBlank

/-- The text without blanks at its end. -/
def trimEnd (cs : List Char) : List Char := (cs.reverse.dropWhile isBlank).reverse

/-- The text without blanks at its ends. -/
def trim (cs : List Char) : List Char := trimEnd (trimStart cs)

end ClassStub.Text
