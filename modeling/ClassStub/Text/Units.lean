/-!
# Text as 16-bit units

Characters up to `U+FFFF` are one unit, the others a high and a low surrogate. `decode` reads any sequence of
units: a surrogate without its partner is read as the replacement character.
-/

namespace ClassStub.Text.Units

/-- The first half of a surrogate pair. -/
def isHigh (u : UInt16) : Bool :=
  0xD800 ≤ u.toNat && u.toNat < 0xDC00

/-- The second half of a surrogate pair. -/
def isLow (u : UInt16) : Bool :=
  0xDC00 ≤ u.toNat && u.toNat < 0xE000

/-- The character that a surrogate pair denotes. -/
def combine (high low : UInt16) : Char :=
  Char.ofNat (0x10000 + (high.toNat - 0xD800) * 0x400 + (low.toNat - 0xDC00))

/-- Stands for what is not a character. -/
def replacement : Char := '\uFFFD'

/-- Reads units as characters, with a replacement character for each unpaired surrogate. -/
def decode : List UInt16 → List Char
  | [] => []
  | u :: rest =>
    if isHigh u then
      match rest with
      | [] => [replacement]
      | v :: others =>
        if isLow v then combine u v :: decode others else replacement :: decode (v :: others)
    else if isLow u then replacement :: decode rest
    else Char.ofNat u.toNat :: decode rest

/-- The units of a character. -/
def ofChar (c : Char) : List UInt16 :=
  if c.toNat < 0x10000 then [UInt16.ofNat c.toNat]
  else
    let n := c.toNat - 0x10000
    [UInt16.ofNat (0xD800 + n / 0x400), UInt16.ofNat (0xDC00 + n % 0x400)]

end ClassStub.Text.Units
