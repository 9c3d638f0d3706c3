import ClassStub.Bytes
import ClassStub.Text.Units

/-!
# Modified UTF-8

The text encoding of class files writes 16-bit units, not characters. A unit takes one byte (`01` to `7F`), two
(a byte `C0` to `DF` and a continuation) or three (a byte `E0` to `EF` and two continuations); a continuation is
a byte `80` to `BF`. The zero unit is written in two bytes, so that no byte is zero. Decoding accepts longer
forms than necessary; encoding writes the shortest.
-/

namespace ClassStub.Text.ModifiedUtf8

/-- A byte that is a unit by itself. -/
def isSingle (b : UInt8) : Bool :=
  1 ≤ b.toNat && b.toNat < 0x80

/-- The first byte of a unit of two bytes. -/
def isLeadTwo (b : UInt8) : Bool :=
  0xC0 ≤ b.toNat && b.toNat < 0xE0

/-- The first byte of a unit of three bytes. -/
def isLeadThree (b : UInt8) : Bool :=
  0xE0 ≤ b.toNat && b.toNat < 0xF0

/-- A byte that continues a unit. -/
def isContinuation (b : UInt8) : Bool :=
  0x80 ≤ b.toNat && b.toNat < 0xC0

/-- The unit of two bytes. -/
def unitTwo (a b : UInt8) : UInt16 :=
  UInt16.ofNat (a.toNat % 0x20 * 0x40 + b.toNat % 0x40)

/-- The unit of three bytes. -/
def unitThree (a b c : UInt8) : UInt16 :=
  UInt16.ofNat (a.toNat % 0x10 * 0x1000 + b.toNat % 0x40 * 0x40 + c.toNat % 0x40)

/-- The units that bytes encode. -/
def units : Bytes → Option (List UInt16)
  | [] => some []
  | a :: rest =>
    if isSingle a then (units rest).map (UInt16.ofNat a.toNat :: ·)
    else
      match rest with
      | [] => none
      | b :: rest =>
        if isLeadTwo a && isContinuation b then (units rest).map (unitTwo a b :: ·)
        else
          match rest with
          | [] => none
          | c :: rest =>
            if isLeadThree a && isContinuation b && isContinuation c then
              (units rest).map (unitThree a b c :: ·)
            else none

/-- The text that bytes encode. -/
def decode (bs : Bytes) : Option String :=
  (units bs).map fun us => String.ofList (Units.decode us)

/-- The shortest encoding of a unit; zero takes two bytes. -/
def encodeUnit (u : UInt16) : Bytes :=
  let n := u.toNat
  if 1 ≤ n ∧ n < 0x80 then [UInt8.ofNat n]
  else if n < 0x800 then [UInt8.ofNat (0xC0 + n / 0x40), UInt8.ofNat (0x80 + n % 0x40)]
  else [UInt8.ofNat (0xE0 + n / 0x1000), UInt8.ofNat (0x80 + n / 0x40 % 0x40), UInt8.ofNat (0x80 + n % 0x40)]

/-- The encoding of a text. -/
def encode (s : String) : Bytes :=
  s.toList.flatMap fun c => (Units.ofChar c).flatMap encodeUnit

end ClassStub.Text.ModifiedUtf8
