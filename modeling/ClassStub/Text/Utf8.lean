import ClassStub.Bytes

/-!
# UTF-8

Bytes as text. `decode?` accepts well-formed bytes only; `decodeLossy` accepts all, and reads each stretch that
starts a character without finishing it, and each byte that starts none, as one replacement character.
-/

namespace ClassStub.Text.Utf8

/-- The bytes of a character. -/
def encodeChar (c : Char) : Bytes := String.utf8EncodeChar c

/-- The bytes of a text. -/
def encode (s : String) : Bytes := s.toList.flatMap encodeChar

/-- The text of well-formed bytes. -/
def decode? (bs : Bytes) : Option String :=
  String.fromUTF8? ⟨bs.toArray⟩

/-- The byte lies between two others. -/
def within (low high : Nat) (b : UInt8) : Bool :=
  low ≤ b.toNat && b.toNat ≤ high

/-- A byte that continues a character. -/
def isContinuation (b : UInt8) : Bool := within 0x80 0xBF b

/-- The second byte of a three-byte character fits the first. -/
def secondOfThree (a b : UInt8) : Bool :=
  if a = 0xE0 then within 0xA0 0xBF b
  else if a = 0xED then within 0x80 0x9F b
  else within 0xE1 0xEF a && isContinuation b

/-- The second byte of a four-byte character fits the first. -/
def secondOfFour (a b : UInt8) : Bool :=
  if a = 0xF0 then within 0x90 0xBF b
  else if a = 0xF4 then within 0x80 0x8F b
  else within 0xF1 0xF3 a && isContinuation b

/-- The payload of a continuation. -/
def payload (b : UInt8) : Nat := b.toNat % 0x40

/-- Reads bytes as characters, with replacements for what is malformed. -/
def lossyChars : Bytes → List Char
  | [] => []
  | a :: rest =>
    if a < 0x80 then Char.ofNat a.toNat :: lossyChars rest
    else
      match rest with
      | [] => ['\uFFFD']
      | b :: rest =>
        if within 0xC2 0xDF a && isContinuation b then
          Char.ofNat (a.toNat % 0x20 * 0x40 + payload b) :: lossyChars rest
        else if secondOfThree a b then
          match rest with
          | [] => ['\uFFFD']
          | c :: rest =>
            if isContinuation c then
              Char.ofNat (a.toNat % 0x10 * 0x1000 + payload b * 0x40 + payload c) :: lossyChars rest
            else '\uFFFD' :: lossyChars (c :: rest)
        else if secondOfFour a b then
          match rest with
          | [] => ['\uFFFD']
          | c :: rest =>
            if isContinuation c then
              match rest with
              | [] => ['\uFFFD']
              | d :: rest =>
                if isContinuation d then
                  Char.ofNat (a.toNat % 0x08 * 0x40000 + payload b * 0x1000 + payload c * 0x40 + payload d) ::
                    lossyChars rest
                else '\uFFFD' :: lossyChars (d :: rest)
            else '\uFFFD' :: lossyChars (c :: rest)
        else '\uFFFD' :: lossyChars (b :: rest)

/-- The text of any bytes. -/
def decodeLossy (bs : Bytes) : String := String.ofList (lossyChars bs)

end ClassStub.Text.Utf8
