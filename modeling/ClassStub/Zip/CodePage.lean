import ClassStub.Bytes

/-!
# Code page 437

The character set of names that are not marked as UTF-8: ASCII, then accented letters, box drawing and symbols.
-/

namespace ClassStub.Zip

/-- The characters of the bytes from 0x80 on. -/
def upperHalf : List Char :=
  ("ÇüéâäàåçêëèïîìÄÅ" ++
    "ÉæÆôöòûùÿÖÜ¢£¥₧ƒ" ++
    "áíóúñÑªº¿⌐¬½¼¡«»" ++
    "░▒▓│┤╡╢╖╕╣║╗╝╜╛┐" ++
    "└┴┬├─┼╞╟╚╔╩╦╠═╬╧" ++
    "╨╤╥╙╘╒╓╫╪┘┌█▄▌▐▀" ++
    "αßΓπΣσµτΦΘΩδ∞φε∩" ++
    "≡±≥≤⌠⌡÷≈°∙·√ⁿ²■\u00A0").toList

/-- The character of a byte. -/
def codePageChar (b : UInt8) : Char :=
  if b < 0x80 then Char.ofNat b.toNat else upperHalf.getD (b.toNat - 0x80) '\uFFFD'

/-- The text of bytes in the code page. -/
def codePageText (bytes : Bytes) : String := String.ofList (bytes.map codePageChar)

end ClassStub.Zip
