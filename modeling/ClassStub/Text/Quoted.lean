import ClassStub.Text.Digits
import ClassStub.Text.Hidden

/-!
# Quoted texts

A text in double quotes, for messages. Quotes and backslashes are escaped, some controls have a letter, and
every other character that does not show by itself is written by its number.
-/

namespace ClassStub.Text

/-- A character inside a quoted text. -/
def quoteChar (c : Char) : List Char :=
  if c = '"' then ['\\', '"']
  else if c = '\\' then ['\\', '\\']
  else if c = '\n' then ['\\', 'n']
  else if c = '\r' then ['\\', 'r']
  else if c = '\t' then ['\\', 't']
  else if c.toNat = 0 then ['\\', '0']
  else if isHidden c then "\\u\x7b".toList ++ (hex c.toNat).toList ++ "\x7d".toList
  else [c]

/-- A text in quotes. -/
def quoted (s : String) : String :=
  "\"" ++ String.ofList (s.toList.flatMap quoteChar) ++ "\""

end ClassStub.Text
