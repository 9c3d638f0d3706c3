import ClassStub.Toml.Scan
import ClassStub.Toml.Value

/-!
# Scalars of configuration texts

Blanks, comments, quoted texts, numbers, dates and times.
-/

namespace ClassStub.Toml

open Scan

/-- A blank or a tab. -/
def isSpace (c : Char) : Bool := c == ' ' || c == '\t'

/-- A digit. -/
def isDigit (c : Char) : Bool := '0' ≤ c && c ≤ '9'

/-- The value of a digit of any base. -/
def digitValue (c : Char) : Nat :=
  if isDigit c then c.toNat - '0'.toNat
  else if 'a' ≤ c ∧ c ≤ 'f' then c.toNat - 'a'.toNat + 10
  else c.toNat - 'A'.toNat + 10

/-- The number that digits denote in a base. -/
def ofDigits (base : Nat) (digits : List Char) : Nat :=
  digits.foldl (fun n c => n * base + digitValue c) 0

/-- Skips blanks. -/
def spaces : Scan Unit := do
  let _ ← takeWhile isSpace

/-- Takes the end of a line. -/
def newline : Scan Unit := word ['\n'] <|> word ['\r', '\n']

/-- A character that may stand in a comment or a text by itself. -/
def isPlain (c : Char) : Bool :=
  c == '\t' || (' ' ≤ c && c.toNat ≤ 0x7E) || 0x80 ≤ c.toNat

/-- Takes a comment up to the end of its line. -/
def comment : Scan Unit := do
  char '#'
  let _ ← takeWhile isPlain

/-- Takes what may follow on a line, and its end. -/
def lineEnd : Scan Unit := do
  spaces
  let _ ← maybe comment
  newline <|> atEnd

/-- Skips blanks, comments and line ends. -/
def gap : Scan Unit := do
  spaces
  let _ ← many (do
    let _ ← maybe comment
    newline
    spaces)

/-! Quoted texts -/

/-- A hexadecimal digit. -/
def isHexDigit (c : Char) : Bool :=
  isDigit c || ('a' ≤ c && c ≤ 'f') || ('A' ≤ c && c ≤ 'F')

/-- The character with a number in hexadecimal digits. -/
def scalar? (digits : List Char) : Option Char :=
  let n := ofDigits 16 digits
  if digits.all isHexDigit ∧ (n < 0xD800 ∨ (0xDFFF < n ∧ n < 0x110000)) then some (Char.ofNat n) else none

/-- The character after a backslash stands for this one. -/
def escape? : Char → Option Char
  | 'b' => some '\x08'
  | 't' => some '\t'
  | 'n' => some '\n'
  | 'f' => some '\x0c'
  | 'r' => some '\r'
  | '"' => some '"'
  | '\\' => some '\\'
  | _ => none

/-- Takes an escaped character after its backslash. -/
def escaped : Scan Char := fun cs =>
  match cs with
  | 'u' :: rest =>
    if rest.length < 4 then none else (scalar? (rest.take 4)).map fun c => (c, rest.drop 4)
  | 'U' :: rest =>
    if rest.length < 8 then none else (scalar? (rest.take 8)).map fun c => (c, rest.drop 8)
  | c :: rest => (escape? c).map fun d => (d, rest)
  | [] => none

/-- Takes the text in double quotes. -/
def basicText : Scan (List Char) := do
  char '"'
  let text ← many (satisfy (fun c => isPlain c && c != '"' && c != '\\') <|> do
    char '\\'
    escaped)
  char '"'
  return text

/-- Takes the text in single quotes. -/
def literalText : Scan (List Char) := do
  char '\''
  let text ← takeWhile fun c => isPlain c && c != '\''
  char '\''
  return text

/-- Takes three quotes and up to two more in front of them, which belong to the text. -/
def closingQuotes (quote : Char) : Scan (List Char) := fun cs =>
  match (cs.take 5).takeWhile (· == quote) with
  | [_, _, _] => some ([], cs.drop 3)
  | [_, _, _, _] => some ([quote], cs.drop 4)
  | [_, _, _, _, _] => some ([quote, quote], cs.drop 5)
  | _ => none

/-- Takes a quote that does not close the text. -/
def innerQuote (quote : Char) : Scan (List Char) := fun cs =>
  match (cs.take 3).takeWhile (· == quote) with
  | [_] => some ([quote], cs.drop 1)
  | [_, _] => some ([quote, quote], cs.drop 2)
  | _ => none

/-- Takes a backslash at the end of a line and all blanks and line ends that follow. -/
def joinedLines : Scan (List Char) := do
  char '\\'
  spaces
  newline
  let _ ← many ((do let _ ← satisfy isSpace) <|> newline)
  return []

/-- Takes a text of several lines, given what it may hold besides line ends and single quotes. -/
def multiLine (quote : Char) (part : Scan (List Char)) : Scan (List Char) := do
  word [quote, quote, quote]
  let _ ← maybe newline
  let parts ← many (part <|> (do newline; return ['\n']) <|> innerQuote quote)
  let tail ← closingQuotes quote
  return parts.flatten ++ tail

/-- Takes a text of several lines in double quotes. -/
def multiBasicText : Scan (List Char) :=
  multiLine '"' (takeSome (fun c => isPlain c && c != '"' && c != '\\') <|> joinedLines <|> do
    char '\\'
    let c ← escaped
    return [c])

/-- Takes a text of several lines in single quotes. -/
def multiLiteralText : Scan (List Char) :=
  multiLine '\'' (takeSome fun c => isPlain c && c != '\'')

/-- Takes a quoted text. -/
def quotedText : Scan String := do
  let text ← multiBasicText <|> basicText <|> multiLiteralText <|> literalText
  return String.ofList text

/-! Numbers -/

/-- Takes digits of which two may be divided by an underscore. -/
def digitRun (p : Char → Bool) : Scan (List Char) := do
  let first ← satisfy p
  let others ← many (satisfy p <|> do
    char '_'
    satisfy p)
  return first :: others

/-- Takes a sign and says whether it is negative. -/
def sign : Scan Bool := do
  match ← maybe (satisfy fun c => c == '+' || c == '-') with
  | some c => return c == '-'
  | none => return false

/-- Takes decimal digits that do not start with a zero, or a zero. -/
def plainDigits : Scan (List Char) :=
  (do
    let _ ← Scan.peek (satisfy fun c => isDigit c && c != '0')
    digitRun isDigit) <|> do
    char '0'
    return ['0']

/-- The number from which integers are too large for 64 bits with a sign. -/
def integerBound : Nat := 0x8000000000000000

/-- An integer, if it fits in 64 bits. -/
def integer? (negative : Bool) (n : Nat) : Option Value :=
  if negative then (if n ≤ integerBound then some (.integer (-n)) else none)
  else if n < integerBound then some (.integer n)
  else none

/-- Takes an integer. -/
def integer : Scan Value := do
  let based (mark : Char) (base : Nat) (p : Char → Bool) : Scan Value := do
    word ['0', mark]
    let digits ← digitRun p
    integer? false (ofDigits base digits)
  let decimal : Scan Value := do
    let negative ← sign
    let digits ← plainDigits
    integer? negative (ofDigits 10 digits)
  based 'x' 16 isHexDigit <|> based 'o' 8 (fun c => '0' ≤ c && c ≤ '7') <|>
    based 'b' 2 (fun c => c == '0' || c == '1') <|> decimal

/-- Takes an exponent. -/
def exponent : Scan Int := do
  let _ ← satisfy fun c => c == 'e' || c == 'E'
  let negative ← sign
  let digits ← digitRun isDigit
  let n : Int := ofDigits 10 digits
  return if negative then -n else n

/-- The number with given digits; one that is too large is infinite if negative, and no number if positive. -/
def number? (negative : Bool) (digits : List Char) (exponent : Int) : Option Number :=
  match Decimal.Binary64.ofDecimal? (ofDigits 10 digits) exponent with
  | some x => some (.finite negative x)
  | none => if negative then some (.infinite true) else none

/-- Takes a number with a fraction or an exponent. -/
def finite : Scan Number := do
  let negative ← sign
  let whole ← plainDigits
  let fraction ← maybe (do
    char '.'
    digitRun isDigit)
  match fraction with
  | some places =>
    let e ← maybe exponent
    number? negative (whole ++ places) (e.getD 0 - places.length)
  | none =>
    let e ← exponent
    number? negative whole e

/-- Takes a number, finite or not. -/
def float : Scan Value := do
  let special : Scan Number := do
    let negative ← sign
    (do word ['i', 'n', 'f']; return .infinite negative) <|> do word ['n', 'a', 'n']; return .undefined
  let x ← finite <|> special
  return .float x

/-! Dates and times -/

/-- Takes exactly so many digits. -/
def fixedDigits : Nat → Scan (List Char)
  | 0 => pure []
  | n + 1 => do
    let first ← satisfy isDigit
    let others ← fixedDigits n
    return first :: others

/-- Takes a two-digit number between bounds. -/
def twoDigits (low high : Nat) : Scan Nat := do
  let digits ← fixedDigits 2
  let n := ofDigits 10 digits
  if low ≤ n ∧ n ≤ high then return n else failure

/-- The number of days of a month. -/
def daysIn (year month : Nat) : Nat :=
  if month = 2 then
    if year % 4 = 0 ∧ (year % 100 ≠ 0 ∨ year % 400 = 0) then 29 else 28
  else if month ∈ [4, 6, 9, 11] then 30
  else 31

/-- Takes a date. -/
def date : Scan Unit := do
  let year ← fixedDigits 4
  char '-'
  let month ← twoDigits 1 12
  char '-'
  let _ ← twoDigits 1 (daysIn (ofDigits 10 year) month)

/-- Takes a time of day. -/
def time : Scan Unit := do
  let _ ← twoDigits 0 23
  char ':'
  let _ ← twoDigits 0 59
  char ':'
  let _ ← twoDigits 0 60
  let _ ← maybe (do
    char '.'
    takeSome isDigit)

/-- Takes the offset of a time zone. -/
def offset : Scan Unit :=
  (do let _ ← satisfy fun c => c == 'Z' || c == 'z') <|> do
    let _ ← satisfy fun c => c == '+' || c == '-'
    let _ ← twoDigits 0 23
    char ':'
    let _ ← twoDigits 0 59

/-- Takes a date, a time, or both. -/
def datetime : Scan Value := do
  let dated : Scan Unit := do
    date
    let _ ← maybe (do
      let _ ← satisfy fun c => c == 'T' || c == 't' || c == ' '
      time
      let _ ← maybe offset)
  dated <|> time
  return .datetime

/-- Takes a truth value. -/
def boolean : Scan Value :=
  (do word "true".toList; return .boolean true) <|> do word "false".toList; return .boolean false

/-- Takes a value without parts. -/
def scalar : Scan Value :=
  (do let text ← quotedText; return .string text) <|> boolean <|> datetime <|> float <|> integer

end ClassStub.Toml
