import ClassStub.RegularExpression.Basic

/-!
# Values of fields

The value that a directive asks of a field: a number, or a regular expression for the text of the value. The words
for truth values, and most numbers, are regular expressions as well.
-/

namespace ClassStub.Log

/-- The digits behind an exponent, with an optional sign. -/
def isExponent (cs : List Char) : Bool :=
  let digits := match cs with
    | '+' :: rest => rest
    | '-' :: rest => rest
    | cs => cs
  digits ≠ [] && digits.all Char.isDigit

/-- Digits with an optional fraction and an optional exponent. -/
def isDecimal (cs : List Char) : Bool :=
  let whole := cs.takeWhile Char.isDigit
  let rest := cs.dropWhile Char.isDigit
  let (fraction, rest) := match rest with
    | '.' :: rest => (rest.takeWhile Char.isDigit, rest.dropWhile Char.isDigit)
    | rest => ([], rest)
  !(whole ++ fraction).isEmpty &&
    match rest with
    | [] => true
    | c :: exponent => (c = 'e' || c = 'E') && isExponent exponent

/-- The words for what is no number and for what is greater than all numbers. -/
def numberWords : List String := ["nan", "inf", "infinity"]

/-- A number with an optional sign. -/
def isNumber (cs : List Char) : Bool :=
  let magnitude := match cs with
    | '+' :: rest => rest
    | '-' :: rest => rest
    | cs => cs
  isDecimal magnitude || numberWords.contains (String.ofList (magnitude.map Char.toLower))

/-- A value that a directive can ask for. -/
def isFieldValue (cs : List Char) : Bool :=
  isNumber cs || RegularExpression.isWellFormed cs

end ClassStub.Log
