import ClassStub.Text.Alphanumeric
import ClassStub.Text.Digits

/-!
# Reading regular expressions

A `Reader` takes characters off the front of a regular expression, or fails where the expression is not well
formed. What is well formed depends on two modes that the expression itself can change: with blanks that do not
count, and for characters or for single bytes.
-/

namespace ClassStub.RegularExpression

/-- What an expression can change for all that follows in the same group. -/
structure Mode where
  /-- Blanks and comments do not count. -/
  isSpaced : Bool
  /-- The expression is about characters, and not about bytes. -/
  isUnicode : Bool
  deriving DecidableEq, Repr

/-- The place that was reached in an expression. -/
structure Cursor where
  rest : List Char
  mode : Mode
  /-- The names of groups so far. -/
  names : List (List Char)
  deriving DecidableEq, Repr

/-- A computation that takes characters off an expression, or fails where it is not well formed. -/
abbrev Reader := StateT Cursor Option

/-- Drops blanks, and comments from a number sign to the end of the line. -/
def dropBlanks (inComment : Bool) : List Char → List Char
  | [] => []
  | c :: cs =>
    if inComment then dropBlanks (c ≠ '\n') cs
    else if Text.isBlank c then dropBlanks false cs
    else if c = '#' then dropBlanks true cs
    else c :: cs

namespace Reader

/-- The character ahead. -/
def look : Reader Char := do
  let c :: _ := (← get).rest | failure
  return c

/-- Takes a character. -/
def take : Reader Char := do
  let c :: rest := (← get).rest | failure
  modify fun cursor => { cursor with rest }
  return c

/-- Drops blanks where they do not count. -/
def skipBlanks : Reader Unit :=
  modify fun cursor =>
    if cursor.mode.isSpaced then { cursor with rest := dropBlanks false cursor.rest } else cursor

/-- Takes a character, and the blanks behind it. -/
def takeSpaced : Reader Char := do
  let c ← take
  skipBlanks
  return c

/-- Fails where bytes are meant. -/
def needUnicode : Reader Unit := do
  guard (← get).mode.isUnicode

end Reader

open Reader

/-- Takes hexadecimal digits and gives the number. -/
def hexNumber : (digits : Nat) → (start : Nat) → Reader Nat
  | 0, n => return n
  | digits + 1, n => do
    let some value := Text.hexValue? (← takeSpaced) | failure
    hexNumber digits (n * 16 + value)

/-- Takes a character that is given by the hexadecimal digits of its number. -/
def numberedChar (digits : Nat) : Reader Char := do
  skipBlanks
  let n ← hexNumber digits 0
  guard n.isValidChar
  return Char.ofNat n

/-- The letters for the general categories of characters. -/
def categories : List Char := ['c', 'l', 'm', 'n', 'p', 's', 'z']

/-- What a single sign or an escape stands for. -/
inductive Atom where
  | char (c : Char)
  /-- A set of characters. -/
  | set
  /-- A position between characters. -/
  | place
  deriving DecidableEq, Repr

/-- The character that a letter stands for behind a backslash. -/
def control? : Char → Option Char
  | 'a' => some '\x07'
  | 't' => some '\t'
  | 'n' => some '\n'
  | 'v' => some '\x0b'
  | 'f' => some '\x0c'
  | 'r' => some '\r'
  | _ => none

/--
Takes what stands behind a backslash. The complement of a set has no meaning for bytes, and neither has a byte
that is no character by itself. The edges of words are understood for bytes only.
-/
def escape : Reader Atom := do
  let c ← take
  if c = 'x' then
    let c ← numberedChar 2
    unless c.toNat < 0x80 do needUnicode
    return .char c
  else if c = 'u' then return .char (← numberedChar 4)
  else if c = 'U' then return .char (← numberedChar 8)
  else if c = 'p' || c = 'P' then
    skipBlanks
    guard (categories.contains (← takeSpaced).toLower)
    needUnicode
    return .set
  else if c = 'd' || c = 's' || c = 'w' then return .set
  else if c = 'D' || c = 'S' || c = 'W' then
    needUnicode
    return .set
  else if c = 'A' || c = 'z' then return .place
  else if c = 'b' || c = 'B' || c = '<' || c = '>' then
    guard (!(← get).mode.isUnicode)
    return .place
  else
    match control? c with
    | some c => return .char c
    | none =>
      guard (c.toNat < 0x80 && !c.isAlphanum)
      return .char c

/-- The greatest depth to which parts may be nested. -/
def maxDepth : Nat := 250

/-- The depth of parts together; more than one of them are nested one deeper. -/
def jointDepth : List Nat → Nat
  | [] => 0
  | [depth] => depth
  | depths => 1 + depths.foldl max 0

end ClassStub.RegularExpression
