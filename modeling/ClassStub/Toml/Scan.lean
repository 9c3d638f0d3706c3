/-!
# Scanning texts

A scanner takes something off the front of a text or fails. Alternatives are tried in order; repetition goes on
as long as its part succeeds, and its number of rounds is bounded by the length of the text.
-/

namespace ClassStub.Toml

/-- Takes a value off the front of a text, or fails. -/
abbrev Scan := StateT (List Char) Option

namespace Scan

/-- Takes a character of a class. -/
def satisfy (p : Char → Bool) : Scan Char := fun cs =>
  match cs with
  | c :: rest => if p c then some (c, rest) else none
  | [] => none

/-- Takes a given character. -/
def char (c : Char) : Scan Unit := do
  let _ ← satisfy (· == c)

/-- Takes given characters. -/
def word : List Char → Scan Unit
  | [] => pure ()
  | c :: cs => do
    char c
    word cs

/-- Takes all characters of a class. -/
def takeWhile (p : Char → Bool) : Scan (List Char) := fun cs =>
  some (cs.takeWhile p, cs.dropWhile p)

/-- Takes one or more characters of a class. -/
def takeSome (p : Char → Bool) : Scan (List Char) := do
  let first ← satisfy p
  let others ← takeWhile p
  return first :: others

/-- Tries a scanner and takes nothing where it fails. -/
def maybe {α : Type} (scan : Scan α) : Scan (Option α) := fun cs =>
  match scan cs with
  | some (a, rest) => some (some a, rest)
  | none => some (none, cs)

/-- Scans ahead without taking anything. -/
def peek {α : Type} (scan : Scan α) : Scan α := fun cs =>
  match scan cs with
  | some (a, _) => some (a, cs)
  | none => none

/-- Repeats a scanner for at most a number of rounds. -/
def rounds {α : Type} (scan : Scan α) : Nat → Scan (List α)
  | 0 => pure []
  | n + 1 => do
    match ← maybe scan with
    | some a =>
      let others ← rounds scan n
      return a :: others
    | none => return []

/-- Repeats a scanner as long as it succeeds. -/
def many {α : Type} (scan : Scan α) : Scan (List α) := fun cs =>
  rounds scan cs.length cs

/-- Scans parts with separators between them, at least one. -/
def sepBy {α : Type} (scan : Scan α) (separator : Scan Unit) : Scan (List α) := do
  let first ← scan
  let others ← many (do
    separator
    scan)
  return first :: others

/-- Succeeds at the end of the text. -/
def atEnd : Scan Unit := fun cs =>
  match cs with
  | [] => some ((), [])
  | _ => none

end Scan

end ClassStub.Toml
