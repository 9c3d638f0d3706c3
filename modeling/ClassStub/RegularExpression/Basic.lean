import ClassStub.RegularExpression.Set

/-!
# Regular expressions

`isWellFormed` tells whether a text is a regular expression. Parts follow each other; they are single signs, sets,
groups in round brackets, and repetitions of the part in front of `?`, `*` or `+`. A bar divides alternatives. A
group can have a name, or change the mode for its content; a change of mode can also stand alone, and holds up to
the end of the group around it. The expressions are those in which an opening curly bracket is never closed, so
that it stands for itself in a set or behind a backslash, and is an error elsewhere.
-/

namespace ClassStub.RegularExpression

open Reader

/-- The part of a group that was read. -/
structure Sequence where
  /-- The depths of the alternatives in front. -/
  alternatives : List Nat
  /-- The depths of the parts of this alternative, the last one first; none for a change of mode. -/
  parts : List (Option Nat)
  deriving DecidableEq, Repr

namespace Sequence

/-- Nothing. -/
def empty : Sequence := ⟨[], []⟩

/-- The depth of the parts of this alternative. -/
def partsDepth (s : Sequence) : Nat := jointDepth (s.parts.map (·.getD 0))

/-- The depth of all. -/
def depth (s : Sequence) : Nat := jointDepth (s.partsDepth :: s.alternatives)

/-- Adds a part. -/
def add (s : Sequence) (part : Option Nat) : Sequence := { s with parts := part :: s.parts }

/-- Goes on with another alternative. -/
def another (s : Sequence) : Sequence := ⟨s.partsDepth :: s.alternatives, []⟩

/-- Repeats the last part; a change of mode cannot be repeated. -/
def repeatLast? (s : Sequence) : Option Sequence :=
  match s.parts with
  | some depth :: parts => some { s with parts := some (depth + 1) :: parts }
  | _ => none

end Sequence

/-- The letters for what an expression can switch on and off. -/
def switches : List Char := ['i', 'm', 's', 'U', 'u', 'R', 'x']

/-- The new value of a switch, after those in front of a hyphen are on and those behind it off. -/
def switched (letters : List Char) (letter : Char) (old : Bool) : Bool :=
  if (letters.takeWhile (· ≠ '-')).contains letter then true
  else if letters.contains letter then false
  else old

/-- The mode after switches were set; each may be named once, and a hyphen has letters behind it. -/
def Mode.switch? (mode : Mode) (letters : List Char) : Option Mode := do
  guard (letters.all fun c => c = '-' || switches.contains c)
  guard letters.Nodup
  guard (letters.getLast? ≠ some '-')
  return { isSpaced := switched letters 'x' mode.isSpaced, isUnicode := switched letters 'u' mode.isUnicode }

/-- A character can stand in the name of a group. -/
def isNameChar (isFirst : Bool) (c : Char) : Bool :=
  if isFirst then c = '_' || Text.isAlphabetic c
  else c = '_' || c = '.' || c = '[' || c = ']' || Text.isAlphanumeric c

/-- The name of a group. -/
def isName : List Char → Bool
  | [] => false
  | c :: cs => isNameChar true c && cs.all (isNameChar false)

/-- Takes the name of a group, which no group in front has, and its end. -/
def groupName : Reader Unit := do
  let cursor ← get
  let name := cursor.rest.takeWhile (· ≠ '>')
  let '>' :: rest := cursor.rest.dropWhile (· ≠ '>') | failure
  guard (isName name && !cursor.names.contains name)
  set { cursor with rest, names := name :: cursor.names }

/-- What stands behind an opening round bracket. -/
inductive Opening where
  /-- A group with a mode for its content. -/
  | group (mode : Mode)
  /-- A change of mode. -/
  | change (mode : Mode)
  deriving DecidableEq, Repr

/-- Takes switches, and what ends them. -/
def readSwitches : Reader Opening := do
  let cursor ← get
  let letters := cursor.rest.takeWhile fun c => c ≠ ':' && c ≠ ')'
  let some mode := cursor.mode.switch? letters | failure
  modify fun cursor => { cursor with rest := cursor.rest.drop letters.length }
  if (← take) = ':' then return .group mode
  else if letters = [] then failure
  else return .change mode

/-- Takes the start of a group behind its bracket. -/
def opening : Reader Opening := do
  skipBlanks
  let cursor ← get
  match cursor.rest with
  | '?' :: 'P' :: '<' :: rest =>
    set { cursor with rest }
    groupName
    return .group cursor.mode
  | '?' :: '<' :: rest =>
    set { cursor with rest }
    groupName
    return .group cursor.mode
  | '?' :: rest =>
    set { cursor with rest }
    readSwitches
  | _ => return .group cursor.mode

/-- Sets the mode. -/
def setMode (mode : Mode) : Reader Unit :=
  modify fun cursor => { cursor with mode }

/-- Takes the sign that makes a repetition as short as possible. -/
def reluctance : Reader Unit :=
  modify fun cursor =>
    match cursor.rest with
    | '?' :: rest => { cursor with rest }
    | _ => cursor

/-- Takes a single sign or an escape; a full stop stands for a character, and never for a byte. -/
def single : Reader Unit := do
  let c ← take
  if c = '\\' then
    let _ ← escape
  else if c = '.' then needUnicode
  else guard (c ≠ '\x7b')

/--
Takes parts up to the end of a group, and gives their depth. Each part takes a character, so as much `fuel` as
characters is enough.
-/
def sequence : (fuel : Nat) → Sequence → Reader Nat
  | 0, _ => failure
  | fuel + 1, s => do
    skipBlanks
    match (← get).rest.head? with
    | none => return s.depth
    | some ')' => return s.depth
    | some '|' =>
      let _ ← take
      sequence fuel s.another
    | some '(' =>
      let _ ← take
      let outer := (← get).mode
      match ← opening with
      | .change mode =>
        setMode mode
        sequence fuel (s.add none)
      | .group mode =>
        setMode mode
        let depth ← sequence fuel .empty
        guard ((← take) = ')')
        setMode outer
        sequence fuel (s.add (some (depth + 1)))
    | some '[' =>
      let depth ← readSet
      sequence fuel (s.add (some depth))
    | some c =>
      if c = '?' || c = '*' || c = '+' then
        let _ ← take
        let some s := s.repeatLast? | failure
        reluctance
        sequence fuel s
      else
        single
        sequence fuel (s.add (some 0))

/-- A text is a regular expression. -/
def isWellFormed (text : List Char) : Bool :=
  let start : Cursor := { rest := text, mode := { isSpaced := false, isUnicode := true }, names := [] }
  match (sequence (text.length + 1) .empty).run start with
  | some (depth, cursor) => cursor.rest.isEmpty && depth ≤ maxDepth
  | none => false

end ClassStub.RegularExpression
