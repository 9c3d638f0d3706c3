import ClassStub.RegularExpression.Reader

/-!
# Bracketed sets

A set of characters in square brackets holds characters, ranges of characters, sets that have a name or stand
behind a backslash, and other bracketed sets. Two of the signs `&`, `-` and `~` in a row join what is in front of
them with what is behind them. `readSet` takes such a set and gives its depth.
-/

namespace ClassStub.RegularExpression

open Reader

/-- The part of a bracketed set that was read. -/
structure Members where
  /-- The depth of what stands in front of the last joining sign. -/
  joined : Option Nat
  /-- The depths of the members since then. -/
  depths : List Nat
  deriving DecidableEq, Repr

namespace Members

/-- The depth of all. -/
def depth (m : Members) : Nat :=
  match m.joined with
  | some depth => 1 + max depth (jointDepth m.depths)
  | none => jointDepth m.depths

/-- Adds a member. -/
def add (m : Members) (depth : Nat) : Members := { m with depths := depth :: m.depths }

/-- Goes on behind a joining sign. -/
def join (m : Members) : Members := ⟨some m.depth, []⟩

end Members

/-- The sets of ASCII characters that have a name. -/
def namedSets : List String :=
  ["alnum", "alpha", "ascii", "blank", "cntrl", "digit", "graph", "lower", "print", "punct", "space", "upper",
   "word", "xdigit"]

/-- What follows a named set between `[:` and `:]`, and whether its complement is meant. -/
def namedSet? (cs : List Char) : Option (Bool × List Char) := do
  let '[' :: ':' :: cs := cs | none
  let (isComplement, cs) := match cs with
    | '^' :: cs => (true, cs)
    | cs => (false, cs)
  guard (namedSets.contains (String.ofList (cs.takeWhile (· ≠ ':'))))
  let ':' :: ']' :: cs := cs.dropWhile (· ≠ ':') | none
  return (isComplement, cs)

/-- Takes hyphens and gives their number. -/
def hyphens : (fuel : Nat) → Reader Nat
  | 0 => return 0
  | fuel + 1 => do
    if (← look) = '-' then
      let _ ← takeSpaced
      return (← hyphens fuel) + 1
    else return 0

/-- Takes the start of a set: hyphens, or else a closing bracket, are members there. -/
def openSet : Reader Members := do
  let _ ← takeSpaced
  if (← look) = '^' then
    let _ ← takeSpaced
    needUnicode
  let count ← hyphens (← get).rest.length
  if count = 0 && (← look) = ']' then
    let _ ← takeSpaced
    let _ ← look
    return ⟨none, [0]⟩
  else return ⟨none, List.replicate count 0⟩

/-- The first character that is neither a blank nor the first number sign. -/
def pastBlanks (inComment : Bool) : List Char → Option Char
  | [] => none
  | c :: cs =>
    if Text.isBlank c then pastBlanks inComment cs
    else if !inComment && c = '#' then pastBlanks true cs
    else some c

/-- The character that decides whether a hyphen ahead is between the ends of a range. -/
def lookPast : Reader (Option Char) := do
  let cursor ← get
  let rest := cursor.rest.tail
  if cursor.mode.isSpaced then return (pastBlanks false rest).or rest.head? else return rest.head?

/-- Takes a member, or the end of a range. -/
def member : Reader Atom := do
  let c ← take
  if c = '\\' then escape else return .char c

/-- Fails for a character that is none for bytes. -/
def needMember (c : Char) : Reader Unit := do
  unless c.toNat < 0x80 do needUnicode

/-- Takes a member or a range. -/
def memberRange : Reader Unit := do
  let first ← member
  skipBlanks
  let sign ← look
  let past ← lookPast
  if sign = '-' && past ≠ some ']' && past ≠ some '-' then
    let _ ← takeSpaced
    let last ← member
    match first, last with
    | .char first, .char last =>
      needMember first
      needMember last
      guard (first ≤ last)
    | _, _ => failure
  else
    match first with
    | .char c => needMember c
    | .set => pure ()
    | .place => failure

/-- A sign that joins members when it is written twice. -/
def isJoint (cs : List Char) : Bool :=
  match cs with
  | a :: b :: _ => a = b && (a = '&' || a = '-' || a = '~')
  | _ => false

/-- Takes the members of a set up to its end and gives their depth. Each takes a character, so `fuel` is enough. -/
def members : (fuel : Nat) → Members → Reader Nat
  | 0, _ => failure
  | fuel + 1, m => do
    skipBlanks
    let rest := (← get).rest
    match namedSet? rest with
    | some (isComplement, rest) =>
      if isComplement then needUnicode
      modify fun cursor => { cursor with rest }
      members fuel (m.add 0)
    | none =>
      match rest with
      | '[' :: _ =>
        let depth ← members fuel (← openSet)
        members fuel (m.add (depth + 1))
      | ']' :: _ =>
        let _ ← take
        return m.depth
      | _ =>
        if isJoint rest then
          let _ ← take
          let _ ← take
          members fuel m.join
        else
          memberRange
          members fuel (m.add 0)

/-- Takes a bracketed set and gives its depth. -/
def readSet : Reader Nat := do
  let m ← openSet
  return (← members ((← get).rest.length + 1) m) + 1

end ClassStub.RegularExpression
