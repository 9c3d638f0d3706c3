import ClassStub.Glob.Language
import ClassStub.Glob.Lexeme
import ClassStub.Text.Segment
import ClassStub.Text.Utf8

/-!
# Glob patterns

A pattern describes names cut by `/`. `?` is any one byte and `*` any bytes, slashes included. `**` stands for
whole components where slashes or the ends of the pattern (or of an alternative) surround it, and for any bytes
elsewhere. `[…]` is one byte of a set, and `{…,…}` one of several alternatives; empty alternatives do not count.
Names are compared as UTF-8 bytes, so a character outside ASCII in a set stands for its separate bytes.
-/

namespace ClassStub.Glob

/-- A part of a pattern. -/
inductive Token where
  | char (c : Char)
  /-- Any one byte. -/
  | one
  /-- Any bytes. -/
  | many
  /-- Any leading components: nothing, a slash, or anything that ends in a slash. -/
  | leading
  /-- Any trailing components: a slash and anything. -/
  | trailing
  /-- Any components between two: a slash, or anything between two slashes. -/
  | between
  | set (set : CharSet)
  | group (alternatives : List (List Token))

/-- A group that is not closed yet. -/
structure OpenGroup where
  /-- The tokens in front of the group, the latest first. -/
  outer : List Token
  /-- The alternatives that are complete, the latest first. -/
  alternatives : List (List Token)

/-- The character in front lets a `**` stand for components. -/
def mayStandAlone (inGroup : Bool) (previous : Option Char) : Bool :=
  previous == some '/' || (inGroup && (previous == some ',' || previous == some '\x7b'))

/-- The token of a `**` after the token `last`, at the end of a pattern or alternative. -/
def trailingAfter : Token → Token
  | .leading => .leading
  | .trailing => .trailing
  | _ => .trailing

/-- The token of a `**` after the token `last` and in front of a slash. -/
def betweenAfter : Token → Token
  | .leading => .leading
  | .trailing => .trailing
  | _ => .between

/--
Puts lexemes together. `previous` is the character in front, `groups` are the groups that are open, the inmost
first, and `branch` holds the tokens of the current alternative, the latest first.
-/
def build (previous : Option Char) (groups : List OpenGroup) (branch : List Token) :
    List Lexeme → Except Fault (List OpenGroup × List Token)
  | [] => .ok (groups, branch)
  | .star :: .star :: .char '/' false :: rest =>
    match branch with
    | [] => build (some '/') groups [.leading] rest
    | last :: before =>
      if mayStandAlone (!groups.isEmpty) previous then
        build (some '/') groups (betweenAfter last :: before) rest
      else build (some '/') groups (.char '/' :: .many :: .many :: branch) rest
  | .star :: .star :: rest =>
    match branch with
    | [] =>
      if rest.isEmpty then build (some '*') groups [.leading] rest
      else build (some '*') groups [.many, .many] rest
    | last :: before =>
      let ends := match rest.head? with
        | none => true
        | some .comma | some .closing => !groups.isEmpty
        | some _ => false
      if mayStandAlone (!groups.isEmpty) previous && ends then
        build (some '*') groups (trailingAfter last :: before) rest
      else build (some '*') groups (.many :: .many :: branch) rest
  | lexeme :: rest =>
    let next := some lexeme.lastChar
    match lexeme with
    | .question => build next groups (.one :: branch) rest
    | .star => build next groups (.many :: branch) rest
    | .set s => build next groups (.set s :: branch) rest
    | .char c _ => build next groups (.char c :: branch) rest
    | .opening => build next (⟨branch, []⟩ :: groups) [] rest
    | .comma =>
      match groups with
      | [] => build next [] (.char ',' :: branch) rest
      | group :: groups =>
        build next ({ group with alternatives := branch.reverse :: group.alternatives } :: groups) [] rest
    | .closing =>
      match groups with
      | [] => .error .unopenedGroup
      | group :: groups =>
        build next groups (.group (branch.reverse :: group.alternatives).reverse :: group.outer) rest

/-- The tokens of the text of a pattern. -/
def tokens (pattern : List Char) : Except Fault (List Token) := do
  let (lexemes, fault) := Lexeme.scan pattern
  let (groups, branch) ← build none [] [] lexemes
  match fault with
  | some fault => throw fault
  | none => if groups.isEmpty then return branch.reverse else throw .unclosedGroup

/-- The bytes that a range of characters stands for: those of its ends, and those between where the ends meet. -/
def rangeBytes (low high : Char) : List (UInt8 × UInt8) :=
  if low = high then (Text.Utf8.encodeChar low).map fun b => (b, b)
  else
    let lows := Text.Utf8.encodeChar low
    let highs := Text.Utf8.encodeChar high
    lows.dropLast.map (fun b => (b, b)) ++ [(lows.getLastD 0, highs.headD 0)] ++ highs.tail.map fun b => (b, b)

/-- The bytes that a set of characters stands for. -/
def CharSet.toBytes (s : CharSet) : ByteSet where
  negated := s.negated
  ranges := s.ranges.flatMap fun (low, high) => rangeBytes low high

/-- A slash. -/
def slash : Language := .byte (.single 0x2F)

mutual

/-- The language of a token, none for a group without alternatives. -/
def Token.language? : Token → Option Language
  | .char c => some (Language.literal (Text.Utf8.encodeChar c))
  | .one => some (.byte .all)
  | .many => some .anything
  | .leading => some (.alt (.alt .empty slash) (.seq .anything slash))
  | .trailing => some (.seq slash .anything)
  | .between => some (.alt slash (.seq slash (.seq .anything slash)))
  | .set s => some (.byte s.toBytes)
  | .group alternatives => groupLanguage? alternatives

/-- The language of tokens one after the other, none where nothing is written. -/
def sequenceLanguage? : List Token → Option Language
  | [] => none
  | token :: rest =>
    match token.language?, sequenceLanguage? rest with
    | some a, some b => some (.seq a b)
    | some a, none => some a
    | none, b => b

/-- The language of alternatives, of which empty ones do not count. -/
def groupLanguage? : List (List Token) → Option Language
  | [] => none
  | alternative :: rest =>
    match sequenceLanguage? alternative, groupLanguage? rest with
    | some a, some b => some (.alt a b)
    | some a, none => some a
    | none, b => b

end

/-- The tokens are single characters. -/
def isLiteral (ts : List Token) : Bool :=
  ts.all fun
    | .char _ => true
    | _ => false

/-- The last token is a dot. -/
def endsInDot (ts : List Token) : Bool :=
  match ts.getLast? with
  | some (.char '.') => true
  | _ => false

/-- The tokens are characters and hold a slash. -/
def holdsSlash (ts : List Token) : Bool :=
  ts.any fun
    | .char '/' => true
    | _ => false

/--
The pattern is compared with the last component of a name, or with the extension of the last component, and so
can end in a dot without matching the component `..`, which has neither.
-/
def comparesLastComponent (ts : List Token) : Bool :=
  endsInDot ts &&
    match ts with
    | .leading :: .many :: rest => !isLiteral rest || rest.length = 1
    | .leading :: rest => !isLiteral rest || !holdsSlash rest
    | .many :: rest => !isLiteral rest || rest.length = 1
    | ts => !isLiteral ts

/-- The language of a whole pattern. -/
def wholeLanguage : List Token → Language
  | [.leading] => .anything
  | ts => (sequenceLanguage? ts).getD .empty

end ClassStub.Glob

namespace ClassStub

/-- A compiled pattern. -/
structure Glob where
  language : Glob.Language
  skipsAbove : Bool

namespace Glob

/-- Compiles the text of a pattern. -/
def compile (pattern : String) : Except Fault Glob := do
  let ts ← tokens pattern.toList
  return { language := wholeLanguage ts, skipsAbove := comparesLastComponent ts }

/-- The whole name matches the pattern. -/
def accepts (g : Glob) (name : String) : Bool :=
  !(g.skipsAbove && Text.lastSegment '/' name.toList == ['.', '.']) && g.language.accepts (Text.Utf8.encode name)

end Glob

end ClassStub
