import ClassStub.Bytes

/-!
# Languages of bytes

Regular expressions over bytes, matched by partial derivatives: reading a byte turns an expression into the list
of expressions that may match the rest. An expression has only as many of those as it has symbols, so matching
takes time in proportion to the input.
-/

namespace ClassStub.Glob

/-- Bytes in some ranges, or all bytes outside them. -/
structure ByteSet where
  negated : Bool
  ranges : List (UInt8 × UInt8)
  deriving DecidableEq, Repr

namespace ByteSet

/-- Every byte. -/
def all : ByteSet := ⟨true, []⟩

/-- One byte. -/
def single (b : UInt8) : ByteSet := ⟨false, [(b, b)]⟩

/-- The byte is a member. -/
def contains (s : ByteSet) (b : UInt8) : Bool :=
  (s.ranges.any fun (low, high) => low ≤ b && b ≤ high) != s.negated

end ByteSet

/-- A regular expression over bytes. -/
inductive Language where
  /-- Only the empty sequence. -/
  | empty
  /-- One byte of a set. -/
  | byte (set : ByteSet)
  | seq (first second : Language)
  | alt (left right : Language)
  | star (body : Language)
  deriving DecidableEq, Repr

namespace Language

/-- Any sequence of bytes. -/
def anything : Language := star (byte .all)

/-- Given bytes. -/
def literal (bs : Bytes) : Language :=
  bs.foldr (fun b rest => seq (byte (.single b)) rest) empty

/-- The empty sequence matches. -/
def nullable : Language → Bool
  | empty => true
  | byte _ => false
  | seq a b => a.nullable && b.nullable
  | alt a b => a.nullable || b.nullable
  | star _ => true

/-- Puts one expression before another, without an empty one in front. -/
def followedBy (a b : Language) : Language :=
  match a with
  | empty => b
  | a => seq a b

/-- The expressions that may match what follows a byte. -/
def after (x : UInt8) : Language → List Language
  | empty => []
  | byte set => if set.contains x then [empty] else []
  | seq a b => (a.after x).map (followedBy · b) ++ (if a.nullable then b.after x else [])
  | alt a b => a.after x ++ b.after x
  | star a => (a.after x).map (followedBy · (star a))

/-- The expressions that may match what follows a byte, for several expressions. -/
def step (states : List Language) (x : UInt8) : List Language :=
  (states.flatMap (after x)).eraseDups

/-- The whole sequence matches. -/
def accepts (a : Language) (bs : Bytes) : Bool :=
  (bs.foldl step [a]).any nullable

end Language

end ClassStub.Glob
