import ClassStub.Zip.Bits

/-!
# Huffman codes

A code is given by the length of the codeword of each symbol, zero for a symbol that has none. Codewords are the
paths of a binary tree: shorter ones lie to the left of longer ones, and among equally long ones the order is that
of the symbols. `Code.full?` accepts lengths that fill the tree exactly; `Code.ofLengths?` accepts also those with
no codeword longer than one bit.
-/

namespace ClassStub.Zip

/-- The tree of codewords: a bit leads to the left when it is zero. -/
inductive Code where
  | vacant
  | symbol (value : Nat)
  | branch (zero one : Code)
  deriving DecidableEq, Repr

namespace Code

/-- A symbol and the length of its codeword. -/
structure Item where
  length : Nat
  symbol : Nat
  deriving DecidableEq, Repr

/-- The longest codeword. -/
def maxLength : Nat := 15

/-- The symbols that have a codeword, shorter codewords first. -/
def arrange (lengths : List Nat) : List Item :=
  (((lengths.zipIdx).map fun (length, value) => Item.mk length value).filter fun item => item.length ≠ 0).mergeSort
    fun a b => a.length ≤ b.length

/--
The tree at a depth, with at most `levels` levels, and the symbols for which it has no place. The symbols are
arranged, and are placed from the left to the right.
-/
def grow (depth : Nat) : (levels : Nat) → List Item → Code × List Item
  | _, [] => (vacant, [])
  | 0, item :: items => if item.length = depth then (symbol item.symbol, items) else (vacant, item :: items)
  | levels + 1, item :: items =>
    if item.length = depth then (symbol item.symbol, items)
    else
      let (zero, items) := grow (depth + 1) levels (item :: items)
      let (one, items) := grow (depth + 1) levels items
      (branch zero one, items)

/-- Every path ends at a symbol. -/
def isFull : Code → Bool
  | vacant => false
  | symbol _ => true
  | branch zero one => zero.isFull && one.isFull

/-- The tree with codewords of given lengths, none if it has no place for all of them. -/
def ofItems? (items : List Item) : Option Code :=
  let (zero, others) := grow 1 (maxLength - 1) items
  let (one, others) := grow 1 (maxLength - 1) others
  if others = [] then some (branch zero one) else none

/-- The code with given lengths, which fill the tree. -/
def full? (lengths : List Nat) : Option Code :=
  (ofItems? (arrange lengths)).filter isFull

/-- The code with given lengths, which fill the tree or make no use of its depth. -/
def ofLengths? (lengths : List Nat) : Option Code :=
  (ofItems? (arrange lengths)).filter fun code => code.isFull || lengths.all (· ≤ 1)

/-- Takes a codeword and gives its symbol. -/
def decode : Code → BitReader Nat
  | vacant => throw .corrupt
  | symbol value => return value
  | branch zero one => do if ← BitReader.bit then one.decode else zero.decode

end Code

end ClassStub.Zip
