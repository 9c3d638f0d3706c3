/-!
# Recent lines

A buffer keeps the most recent lines of a log, at least one. When it is full, a new line pushes out the oldest.
-/

namespace ClassStub

/-- The most recent lines, the oldest first. -/
structure LogBuffer where
  capacity : Nat
  lines : List String
  deriving DecidableEq, Repr

namespace LogBuffer

/-- An empty buffer; it has room for one line at least. -/
def ofCapacity (capacity : Nat) : LogBuffer where
  capacity := max capacity 1
  lines := []

/-- Adds a line. -/
def push (b : LogBuffer) (line : String) : LogBuffer :=
  if b.lines.length = b.capacity then { b with lines := b.lines.tail ++ [line] }
  else { b with lines := b.lines ++ [line] }

/-- The last `n` lines, the oldest first. -/
def last (b : LogBuffer) (n : Nat) : List String :=
  (b.lines.reverse.take n).reverse

end LogBuffer

end ClassStub
