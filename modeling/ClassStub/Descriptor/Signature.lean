import ClassStub.Descriptor.JavaType

/-!
# Signatures of methods

The descriptor of a method is a parenthesised run of parameter types and a return type. The first `)` ends the
parameters; a text without one has no signature. The opening parenthesis may be missing.
-/

namespace ClassStub

/-- The parameter types and the return type of a method. -/
structure Signature where
  params : List JavaType
  result : JavaType
  deriving DecidableEq, Repr

namespace Signature

/-- Drops one opening parenthesis. -/
def stripOpen : List Char → List Char
  | '(' :: cs => cs
  | cs => cs

/-- The signature that a method descriptor spells. -/
def ofDescriptor? (descriptor : String) : Option Signature :=
  let cs := descriptor.toList
  if ')' ∈ cs then
    some {
      params := JavaType.readAll (stripOpen (cs.takeWhile (· ≠ ')')))
      result := (JavaType.read ((cs.dropWhile (· ≠ ')')).drop 1)).1 }
  else none

end Signature

end ClassStub
