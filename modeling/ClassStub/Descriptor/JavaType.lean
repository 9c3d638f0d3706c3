import ClassStub.Declaration

/-!
# Types in descriptors

A descriptor spells a type in a few characters: one letter for a primitive type or void, `L` path `;` for a
class, and a `[` in front for each array dimension. `JavaType.read` takes one type off the front of any text. It
never fails: an unknown letter, a missing type and an array of more than 255 dimensions are read as void, and a
class without `;` takes the rest of the text. `JavaType.spell` writes the descriptor of a type.
-/

namespace ClassStub

/-- The types with a letter of their own. -/
inductive Primitive where
  | boolean
  | byte
  | char
  | short
  | int
  | long
  | float
  | double
  deriving DecidableEq, Repr

namespace Primitive

/-- The letter of a primitive type in a descriptor. -/
def letter : Primitive → Char
  | boolean => 'Z'
  | byte => 'B'
  | char => 'C'
  | short => 'S'
  | int => 'I'
  | long => 'J'
  | float => 'F'
  | double => 'D'

/-- The primitive type with a given letter. -/
def ofLetter? : Char → Option Primitive
  | 'Z' => some boolean
  | 'B' => some byte
  | 'C' => some char
  | 'S' => some short
  | 'I' => some int
  | 'J' => some long
  | 'F' => some float
  | 'D' => some double
  | _ => none

/-- The Java word for a primitive type. -/
def keyword : Primitive → String
  | boolean => "boolean"
  | byte => "byte"
  | char => "char"
  | short => "short"
  | int => "int"
  | long => "long"
  | float => "float"
  | double => "double"

end Primitive

/-- A type of the Java language, or void. -/
inductive JavaType where
  | void
  | primitive (p : Primitive)
  /-- A class, by its dotted name. -/
  | object (name : String)
  /-- An array with a number of dimensions. -/
  | array (dims : Nat) (element : JavaType)
  deriving DecidableEq, Repr

namespace JavaType

/-- The type is void. -/
def isVoid : JavaType → Bool
  | void => true
  | _ => false

/-- A type as Java source writes it. -/
def display : JavaType → String
  | void => "void"
  | primitive p => p.keyword
  | object name => name
  | array dims element => element.display ++ String.join (List.replicate dims "[]")

/-- The most dimensions that an array can have. -/
def maxDims : Nat := 255

/-- Takes one type that is not an array off the front of a text. -/
def readScalar : List Char → JavaType × List Char
  | [] => (void, [])
  | 'L' :: cs =>
    (object (dotted (String.ofList (cs.takeWhile (· ≠ ';')))), (cs.dropWhile (· ≠ ';')).drop 1)
  | c :: cs =>
    match Primitive.ofLetter? c with
    | some p => (primitive p, cs)
    | none => (void, cs)

/-- Takes one type off the front of a text. -/
def read (cs : List Char) : JavaType × List Char :=
  let dims := (cs.takeWhile (· = '[')).length
  let (element, rest) := readScalar (cs.dropWhile (· = '['))
  if dims = 0 then (element, rest)
  else if dims ≤ maxDims then (array dims element, rest)
  else (void, rest)

/-- Reading a scalar type takes at least one character. -/
theorem readScalar_length_lt {cs : List Char} (h : cs ≠ []) :
    (readScalar cs).2.length < cs.length := by
  unfold readScalar
  split
  · contradiction
  · rename_i cs'
    have := (List.dropWhile_sublist (· ≠ ';') (l := cs')).length_le
    simp only [List.length_drop, List.length_cons]
    omega
  · split <;> simp

/-- What is left is what the type behind the dimensions leaves, whether or not there are too many of them. -/
theorem snd_read (cs : List Char) : (read cs).2 = (readScalar (cs.dropWhile (· = '['))).2 := by
  simp only [read]
  split
  · rfl
  · split <;> rfl

/-- Reading a type takes at least one character. -/
theorem read_length_lt {cs : List Char} (h : cs ≠ []) : (read cs).2.length < cs.length := by
  have hlen : (cs.takeWhile (· = '[')).length + (cs.dropWhile (· = '[')).length = cs.length := by
    rw [← List.length_append, List.takeWhile_append_dropWhile]
  rw [snd_read]
  by_cases hd : cs.dropWhile (· = '[') = []
  · rw [hd] at hlen ⊢
    cases cs with
    | nil => contradiction
    | cons c cs => simp [readScalar]
  · have := readScalar_length_lt hd
    omega

/-- Takes all types off a text, from left to right. -/
def readAll (cs : List Char) : List JavaType :=
  if _h : cs = [] then []
  else
    let next := read cs
    next.1 :: readAll next.2
termination_by cs.length
decreasing_by exact read_length_lt _h

/-- The descriptor of a type. -/
def spell : JavaType → List Char
  | void => ['V']
  | primitive p => [p.letter]
  | object name => 'L' :: (Text.replaceChar '.' '/' name.toList ++ [';'])
  | array dims element => List.replicate dims '[' ++ element.spell

end JavaType

end ClassStub
