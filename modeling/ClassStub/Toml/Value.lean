import ClassStub.Decimal.Shortest

/-!
# Configuration values

A document is a table of keys and values in the order in which they were written. A table remembers how it came
about, because that decides what may be added to it later.
-/

namespace ClassStub.Toml

/-- A floating-point number. -/
inductive Number where
  | finite (negative : Bool) (value : Decimal.Binary64)
  | infinite (negative : Bool)
  | undefined
  deriving DecidableEq, Repr

/-- A number with at least one digit behind the point. -/
def Number.display : Number → String
  | finite negative value => (if negative then "-" else "") ++ (Decimal.Shortest.ofBinary value).positional
  | infinite negative => if negative then "-inf" else "inf"
  | undefined => "NaN"

/-- How a table came about. -/
inductive Origin where
  /-- By a header of its own. -/
  | header
  /-- By a longer header. -/
  | path
  /-- By a key with dots. -/
  | dotted
  /-- In braces, complete in itself. -/
  | inline
  deriving DecidableEq, Repr

/-- A value of a document. -/
inductive Value where
  | string (s : String)
  | integer (n : Int)
  | float (x : Number)
  | boolean (b : Bool)
  | datetime
  | array (items : List Value)
  | table (origin : Origin) (entries : List (String × Value))
  /-- Tables under headers in double brackets, the latest last. -/
  | tables (items : List (List (String × Value)))

/-- The keys and values of a table, in order. -/
abbrev Entries := List (String × Value)

namespace Entries

/-- Gives a key that is present another value, in its place. -/
def set (es : Entries) (key : String) (value : Value) : Entries :=
  es.map fun e => if e.1 == key then (key, value) else e

/-- Drops a key. -/
def remove (es : Entries) (key : String) : Entries :=
  es.filter fun e => e.1 != key

/--
Changes the table at a path. Tables that are missing on the way are created; `byDots` says that the path comes
from a key with dots, which may not reach into a table with a header of its own. Of tables in double brackets the
latest is meant.
-/
def update (byDots : Bool) (change : Origin → Entries → Option Entries) :
    List String → Origin → Entries → Option Entries
  | [], origin, es => change origin es
  | key :: path, _, es =>
    match es.lookup key with
    | none => do
      let origin := if byDots then Origin.dotted else Origin.path
      let inner ← update byDots change path origin []
      return es ++ [(key, .table origin inner)]
    | some (.table origin inner) =>
      if origin = .inline ∨ (byDots ∧ origin = .header) then none
      else do
        let inner ← update byDots change path origin inner
        return es.set key (.table origin inner)
    | some (.tables items) => do
      let inner ← update byDots change path .header (items.getLastD [])
      return es.set key (.tables (items.dropLast ++ [inner]))
    | some _ => none

/-- Adds a key to a table reached by a path of dots; a key may be given only once. -/
def assign (path : List String) (key : String) (value : Value) (es : Entries) : Option Entries :=
  update true (fun origin inner =>
    if (origin = .dotted) = (path = []) ∨ (inner.lookup key).isSome then none
    else some (inner ++ [(key, value)])) path .header es

/-- Opens the table of a header; only a table that longer headers have made may be there already. -/
def openTable (path : List String) (key : String) (es : Entries) : Option Entries :=
  update false (fun _ inner =>
    match inner.lookup key with
    | none => some (inner ++ [(key, .table .header [])])
    | some (.table .path entries) => some (inner.remove key ++ [(key, .table .header entries)])
    | some _ => none) path .header es

/-- Adds a table under a header in double brackets. -/
def pushTable (path : List String) (key : String) (es : Entries) : Option Entries :=
  update false (fun _ inner =>
    match inner.lookup key with
    | none => some (inner ++ [(key, .tables [[]])])
    | some (.tables items) => some (inner.set key (.tables (items ++ [[]])))
    | some _ => none) path .header es

end Entries

end ClassStub.Toml
