import ClassStub.Glob.Pattern
import ClassStub.Text.Quoted

/-!
# Selection of classes

Which classes get a stub: a selection can leave out nested classes, and leaves out those whose internal name
matches a pattern.
-/

namespace ClassStub

/-- A pattern that is not one, with its fault. -/
structure BadPattern where
  pattern : String
  fault : Glob.Fault
  deriving DecidableEq, Repr

/-- What is wrong with the pattern itself. -/
def BadPattern.cause (b : BadPattern) : String :=
  "error parsing glob '" ++ b.pattern ++ "': " ++ b.fault.message

/-- The complaint about a pattern in a selection. -/
def BadPattern.message (b : BadPattern) : String :=
  "invalid exclude pattern " ++ Text.quoted b.pattern ++ ": " ++ b.cause

/-- Decides which classes get a stub. -/
structure Selection where
  includeNested : Bool
  excluded : List Glob

namespace Selection

/-- Compiles a pattern, keeping its text for the complaint. -/
def compilePattern (pattern : String) : Except BadPattern Glob :=
  match Glob.compile pattern with
  | .ok glob => .ok glob
  | .error fault => .error ⟨pattern, fault⟩

/-- The selection by given patterns, or the first of them that is no pattern. -/
def ofPatterns (includeNested : Bool) (patterns : List String) : Except BadPattern Selection := do
  let excluded ← patterns.mapM compilePattern
  return { includeNested, excluded }

/-- The last segment of the name has a `$`. -/
def isNested (name : String) : Bool :=
  '$' ∈ (Text.rsplit '/' name.toList).head?.getD name.toList

/-- The patterns of the selection match a name, as a set of patterns does. -/
def excludes (s : Selection) (name : String) : Bool :=
  s.excluded.any fun glob => glob.accepts name

/-- The class of an internal name gets a stub. -/
def allows (s : Selection) (name : String) : Bool :=
  (s.includeNested || !isNested name) && !s.excludes name

end Selection

end ClassStub
