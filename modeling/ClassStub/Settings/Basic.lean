import ClassStub.Log.Filter
import ClassStub.Path
import ClassStub.Selection

/-!
# Settings

What a user can set: how the program logs, and which classes get a stub. Every setting has a default.
-/

namespace ClassStub

/-- How the program logs. -/
structure LogSettings where
  /-- A level, or the directives of a filter. -/
  level : String := "info"
  /-- Lines are JSON. -/
  json : Bool := false
  /-- Lines go to the error output too. -/
  stderr : Bool := true
  /-- Lines are appended to this file too. -/
  file : Option Path := none
  /-- How many lines are kept in memory. -/
  bufferLines : Nat := 1000
  deriving DecidableEq, Repr

/-- Which classes get a stub. -/
structure StubSettings where
  includeNested : Bool := true
  /-- Patterns over internal names; classes that match get none. -/
  exclude : List String := []
  deriving DecidableEq, Repr

/-- All settings. -/
structure Settings where
  logging : LogSettings := {}
  stubs : StubSettings := {}
  deriving DecidableEq, Repr

/-- The selection that the settings ask for. -/
def StubSettings.selection (s : StubSettings) : Except BadPattern Selection :=
  Selection.ofPatterns s.includeNested s.exclude

namespace LogSettings

/-- The level in its usual form: trimmed, a simple level in lower case, `info` when there is none. -/
def normalLevel (level : String) : String :=
  let trimmed := String.ofList (Text.trim level.toList)
  match String.ofList (trimmed.toList.map Char.toLower) with
  | "" => "info"
  | "trace" => "trace"
  | "debug" => "debug"
  | "info" => "info"
  | "warn" | "warning" => "warn"
  | "error" => "error"
  | _ => trimmed

/-- The filter of the level, or none when it is no filter. -/
def levelFilter? (s : LogSettings) : Option Log.Filter :=
  Log.Filter.parse? (normalLevel s.level)

/-- The filter of the level; events up to `info` pass where the level is no filter. -/
def levelFilter (s : LogSettings) : Log.Filter :=
  s.levelFilter?.getD (Log.Filter.upTo .info)

/-- Directives from the environment count only when they are not blank. -/
def override? (directives : Option String) : Option String :=
  (directives.map fun d => String.ofList (Text.trim d.toList)).filter (· ≠ "")

/--
The filter in effect. Directives from the environment come after those of the level, so that they win; if the two
together are no filter, those of the environment stand alone; if they are none either, they do not count.
-/
def filter (s : LogSettings) (environment : Option String) : Log.Filter :=
  match override? environment with
  | none => s.levelFilter
  | some directives =>
    match Log.Filter.parse? (normalLevel s.level ++ "," ++ directives) with
    | some both => both
    | none => (Log.Filter.parse? directives).getD s.levelFilter

end LogSettings

end ClassStub
