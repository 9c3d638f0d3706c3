import ClassStub.Settings.Decode
import ClassStub.Settings.Redact
import ClassStub.Toml.Document

/-!
# Loading settings

Settings come from the text of a configuration file. A text that is no document, or whose values do not fit, is
an error; keys that are no settings and a level that is no filter are only reported.
-/

namespace ClassStub.Settings

/-- Why a text gives no settings. -/
inductive TextError where
  /-- The text is no document. -/
  | malformed
  /-- A value does not fit. -/
  | misfit (cause : Misfit)

/-- The wording of an error, with all values taken out of it. -/
def TextError.message (e : TextError) : String :=
  let cause := match e with
    | malformed => "malformed document"
    | misfit cause => cause.message
  "failed to parse toml config: " ++ redact cause

/-- Something that is wrong with settings but does not matter. -/
inductive Warning where
  /-- The level is no filter. -/
  | badLevel (level : String)
  deriving DecidableEq, Repr

/-- The wording of a warning. -/
def Warning.message : Warning → String
  | badLevel level => "logging.level " ++ Text.quoted level ++ " is not a valid filter; using `info`"

/-- What there is to report about settings that could be loaded. -/
structure Diagnostics where
  /-- Keys that are no settings, in order and each once. -/
  unknownKeys : List String := []
  warnings : List Warning := []
  deriving DecidableEq, Repr

/-- There is nothing to report. -/
def Diagnostics.isEmpty (d : Diagnostics) : Bool :=
  d.unknownKeys.isEmpty && d.warnings.isEmpty

/-- A segment that is an index. -/
def isIndex (segment : List Char) : Bool :=
  segment ≠ [] && segment.all Toml.isDigit

/-- Appends a segment to the path of a key: an index in brackets, a name after a dot. -/
def appendSegment (path segment : List Char) : List Char :=
  if isIndex segment then path ++ '[' :: segment ++ [']']
  else if path = [] then segment
  else path ++ '.' :: segment

/-- The path of a key as it is reported: without dots in front, and with indices in brackets. -/
def reportedKey (path : String) : String :=
  match (path.toList.dropWhile (· == '.')).splitOn '.' with
  | [] => ""
  | first :: others => String.ofList (others.foldl appendSegment first)

/-- Puts texts in order and keeps each once. -/
def sortedOnce (texts : List String) : List String :=
  (texts.mergeSort fun a b => decide (a ≤ b)).eraseReps

/-- The warnings about settings. -/
def warnings (s : Settings) : List Warning :=
  if s.logging.levelFilter?.isSome then [] else [.badLevel s.logging.level]

/-- The settings in a text, with what there is to report. -/
def ofText (text : String) : Except TextError (Settings × Diagnostics) :=
  match Toml.parse? text with
  | none => .error .malformed
  | some entries =>
    match ofEntries entries with
    | .error cause => .error (.misfit cause)
    | .ok (settings, unknown) =>
      .ok (settings, { unknownKeys := sortedOnce (unknown.map reportedKey), warnings := warnings settings })

end ClassStub.Settings
