import ClassStub.Settings.Basic
import ClassStub.Text.Quoted
import ClassStub.Toml.Value

/-!
# Settings from a document

A document is matched with the settings key by key, in the order of the document. A value of another type than
the setting wants is an error; keys that are no settings are collected. A section may also be given as an array
of its values in order.
-/

namespace ClassStub.Settings

/-- What a setting wants. -/
inductive Expected where
  | boolean
  | string
  | size
  | sequence
  | path
  | logSection
  | stubSection
  deriving DecidableEq, Repr

/-- How a message calls what a setting wants. -/
def Expected.label : Expected → String
  | boolean => "a boolean"
  | string => "a string"
  | size => "usize"
  | sequence => "a sequence"
  | path => "path string"
  | logSection => "struct LoggingConfig"
  | stubSection => "struct StubsConfig"

/-- How a message shows a value. -/
def describe : Toml.Value → String
  | .string s => "string " ++ Text.quoted s
  | .integer n => "integer `" ++ Text.signedDecimal n ++ "`"
  | .float x => "floating point `" ++ x.display ++ "`"
  | .boolean b => "boolean `" ++ (if b then "true" else "false") ++ "`"
  | .array _ | .tables _ => "sequence"
  | .table _ _ | .datetime => "map"

/-- A value that does not fit its setting. -/
inductive Misfit where
  /-- It has another type. -/
  | type (found : Toml.Value) (expected : Expected)
  /-- It is of the right type, but out of range. -/
  | range (found : Toml.Value) (expected : Expected)

/-- The wording of a misfit, with the value in it. -/
def Misfit.message : Misfit → String
  | type found expected => "invalid type: " ++ describe found ++ ", expected " ++ expected.label
  | range found expected => "invalid value: " ++ describe found ++ ", expected " ++ expected.label

/-- A truth value. -/
def readBool : Toml.Value → Except Misfit Bool
  | .boolean b => .ok b
  | v => .error (.type v .boolean)

/-- A text. -/
def readText : Toml.Value → Except Misfit String
  | .string s => .ok s
  | v => .error (.type v .string)

/-- A path. -/
def readPath : Toml.Value → Except Misfit Path
  | .string s => .ok ⟨s⟩
  | v => .error (.type v .path)

/-- A number that is not negative. -/
def readSize : Toml.Value → Except Misfit Nat
  | .integer n => if n < 0 then .error (.range (.integer n) .size) else .ok n.toNat
  | v => .error (.type v .size)

/-- A list of texts. -/
def readTexts : Toml.Value → Except Misfit (List String)
  | .array items => items.mapM readText
  | .tables items => (items.map fun es => Toml.Value.table .header es).mapM readText
  | v => .error (.type v .sequence)

/-- The values of a section, with or without their names. -/
inductive Content where
  | named (entries : Toml.Entries)
  | ordered (values : List Toml.Value)

/-- The key under which a date or time presents itself where a section is wanted. -/
def datetimeKey : String := "$__toml_private_datetime"

/-- The values of a section. -/
def content (expected : Expected) : Toml.Value → Except Misfit Content
  | .table _ entries => .ok (.named entries)
  | .array items => .ok (.ordered items)
  | .tables items => .ok (.ordered (items.map fun es => .table .header es))
  | .datetime => .ok (.named [(datetimeKey, .datetime)])
  | v => .error (.type v expected)

/-- A setting of a section: its name, and how a value changes the section. -/
structure Field (σ : Type) where
  name : String
  apply : Toml.Value → σ → Except Misfit σ

/-- Reads the values of a section into its settings, and lists the names that are none of them. -/
def readSection {σ : Type} (fields : List (Field σ)) (start : σ) : Content → Except Misfit (σ × List String)
  | .named entries =>
    entries.foldlM (fun (settings, unknown) (name, value) =>
      match fields.find? fun f => f.name == name with
      | some field => do return (← field.apply value settings, unknown)
      | none => return (settings, unknown ++ [name])) (start, [])
  | .ordered values => do
    let settings ← (fields.zip values).foldlM (fun settings (field, value) => field.apply value settings) start
    return (settings, [])

/-- The settings of logging. -/
def logFields : List (Field LogSettings) := [
  ⟨"level", fun v s => do return { s with level := ← readText v }⟩,
  ⟨"json", fun v s => do return { s with json := ← readBool v }⟩,
  ⟨"stderr", fun v s => do return { s with stderr := ← readBool v }⟩,
  ⟨"file", fun v s => do return { s with file := some (← readPath v) }⟩,
  ⟨"buffer_lines", fun v s => do return { s with bufferLines := ← readSize v }⟩]

/-- The settings of stubs. -/
def stubFields : List (Field StubSettings) := [
  ⟨"include_nested", fun v s => do return { s with includeNested := ← readBool v }⟩,
  ⟨"exclude", fun v s => do return { s with exclude := ← readTexts v }⟩]

/-- The section of logging. -/
def logSection : String := "logging"

/-- The section of stubs. -/
def stubSection : String := "stubs"

/-- A name inside a section. -/
def pathIn (parent : String) (name : String) : String := parent ++ "." ++ name

/-- Reads one entry of a document. -/
def readEntry (state : Settings × List String) (entry : String × Toml.Value) :
    Except Misfit (Settings × List String) := do
  let (settings, unknown) := state
  let (name, value) := entry
  if name = logSection then
    let (logging, names) ← readSection logFields settings.logging (← content .logSection value)
    return ({ settings with logging }, unknown ++ names.map (pathIn logSection))
  else if name = stubSection then
    let (stubs, names) ← readSection stubFields settings.stubs (← content .stubSection value)
    return ({ settings with stubs }, unknown ++ names.map (pathIn stubSection))
  else return (settings, unknown ++ [name])

/-- The settings of a document, and the paths of its keys that are no settings. -/
def ofEntries (entries : Toml.Entries) : Except Misfit (Settings × List String) :=
  entries.foldlM readEntry ({}, [])

end ClassStub.Settings
