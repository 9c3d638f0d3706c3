import ClassStub.FileTree.Resolve
import ClassStub.Settings.Load

/-!
# Where settings come from

The environment can name the configuration file; otherwise it is the first of two files in the directory that
exists. Without any, all settings have their defaults.
-/

namespace ClassStub

/-- What the environment of the program sets. -/
structure Environment where
  /-- The path of the configuration file. -/
  configPath : Option String := none
  /-- Directives of a log filter. -/
  logDirectives : Option String := none
  /-- The texts that stand for names of files that are no text. -/
  standIns : List String := []
  deriving DecidableEq, Repr

namespace Settings

/-- Why settings cannot be loaded. -/
inductive LoadError where
  | unreadable (path : Path) (cause : FileError)
  | text (cause : TextError)

/-- The wording of an error. -/
def LoadError.message : LoadError → String
  | unreadable path cause => "failed to read config file " ++ path.text ++ ": " ++ cause.message
  | text cause => cause.message

/-- Settings that were loaded, with their file and what there is to report. -/
structure Loaded where
  settings : Settings := {}
  source : Option Path := none
  diagnostics : Diagnostics := {}
  deriving DecidableEq, Repr

/-- Loads the settings in a file. -/
def ofFile (tree : FileTree) (path : Path) : Except LoadError Loaded := do
  let text ← (tree.readText path).mapError (.unreadable path)
  let (settings, diagnostics) ← (ofText text).mapError .text
  return { settings, source := some path, diagnostics }

/-- The names of a configuration file in a directory, by preference. -/
def fileNames : List Path := [⟨"jstub.toml"⟩, ⟨".jstub.toml"⟩]

/-- The path without links if it leads somewhere, or else as it is. -/
def resolved (tree : FileTree) (path : Path) : Path :=
  match tree.canonical path with
  | .ok path => path
  | .error _ => path

/-- The configuration file for a directory. -/
def discover? (tree : FileTree) (environment : Environment) (directory : Path) : Option Path :=
  match environment.configPath with
  | some path => some (resolved tree (directory.join ⟨path⟩))
  | none => ((fileNames.map directory.join).find? tree.isFile).map (resolved tree)

/-- Loads the settings for a directory. -/
def ofDirectory (tree : FileTree) (environment : Environment) (directory : Path) : Except LoadError Loaded :=
  match discover? tree environment directory with
  | some path => ofFile tree path
  | none => .ok {}

end Settings

end ClassStub
