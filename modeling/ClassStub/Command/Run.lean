import ClassStub.Command.Arguments
import ClassStub.Command.Description
import ClassStub.Command.Fatal
import ClassStub.Command.Report
import ClassStub.Session

/-!
# Running commands

A command works on a session. What it printed, logged and wrote stays when a fatal error ends it. `run` takes a
command line and gives the session after it with the way it ended.
-/

namespace ClassStub.Command

/-- A part of a run: it changes the session and may end with a fatal error. -/
abbrev Run := ExceptT Fatal (StateM Session)

namespace Run

/-- Ends the run where a result is an error. -/
def orFail {ε α : Type} (fatal : ε → Fatal) (result : Except ε α) : Run α :=
  match result with
  | .ok a => pure a
  | .error e => throw (fatal e)

/-- The files as they are. -/
def files : Run FileTree := do return (← get).files

/-- Changes the files. -/
def setFiles (files : FileTree) : Run Unit := modify fun s => { s with files }

/-- Tells events to the log. -/
def emit (events : List Log.Event) : Run Unit := modify fun s => s.emitAll events

/-- Creates a directory and those above it. -/
def makeDirectories (p : Path) : Run Unit := do
  let (result, files) := (← files).makeDirectories p
  setFiles files
  orFail (.createDirectory p) result

/-- Writes a file. -/
def writeFile (p : Path) (text : String) : Run Unit := do
  set (← orFail (.writeFile p) ((← get).writeFile p text))

/-- Prints lines. -/
def printLines (lines : List String) : Run Unit :=
  modify fun s => s.print (String.join (lines.map (· ++ "\n")))

end Run

/-- An event of the commands themselves. -/
def event (level : Log.Level) (message : String) (fields : List (String × String)) : Log.Event where
  level := level
  target := "jstub.cli"
  message := message
  fields := fields.map fun (key, value) => (key, .text value)

/-- What there is to tell about the settings in use. -/
def settingsEvents (loaded : Settings.Loaded) : List Log.Event :=
  loaded.source.toList.map (fun path => event .debug "loaded config" [("path", path.text)]) ++
  loaded.diagnostics.unknownKeys.map (fun key => event .warn "unknown config key" [("key", key)]) ++
  loaded.diagnostics.warnings.map (fun warning => event .warn warning.message [])

/-- The settings: from the file that was asked for, or from the one that is found. -/
def findSettings (config : Option Path) (s : Session) : Except Fatal Settings.Loaded :=
  match config with
  | some path => (Settings.ofFile s.files path).mapError .settings
  | none => do
    let directory ← s.files.basePath.mapError .currentDirectory
    (Settings.ofDirectory s.files s.environment directory).mapError .settings

/-- Loads the settings and sets up the log. -/
def prepare (config : Option Path) : Run Settings := do
  let loaded ← Run.orFail id (findSettings config (← get))
  modify fun s => s.startLog loaded.settings.logging
  Run.emit (settingsEvents loaded)
  return loaded.settings

/-- Writes a stub below a directory. -/
def writeStub (out : Path) (source : SourceFile) : Run Path := do
  let path := out.join source.relativePath
  match path.parent? with
  | some parent => Run.makeDirectories parent
  | none => pure ()
  Run.writeFile path source.text
  return path

/-- Writes a stub if that was asked for. -/
def writeStub? (out : Option Path) (source : SourceFile) : Run (Option Path) :=
  match out with
  | some out => some <$> writeStub out source
  | none => pure none

/-- What there is to tell about an entry that is no class. -/
def failedEvent (origin : String) (fault : ClassFile.Fault) : Log.Event :=
  event .warn "failed to parse classfile; skipping" [("path", origin), ("error", fault.message)]

/-- What there is to tell about a class that is left out. -/
def skippedEvent (name : String) : Log.Event :=
  event .debug "excluded by config" [("class", name)]

/-- Makes the stub of one entry. -/
def stubEntry (selection : Selection) (out : Option Path) (archive : Archive) (entry : Archive.Entry) :
    Run Outcome := do
  let origin := archive.origin (← Run.files) entry.name
  match Stub.ofBytes entry.bytes with
  | .error fault =>
    Run.emit [failedEvent origin fault]
    return .failed
  | .ok (declaration, text) =>
    Run.emit declaration.renderEvents
    if selection.allows declaration.name then
      let source := SourceFile.ofDeclaration declaration text
      let written ← writeStub? out source
      return .stubbed { origin, source, written }
    else
      Run.emit [skippedEvent declaration.name]
      return .skipped

/-- Makes the stubs of one input. -/
def stubInput (selection : Selection) (out : Option Path) (input : Path) : Run (List Outcome) := do
  let archive : Archive := ⟨input⟩
  let entries ← Run.orFail (.classes input) (archive.list (← Run.files))
  Run.emit [archive.listedEvent entries.length]
  entries.mapM (stubEntry selection out archive)

/-- Makes the stubs of inputs. -/
def stubInputs (selection : Selection) (out : Option Path) (inputs : List Path) : Run Report := do
  let outcomes ← inputs.mapM (stubInput selection out)
  return Report.ofOutcomes outcomes.flatten

/-- How a run ends. -/
inductive Ending where
  /-- Everything was done. -/
  | complete
  /-- Some classes could not be read. -/
  | incomplete
  /-- A fatal error. -/
  | fatal
  /-- The command line was not well formed. -/
  | misuse
  deriving DecidableEq, Repr

/-- The exit code of a run. -/
def Ending.code : Ending → Nat
  | complete => 0
  | incomplete => 1
  | fatal | misuse => 2

/-- How a run ends after a report. -/
def Report.ending (r : Report) : Ending :=
  if r.failed = 0 then .complete else .incomplete

/-- Prints a report. -/
def Report.print (r : Report) (out : Option Path) (json : Bool) : Run Unit := do
  if json && !r.isText (← get).environment.standIns then throw .json
  Run.printLines (r.lines out json)

/-- Makes stubs and reports on them. -/
def stub (settings : Settings) (inputs : List Path) (out : Option Path) (json : Bool) : Run Ending := do
  let selection ← Run.orFail .pattern settings.stubs.selection
  let report ← stubInputs selection out inputs
  report.print out json
  Run.emit [report.event]
  return report.ending

/-- Describes the class in a file. -/
def describe (file : Path) (json : Bool) : Run Ending := do
  let bytes ← Run.orFail (.readFile file) ((← Run.files).readAllowed file)
  let (declaration, _) ← Run.orFail (.parse file) (Stub.ofBytes bytes)
  Run.emit declaration.renderEvents
  Run.printLines (if json then [declaration.toJson.pretty] else declaration.describe)
  return .complete

/-- Runs a task. -/
def perform (invocation : Invocation) : Run Ending := do
  let settings ← prepare invocation.config
  match invocation.task with
  | .stub inputs out json => stub settings inputs out json
  | .describe file json => describe file json

/-- The text for the version. -/
def versionText : String := "jstub 0.1.0\n"

/-- The text for help. -/
def usageText : String :=
  "Usage: jstub [--config FILE] stub [--out DIR] [--json] PATH...\n" ++
  "       jstub [--config FILE] describe [--json] FILE\n"

/-- Runs a command line. -/
def run (args : List String) (s : Session) : Session × Ending :=
  match Invocation.parse args with
  | .error .version => (s.print versionText, .complete)
  | .error .help => (s.print usageText, .complete)
  | .error .misuse => (s.complain usageText, .misuse)
  | .ok invocation =>
    match (perform invocation).run.run s with
    | (.ok ending, s) => (s, ending)
    | (.error fatal, s) => (s.complain (fatal.message ++ "\n"), .fatal)

end ClassStub.Command
