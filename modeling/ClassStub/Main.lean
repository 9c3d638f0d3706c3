import ClassStub.Command.Run

/-!
# The program

Copies the files that a command line mentions into a file tree, runs the command line on it, and carries out what
the run printed and changed.
-/

namespace ClassStub.Main

/-- A file tree that is being filled. -/
abbrev Snapshot := StateT FileTree IO

/-- Adds a node. -/
def add (location : Location) (node : Node) : Snapshot Unit :=
  modify fun tree => tree.put location node

/-- The absolute path of a location as text. -/
def textOf (location : Location) : String := (FileTree.pathOf location).text

/-- The names in a text. -/
def namesOf (text : String) : List String := FileTree.names ⟨text⟩

/-- Adds everything below a directory, down to a depth. -/
def loadBelow : (depth : Nat) → Location → Snapshot Unit
  | 0, _ => pure ()
  | depth + 1, location => do
    let root ← IO.currentDir
    for item in ← (root / textOf location).readDir do
      let place := location ++ [item.fileName]
      match (← item.path.symlinkMetadata).type with
      | .dir =>
        add place .directory
        loadBelow depth place
      | .file => add place (.file (← IO.FS.readBinFile item.path).data.toList)
      | .symlink =>
        try add place (.link ⟨(← IO.FS.realPath item.path).toString⟩)
        catch _ => add place (.link ⟨item.fileName⟩)
      | .other => pure ()

/-- Adds what a path leads to, with all that lies on the way. -/
def loadPath : (steps : Nat) → Location → List String → Snapshot Unit
  | 0, _, _ => pure ()
  | steps + 1, here, [] => do
    if here ≠ [] then add here .directory
    loadBelow steps here
  | steps + 1, here, name :: rest => do
    let place := here ++ [name]
    let root ← IO.currentDir
    let path := root / textOf place
    if name = "" ∨ name = "." then loadPath steps here rest
    else if name = ".." then loadPath steps here.dropLast rest
    else
      match ← path.symlinkMetadata.toBaseIO with
      | .error _ => pure ()
      | .ok info =>
        match info.type with
        | .dir =>
          add place .directory
          loadPath steps place rest
        | .file => add place (.file (← IO.FS.readBinFile path).data.toList)
        | .symlink =>
          match ← (IO.FS.realPath path).toBaseIO with
          | .ok target =>
            add place (.link ⟨target.toString⟩)
            loadPath steps [] (namesOf target.toString ++ rest)
          | .error _ => add place (.link ⟨name⟩)
        | .other => pure ()

/-- The most names and links that are followed. -/
def maxSteps : Nat := 10000

/-- Adds what a path leads to, seen from the base. -/
def load (path : Path) : Snapshot Unit := do
  let tree ← get
  loadPath maxSteps (if path.isAbsolute then [] else tree.base) (FileTree.names path)

/-- The paths that a task mentions. -/
def taskPaths : Command.Task → List Path
  | .stub inputs out _ => inputs ++ out.toList
  | .describe file _ => [file]

/-- Adds all files that an invocation can touch. -/
def loadInvocation (environment : Environment) (invocation : Command.Invocation) : Snapshot Unit := do
  let configs := invocation.config.toList ++ (environment.configPath.map Path.mk).toList ++ Settings.fileNames
  (taskPaths invocation.task ++ configs).forM load
  let found := Command.findSettings invocation.config { environment, files := ← get }
  match found with
  | .ok loaded => loaded.settings.logging.file.toList.forM load
  | .error _ => pure ()

/-- Carries out the changes of a run; what was written to the standard output as a file is among what was printed. -/
def save (before after : Session) : IO Unit := do
  let root ← IO.currentDir
  for (location, node) in after.files.nodes do
    if node = .directory ∧ before.files.get? location ≠ some .directory then
      IO.FS.createDirAll (root / textOf location)
  for (names, content) in FileTree.changes { before.files with base := [] } { after.files with base := [] } do
    unless after.outlets.contains names do
      IO.FS.writeBinFile (root / textOf names) ⟨content.toArray⟩

/-- The session in which a command line runs. -/
def openSession (args : List String) : IO Session := do
  let environment : Environment := {
    configPath := ← IO.getEnv "JSTUB_CONFIG_PATH"
    logDirectives := ← IO.getEnv "RUST_LOG" }
  let base := (namesOf (← IO.currentDir).toString).filter (· ≠ "")
  let start := FileTree.empty base
  match Command.Invocation.parse args with
  | .ok invocation =>
    let (_, files) ← (loadInvocation environment invocation).run start
    return .start environment files
  | .error _ => return .start environment start

end ClassStub.Main

/-- Runs a command line and gives its exit code. -/
def main (args : List String) : IO UInt32 := do
  let session ← ClassStub.Main.openSession args
  let (after, ending) := ClassStub.Command.run args session
  ClassStub.Main.save session after
  IO.print after.stdout
  IO.eprint after.stderr
  return UInt32.ofNat ending.code
