import ClassStub.Log.Logger
import ClassStub.Settings.Source

/-!
# Sessions

A session is a run of the program so far: its environment, the files as they are now, what was printed, and the
log once it is set up. The log is set up once; before that events are lost.

The standard output can be a file as well, as `/dev/stdout` is. What is written to such a file, as a stub or by the log,
is printed; these files are devices, and nothing is read from them.
-/

namespace ClassStub

/-- A run of the program so far. -/
structure Session where
  environment : Environment
  files : FileTree
  /-- The files that are the standard output. -/
  outlets : List Location := []
  stdout : String := ""
  stderr : String := ""
  logger : Option Log.Logger := none

namespace Session

/-- Where the standard output is found as a file, if it is found at all. -/
def standardOutlet : Location := ["proc", "self", "fd", "1"]

/-- The standard output as it is found among the devices: a file, and a link to it. -/
def outletNodes : List (Location × Node) :=
  [(["proc"], .directory), (["proc", "self"], .directory), (["proc", "self", "fd"], .directory),
    (standardOutlet, .file []), (["dev"], .directory), (["dev", "stdout"], .link (FileTree.pathOf standardOutlet))]

/-- A new session, in which the standard output is found as a file. -/
def start (environment : Environment) (files : FileTree) : Session where
  environment := environment
  files := outletNodes.foldl (fun tree (location, node) => tree.put location node) files
  outlets := [standardOutlet]

/-- Prints a text. -/
def print (s : Session) (text : String) : Session :=
  { s with stdout := s.stdout ++ text }

/-- Prints a text to the error output. -/
def complain (s : Session) (text : String) : Session :=
  { s with stderr := s.stderr ++ text }

/-- Prints a text that was written to a file, if the file is the standard output. -/
def printAt (s : Session) (location : Location) (text : String) : Session :=
  if location ∈ s.outlets then s.print text else s

/-- Writes a text to a file. -/
def writeFile (s : Session) (p : Path) (text : String) : Except FileError Session := do
  let (location, files) ← s.files.write p (Text.Utf8.encode text)
  return { s with files }.printAt location text

/-- Appends to the file of a log. -/
def appendLog (s : Session) (file : Option Location) (text : String) : Session :=
  match file with
  | some location => { s with files := s.files.append location (Text.Utf8.encode text) }.printAt location text
  | none => s

/-- Writes a line to all places where a logger wants it. -/
def record (s : Session) (logger : Log.Logger) (line : String) : Session :=
  let s := { s with logger := some (logger.buffered line) }
  let s := if logger.stderr then s.complain line else s
  s.appendLog logger.file line

/-- Tells an event to the log. -/
def emit (s : Session) (e : Log.Event) : Session :=
  match s.logger with
  | some logger => if logger.filter.keeps e then s.record logger (logger.line e) else s
  | none => s

/-- Tells events to the log. -/
def emitAll (s : Session) (es : List Log.Event) : Session := es.foldl emit s

/-- What there is to tell when the file of the log cannot be opened. -/
def closedFileEvent (path : Path) : Log.Event where
  level := .warn
  target := "jstub.config"
  message := "failed to open log file; file logging disabled"
  fields := [("path", .text path.text)]

/-- Sets up the log, unless that was done before. A file that cannot be opened is left out. -/
def startLog (s : Session) (settings : LogSettings) : Session :=
  let logger : Log.Logger := {
    filter := settings.filter s.environment.logDirectives
    json := settings.json
    stderr := settings.stderr
    file := none
    buffer := LogBuffer.ofCapacity settings.bufferLines }
  match s.logger, settings.file with
  | some _, _ => s
  | none, none => { s with logger := some logger }
  | none, some path =>
    match s.files.openAppend path with
    | .ok (location, files) => { s with files, logger := some { logger with file := some location } }
    | .error _ => { s with logger := some logger }.emit (closedFileEvent path)

/-- The last lines of the log, all when no number is given. -/
def lastLines (s : Session) (n : Option Nat) : List String :=
  match s.logger with
  | some logger => logger.buffer.last (n.getD logger.buffer.lines.length)
  | none => []

end Session

end ClassStub
