import ClassStub.Json
import ClassStub.Log.Event
import ClassStub.SourceFile

/-!
# Reports

What became of each class in the inputs: it could not be read, it was left out, or it has a stub. A report counts
the first two and lists the stubs in order.
-/

namespace ClassStub.Command

/-- A stub that was made. -/
structure StubRecord where
  /-- Where the class comes from. -/
  origin : String
  source : SourceFile
  /-- The file that holds the stub, if one was asked for. -/
  written : Option Path
  deriving DecidableEq, Repr

/-- What became of one class. -/
inductive Outcome where
  | failed
  | skipped
  | stubbed (record : StubRecord)
  deriving DecidableEq, Repr

/-- The stub of an outcome. -/
def Outcome.record? : Outcome → Option StubRecord
  | stubbed record => some record
  | failed | skipped => none

/-- What became of all classes. -/
structure Report where
  stubs : List StubRecord
  failed : Nat
  skipped : Nat
  deriving DecidableEq, Repr

/-- The path of the file that holds the stub is a text. -/
def StubRecord.hasTextPath (standIns : List String) (r : StubRecord) : Bool :=
  r.written.all (Path.isText standIns)

/-- A stub as an object. -/
def StubRecord.toJson (r : StubRecord) : Json :=
  .object ([
    ("path", .string r.origin),
    ("package", .string r.source.package),
    ("class", .string r.source.className),
    ("text", .string r.source.text)] ++ r.written.toList.map fun path => ("written", .string path.text))

namespace Report

/-- The report of outcomes. -/
def ofOutcomes (outcomes : List Outcome) : Report where
  stubs := outcomes.filterMap Outcome.record?
  failed := outcomes.count .failed
  skipped := outcomes.count .skipped

/-- All stubs can be shown as JSON, which has texts only. -/
def isText (standIns : List String) (r : Report) : Bool :=
  r.stubs.all (StubRecord.hasTextPath standIns)

/-- The stubs as JSON. -/
def json (r : Report) : String :=
  Json.pretty (.array (r.stubs.map StubRecord.toJson))

/-- The files that hold the stubs. -/
def writtenPaths (r : Report) : List String :=
  (r.stubs.filterMap StubRecord.written).map Path.text

/-- The stubs themselves. -/
def texts (r : Report) : List String := r.stubs.map fun record => record.source.text

/-- The lines that a report is printed as: JSON, or the names of the files, or the stubs. -/
def lines (r : Report) (out : Option Path) (json : Bool) : List String :=
  if json then [r.json] else if out.isSome then r.writtenPaths else r.texts

/-- What there is to tell at the end. -/
def event (r : Report) : Log.Event where
  level := .info
  target := "jstub.cli"
  message := "stub generation finished"
  fields := [("generated", .count r.stubs.length), ("failed", .count r.failed), ("skipped", .count r.skipped)]

end Report

end ClassStub.Command
