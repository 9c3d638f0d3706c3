import ClassStub.FileTree.Write
import ClassStub.Log.Buffer
import ClassStub.Log.Filter
import ClassStub.Log.Line

/-!
# Loggers

A logger keeps the events that its filter lets through, each as a line. Lines go to a buffer, and as it is set up
to the error output and to the end of a file.
-/

namespace ClassStub.Log

/-- Where events go. -/
structure Logger where
  filter : Filter
  /-- Lines are JSON. -/
  json : Bool
  /-- Lines go to the error output. -/
  stderr : Bool
  /-- The file to which lines are appended. -/
  file : Option Location
  buffer : LogBuffer
  deriving DecidableEq, Repr

/-- Drops carriage returns at the end. -/
def dropReturns (line : List Char) : List Char :=
  (line.reverse.dropWhile (· == '\r')).reverse

/-- The lines in a text, without empty ones. -/
def lines (text : String) : List String :=
  (((text.toList.splitOn '\n').map dropReturns).filter (· ≠ [])).map String.ofList

namespace Logger

/-- The line of an event. -/
def line (l : Logger) (e : Event) : String :=
  (if l.json then e.json else e.plain) ++ "\n"

/-- Puts the lines of a text into the buffer. -/
def buffered (l : Logger) (text : String) : Logger :=
  { l with buffer := (lines text).foldl LogBuffer.push l.buffer }

end Logger

end ClassStub.Log
