import ClassStub.Json
import ClassStub.Log.Event

/-!
# Lines of a log

An event is written as one line of plain text, or as one JSON object. Time stamps belong to the clock of the
place where the line is kept and are not part of it.
-/

namespace ClassStub.Log

/-- Fills a text with blanks on the left up to a width. -/
def padLeft (width : Nat) (s : String) : String :=
  String.ofList (List.replicate (width - s.length) ' ') ++ s

/-- The JSON form of a value. -/
def Value.json : Value → Json
  | text s => .string s
  | count n => .number n

namespace Event

/-- An event as plain text: level, target, message, and the named values. -/
def plain (e : Event) : String :=
  padLeft 5 e.level.label ++ " " ++ e.target ++ ": " ++ e.message ++
    String.join (e.fields.map fun (key, value) => " " ++ key ++ "=" ++ value.display)

/-- An event as a JSON object. -/
def json (e : Event) : String :=
  Json.compact (.object [
    ("level", .string e.level.label),
    ("fields", .object (("message", .string e.message) :: e.fields.map fun (key, value) => (key, value.json))),
    ("target", .string e.target)])

end Event

end ClassStub.Log
