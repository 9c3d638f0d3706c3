import ClassStub.Text.Digits

/-!
# Events

What the program has to tell while it works. An event has a level, the target that it concerns, a message, and
named values.
-/

namespace ClassStub.Log

/-- How much an event matters, the most severe first. -/
inductive Level where
  | error
  | warn
  | info
  | debug
  | trace
  deriving DecidableEq, Repr

namespace Level

/-- All levels, the most severe first. -/
def all : List Level := [error, warn, info, debug, trace]

/-- How many levels a threshold at this level lets through. -/
def rank : Level → Nat
  | error => 1
  | warn => 2
  | info => 3
  | debug => 4
  | trace => 5

/-- The upper-case name of a level. -/
def label : Level → String
  | error => "ERROR"
  | warn => "WARN"
  | info => "INFO"
  | debug => "DEBUG"
  | trace => "TRACE"

end Level

/-- A value in an event. -/
inductive Value where
  | text (text : String)
  | count (count : Nat)
  deriving DecidableEq, Repr

/-- A value as a line of plain text shows it. -/
def Value.display : Value → String
  | text s => s
  | count n => Text.decimal n

/-- Something worth telling. -/
structure Event where
  level : Level
  target : String
  message : String
  fields : List (String × Value)
  deriving DecidableEq, Repr

end ClassStub.Log
