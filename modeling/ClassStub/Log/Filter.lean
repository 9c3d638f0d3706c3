import ClassStub.Log.Event
import ClassStub.Log.FieldValue
import ClassStub.Text.Utf8

/-!
# Log filters

A filter is written as directives with commas between them. A directive is a level, which holds for everything;
a target, which lets everything of that target through; or `target=level`. A part in square brackets restricts a
directive to a span or to fields, and the value of a field must be one that can be compared. Of the directives that
concern an event the most specific decides, and without one the event is dropped. One bad directive makes the whole
text bad.
-/

namespace ClassStub.Log

/-- The least severe level that passes, none when nothing does. -/
abbrev Threshold := Option Level

namespace Threshold

/-- An event of the level passes. -/
def admits (t : Threshold) (level : Level) : Bool :=
  match t with
  | some limit => level.rank ≤ limit.rank
  | none => false

/-- The thresholds by number, from nothing to everything. -/
def byNumber : List Threshold :=
  none :: Level.all.map some

/-- The digits of a number with an optional plus sign. -/
def unsigned? (word : List Char) : Option Nat :=
  let digits := match word with
    | '+' :: rest => rest
    | word => word
  if digits ≠ [] ∧ digits.all Char.isDigit then
    some (digits.foldl (fun n c => n * 10 + (c.toNat - '0'.toNat)) 0)
  else none

/-- The threshold that a word names, by a number from 0 to 5 or by a name in any case. -/
def ofWord? (word : List Char) : Option Threshold :=
  match (unsigned? word).bind fun n => byNumber[n]? with
  | some t => some t
  | none =>
    match String.ofList (word.map Char.toLower) with
    | "off" => some none
    | "error" => some (some .error)
    | "warn" => some (some .warn)
    | "info" => some (some .info)
    | "debug" => some (some .debug)
    | "trace" => some (some .trace)
    | _ => none

end Threshold

/-- A field that a directive asks for. -/
structure FieldMatch where
  name : List Char
  hasValue : Bool
  deriving DecidableEq, Repr

/-- The name of the field as text. -/
def FieldMatch.word (f : FieldMatch) : String := String.ofList f.name

/-- Reads a field, with an optional value between equals signs. -/
def FieldMatch.parse? (cs : List Char) : Option FieldMatch := do
  guard (cs ≠ [])
  match cs.dropWhile (· ≠ '=') with
  | _ :: value =>
    guard (isFieldValue (value.takeWhile (· ≠ '=')))
    return ⟨cs.takeWhile (· ≠ '='), true⟩
  | [] => return ⟨cs, false⟩

/-- One rule of a filter. -/
structure Directive where
  target : Option (List Char)
  /-- The name of the span that the directive is restricted to. -/
  span : Option (List Char)
  fields : List FieldMatch
  threshold : Threshold
  deriving DecidableEq, Repr

namespace Directive

/-- A directive for all events. -/
def general (threshold : Threshold) : Directive := ⟨none, none, [], threshold⟩

/-- The characters that a directive may start with, apart from a square bracket. -/
def isStart (c : Char) : Bool :=
  Text.isAlphanumeric c || c == '-' || c == ':' || c == '_'

/-- The threshold behind an equals sign; nothing stands for everything. -/
def readLevel (cs : List Char) : Option Threshold :=
  if cs = [] then some (some .trace) else Threshold.ofWord? cs

/--
A directive without the blanks around it, in which the parts are found. The parts themselves are taken from the
same places of the directive as it is written: with blanks in front of it they are others.
-/
structure Source where
  written : List Char
  body : List Char

namespace Source

/-- A directive as it is written. -/
def of (written : List Char) : Source := ⟨written, Text.trim written⟩

/-- Where what is left of the body starts. -/
def place (s : Source) (rest : List Char) : Nat :=
  (Text.Utf8.encode (String.ofList s.body)).length - (Text.Utf8.encode (String.ofList rest)).length

/-- What is written from the place where a rest of the body starts. -/
def since (s : Source) (front : List Char) : Bytes :=
  (Text.Utf8.encode (String.ofList s.written)).drop (s.place front)

/-- The part from where one rest of the body starts to where another one does. -/
def part (s : Source) (front back : List Char) : List Char :=
  Text.Utf8.lossyChars ((s.since front).take (s.place back - s.place front))

/-- The part up to the end. -/
def tail (s : Source) (front : List Char) : List Char := Text.Utf8.lossyChars (s.since front)

end Source

/-- What a directive is restricted to. -/
structure Scope where
  span : Option (List Char)
  fields : List FieldMatch

/-- The span and fields of a bracketed part, and what follows it. -/
def readScope (source : Source) (cs : List Char) : Option (Scope × List Char) :=
  let name := source.part cs (cs.dropWhile fun c => c ≠ ']' ∧ c ≠ '\x7b')
  match cs.dropWhile fun c => c ≠ ']' ∧ c ≠ '\x7b' with
  | ']' :: rest => some (⟨some name, []⟩, rest)
  | '\x7b' :: field =>
    match field.dropWhile (· ≠ '\x7d') with
    | '\x7d' :: ']' :: rest => do
      let wanted ← FieldMatch.parse? (source.part field ('\x7d' :: ']' :: rest))
      return (⟨if name = [] then none else some name, [wanted]⟩, rest)
    | _ => none
  | _ => none

/-- Reads one directive. -/
def parse? (text : List Char) : Option Directive := do
  let source := Source.of text
  let first ← source.body.head?
  guard (first = '[' ∨ isStart first)
  let rest := source.body.dropWhile fun c => c ≠ '=' ∧ c ≠ '['
  let target := if first = '[' then none else some (source.part source.body rest)
  match rest with
  | '=' :: level => return ⟨target, none, [], ← readLevel (source.tail level)⟩
  | '[' :: scope =>
    match ← readScope source scope with
    | (⟨span, fields⟩, []) => return ⟨target, span, fields, some .trace⟩
    | (⟨span, fields⟩, '=' :: level) => return ⟨target, span, fields, ← readLevel (source.tail level)⟩
    | _ => none
  | _ =>
    match Threshold.ofWord? text with
    | some threshold => return general threshold
    | none => return ⟨some text, none, [], some .trace⟩

/-- The directive can decide about an event outside of all spans. -/
def isPlain (d : Directive) : Bool :=
  d.span.isNone && d.fields.all fun f => !f.hasValue

/-- The directive concerns events of a target that have the fields of given names. -/
def concerns (d : Directive) (target : String) (fields : List String) : Bool :=
  (match d.target with
    | some t => t.isPrefixOf target.toList
    | none => true) &&
    d.fields.all fun f => fields.contains (String.ofList f.name)

/-- The length of the target of a directive; any target is longer than none. -/
def targetRank (d : Directive) : Nat :=
  match d.target with
  | some t => t.length + 1
  | none => 0

/-- Words come no later in the alphabet than others, the first difference decides. -/
def inOrder : List String → List String → Bool
  | [], _ => true
  | _ :: _, [] => false
  | a :: as, b :: bs => if a = b then inOrder as bs else decide (a ≤ b)

/--
The second directive takes the place of the first: it has a longer target, or as long a one and more fields, or
as many fields of which the names come no earlier in the alphabet.
-/
def yieldsTo (d e : Directive) : Bool :=
  d.targetRank < e.targetRank ||
    (d.targetRank == e.targetRank &&
      (d.fields.length < e.fields.length ||
        (d.fields.length == e.fields.length && inOrder (d.fields.map FieldMatch.word) (e.fields.map FieldMatch.word))))

end Directive

/-- Rules that decide which events are kept. -/
structure Filter where
  directives : List Directive
  deriving DecidableEq, Repr

namespace Filter

/-- Only events up to a level. -/
def upTo (level : Level) : Filter := ⟨[Directive.general (some level)]⟩

/-- Reads a filter; empty directives do not count. -/
def parse? (text : String) : Option Filter := do
  let parts := (text.toList.splitOn ',').filter (· ≠ [])
  let directives ← parts.mapM Directive.parse?
  return ⟨directives⟩

/-- The directive that decides about events of a target with given fields. -/
def decider? (f : Filter) (target : String) (fields : List String) : Option Directive :=
  (f.directives.filter fun d => d.isPlain && d.concerns target fields).foldl
    (fun best d =>
      match best with
      | some b => if b.yieldsTo d then some d else some b
      | none => some d) none

/-- Events of a level, a target and fields are kept. -/
def enables (f : Filter) (level : Level) (target : String) (fields : List String) : Bool :=
  match f.decider? target fields with
  | some d => d.threshold.admits level
  | none => false

/-- The event is kept; every event has a field for its message. -/
def keeps (f : Filter) (e : Event) : Bool :=
  f.enables e.level e.target ("message" :: e.fields.map (·.1))

end Filter

end ClassStub.Log
