import ClassStub.Toml.Lexical

/-!
# Configuration documents

A document is a sequence of lines: headers open a table, and assignments add keys to it. Values may be nested,
but not deeper than a fixed number of levels; keys may not have more parts than that either.
-/

namespace ClassStub.Toml

open Scan

/-- The number of levels of nesting that is too many. -/
def nestingLimit : Nat := 80

/-- A character of a key without quotes. -/
def isBareKey (c : Char) : Bool :=
  isDigit c || ('a' ≤ c && c ≤ 'z') || ('A' ≤ c && c ≤ 'Z') || c == '_' || c == '-'

/-- Takes one part of a key. -/
def simpleKey : Scan String := do
  let part ← takeSome isBareKey <|> basicText <|> literalText
  return String.ofList part

/-- Takes a key with its parts, and gives the last apart from those before it. -/
def key : Scan (List String × String) := do
  let parts ← sepBy (do
    spaces
    let part ← simpleKey
    spaces
    return part) (char '.')
  if nestingLimit ≤ parts.length then failure
  match parts.reverse with
  | last :: before => return (before.reverse, last)
  | [] => failure

/-- Takes an array, given its items. -/
def arrayOf (item : Scan Value) : Scan Value := do
  char '['
  let items ← maybe (sepBy (do
    gap
    let value ← item
    gap
    return value) (char ','))
  if items.isSome then
    let _ ← maybe (char ',')
  gap
  char ']'
  return .array (items.getD [])

/-- Takes a key and a value of an inline table. -/
def inlinePair (item : Scan Value) : Scan (List String × String × Value) := do
  let (path, last) ← key
  char '='
  spaces
  let value ← item
  spaces
  return (path, last, value)

/-- Takes an inline table, given its values. -/
def inlineTableOf (item : Scan Value) : Scan Value := do
  char '\x7b'
  spaces
  let pairs ← maybe (sepBy (inlinePair item) (char ','))
  spaces
  char '\x7d'
  let entries ← (pairs.getD []).foldlM (fun es (path, last, value) => Entries.assign path last value es) ([] : Entries)
  return .table .inline entries

/-- Takes a value in which so many levels of brackets and braces may be nested. -/
def value : Nat → Scan Value
  | 0 => scalar
  | depth + 1 => scalar <|> arrayOf (value depth) <|> inlineTableOf (value depth)

/-- A line of a document. -/
inductive Line where
  | blank
  | table (path : List String) (key : String)
  | tables (path : List String) (key : String)
  | assignment (path : List String) (key : String) (value : Value)

/-- Takes the header of a table. -/
def tableHeader : Scan Line := do
  char '['
  let (path, last) ← key
  char ']'
  lineEnd
  return .table path last

/-- Takes the header of a table among others. -/
def tablesHeader : Scan Line := do
  word ['[', '[']
  let (path, last) ← key
  word [']', ']']
  lineEnd
  return .tables path last

/-- Takes an assignment. -/
def assignment : Scan Line := do
  let (path, last) ← key
  char '='
  spaces
  let v ← value (nestingLimit - 1)
  lineEnd
  return .assignment path last v

/-- Takes an empty line. -/
def blankLine : Scan Line := do
  let _ ← maybe comment
  newline
  return .blank

/-- Takes a comment at the end of the document. -/
def lastComment : Scan Unit := do
  let _ ← maybe comment
  atEnd

/-- Takes all lines of a document. -/
def lines : Scan (List Line) := do
  let _ ← maybe (char '\uFEFF')
  let found ← many (do
    spaces
    blankLine <|> tablesHeader <|> tableHeader <|> assignment)
  spaces
  lastComment
  return found

/-- What has been read of a document: its entries, and the table that assignments go to. -/
structure Draft where
  current : List String
  entries : Entries

/-- Adds a line to a document. -/
def Draft.add (d : Draft) : Line → Option Draft
  | .blank => some d
  | .table path key => do
    return { current := path ++ [key], entries := ← d.entries.openTable path key }
  | .tables path key => do
    return { current := path ++ [key], entries := ← d.entries.pushTable path key }
  | .assignment path key value => do
    let entries ← Entries.update false (fun _ es => es.assign path key value) d.current .header d.entries
    return { d with entries }

/-- Reads a document. -/
def parse? (text : String) : Option Entries := do
  let (found, _) ← lines text.toList
  let draft ← found.foldlM Draft.add ⟨[], []⟩
  return draft.entries

end ClassStub.Toml
