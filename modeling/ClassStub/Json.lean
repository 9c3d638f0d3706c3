import ClassStub.Text.Digits

/-!
# JSON values

Values and two writings of them: `compact` has no blanks, `pretty` indents by two blanks a level and writes
empty lists and objects without a break. Object keys keep their order. Characters from the blank on are written
as they are, except the quote and the backslash.
-/

namespace ClassStub

/-- A JSON value. -/
inductive Json where
  | null
  | bool (b : Bool)
  | number (n : Nat)
  | string (s : String)
  | array (items : List Json)
  | object (fields : List (String × Json))

namespace Json

/-- A character inside a quoted text. -/
def escapeChar (c : Char) : List Char :=
  if c = '"' then ['\\', '"']
  else if c = '\\' then ['\\', '\\']
  else if c = '\n' then ['\\', 'n']
  else if c = '\r' then ['\\', 'r']
  else if c = '\t' then ['\\', 't']
  else if c.toNat = 0x08 then ['\\', 'b']
  else if c.toNat = 0x0C then ['\\', 'f']
  else if c.toNat < 0x20 then '\\' :: 'u' :: (Text.hexPadded 4 c.toNat).toList
  else [c]

/-- A quoted text. -/
def quote (s : String) : String :=
  "\"" ++ String.ofList (s.toList.flatMap escapeChar) ++ "\""

mutual

/-- A value without blanks. -/
def compact : Json → String
  | null => "null"
  | bool b => if b then "true" else "false"
  | number n => Text.decimal n
  | string s => quote s
  | array items => "[" ++ String.intercalate "," (compactItems items) ++ "]"
  | object fields => "\x7b" ++ String.intercalate "," (compactFields fields) ++ "\x7d"

/-- The items of a list, each without blanks. -/
def compactItems : List Json → List String
  | [] => []
  | item :: items => item.compact :: compactItems items

/-- The fields of an object, each without blanks. -/
def compactFields : List (String × Json) → List String
  | [] => []
  | (key, value) :: fields => (quote key ++ ":" ++ value.compact) :: compactFields fields

end

/-- Items on lines of their own between two brackets. -/
def block (opening closing : String) (depth : Nat) (items : List String) : String :=
  if items.isEmpty then opening ++ closing
  else
    let indent := String.join (List.replicate depth "  ")
    opening ++ "\n" ++ String.intercalate ",\n" (items.map fun item => indent ++ "  " ++ item) ++
      "\n" ++ indent ++ closing

mutual

/-- A value on several lines, inside `depth` others. -/
def prettyAt (depth : Nat) : Json → String
  | null => "null"
  | bool b => if b then "true" else "false"
  | number n => Text.decimal n
  | string s => quote s
  | array items => block "[" "]" depth (prettyItems (depth + 1) items)
  | object fields => block "\x7b" "\x7d" depth (prettyFields (depth + 1) fields)

/-- The items of a list. -/
def prettyItems (depth : Nat) : List Json → List String
  | [] => []
  | item :: items => item.prettyAt depth :: prettyItems depth items

/-- The fields of an object. -/
def prettyFields (depth : Nat) : List (String × Json) → List String
  | [] => []
  | (key, value) :: fields => (quote key ++ ": " ++ value.prettyAt depth) :: prettyFields depth fields

end

/-- A value on several lines. -/
def pretty (value : Json) : String := value.prettyAt 0

/-- The value, or null. -/
def ofOption (value : Option String) : Json :=
  match value with
  | some s => string s
  | none => null

end Json

end ClassStub
