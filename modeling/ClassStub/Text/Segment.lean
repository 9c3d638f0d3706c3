/-!
# Segments of a text

Names and paths are texts cut by a separator. Cutting is done on character lists: `List.splitOn` gives all
segments, `rsplit` the same from the back, `rsplit?` the parts around the last separator, `lastSegment` the part
after it. `replaceChar` exchanges one separator for another.
-/

namespace ClassStub.Text

/-- The segments from the last one to the first. -/
def rsplit (sep : Char) (cs : List Char) : List (List Char) :=
  (cs.splitOn sep).reverse

/-- The parts before and after the last occurrence of a separator. -/
def rsplit? (sep : Char) : List Char → Option (List Char × List Char)
  | [] => none
  | c :: cs =>
    match rsplit? sep cs with
    | some (before, after) => some (c :: before, after)
    | none => if c = sep then some ([], cs) else none

/-- The part after the last separator, or the whole text when there is none. -/
def lastSegment (sep : Char) (cs : List Char) : List Char :=
  match rsplit? sep cs with
  | some (_, after) => after
  | none => cs

/-- Writes `new` for every `old`. -/
def replaceChar (old new : Char) (cs : List Char) : List Char :=
  cs.map fun c => if c = old then new else c

/-- Drops `front` from the start of a text that begins with it. -/
def stripFront? : List Char → List Char → Option (List Char)
  | [], cs => some cs
  | _ :: _, [] => none
  | p :: ps, c :: cs => if p = c then stripFront? ps cs else none

/-- Drops `tail` from the end of a text that ends with it. -/
def stripEnd? (tail cs : List Char) : Option (List Char) :=
  (stripFront? tail.reverse cs.reverse).map List.reverse

end ClassStub.Text
