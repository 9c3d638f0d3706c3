import ClassStub.Text.Segment

/-!
# Paths

These are the paths of Unix systems. A path is a text cut by `/`. It starts at the root when it begins with a slash.
Empty segments and `.` mean nothing, except that the first segment is kept: it tells a relative path from an absolute
one, and a leading `.` is shown. Nothing is normalised: operations keep the text that they do not cut away.

Paths are texts. A name that is no text, as its bytes are no UTF-8, has a text that stands for it; messages show that
text, and `isText` tells a path with such a name from one without.
-/

namespace ClassStub

/-- A path by its text. -/
structure Path where
  text : String
  deriving DecidableEq, Repr

namespace Path

/-- The texts between slashes. -/
def segments (p : Path) : List (List Char) :=
  p.text.toList.splitOn '/'

/-- The path starts at the root. -/
def isAbsolute (p : Path) : Bool :=
  p.text.toList.head? == some '/'

/-- No name in the path is one of those that stand for names that are no text. -/
def isText (standIns : List String) (p : Path) : Bool :=
  p.segments.all fun segment => !standIns.contains (String.ofList segment)

/-- Appends a path; an absolute one replaces what is there. -/
def join (p q : Path) : Path :=
  if q.isAbsolute then q
  else
    match p.text.toList.getLast? with
    | none => q
    | some c => if c = '/' then ⟨p.text ++ q.text⟩ else ⟨p.text ++ "/" ++ q.text⟩

/-- A segment that names nothing. -/
def isIdle (segment : List Char) : Bool :=
  segment == [] || segment == ['.']

/-- The segment that stands for the directory above. -/
def above : List Char := ['.', '.']

/-- The last segment that names something, unless it is `..`. -/
def fileName? (p : Path) : Option String :=
  match (p.segments.filter fun s => !isIdle s).getLast? with
  | some s => if s = above then none else some (String.ofList s)
  | none => none

/-- What follows the last dot of the file name; a dot at the start does not count. -/
def extension? (p : Path) : Option String := do
  let name ← p.fileName?
  let (stem, ext) ← Text.rsplit? '.' name.toList
  if stem = [] then none else some (String.ofList ext)

/-- Drops segments that name nothing from the end of a reversed list, but not the first of all. -/
def trimIdle : List (List Char) → List (List Char)
  | s :: t :: rest => if isIdle s then trimIdle (t :: rest) else s :: t :: rest
  | segments => segments

/-- The path without its last component, none for the root and the empty path. -/
def parent? (p : Path) : Option Path :=
  match trimIdle p.segments.reverse with
  | [] => none
  | [s] => if s = [] then none else some ⟨""⟩
  | _ :: rest =>
    match trimIdle rest with
    | [[]] => some ⟨"/"⟩
    | kept => some ⟨String.ofList (['/'].intercalate kept.reverse)⟩

end Path

end ClassStub
