/-!
# Redaction

Messages about settings must not show the values that were set. Every text in double quotes, and then every text
in single quotes, is replaced. A backslash inside a text hides the character after it, which may not be the end
of a line.
-/

namespace ClassStub.Settings

/-- What follows the quote that closes a text, after the quote that opens it. -/
def afterQuoted? (quote : Char) : List Char → Option (List Char)
  | [] => none
  | c :: cs =>
    if c = quote then some cs
    else if c = '\\' then
      match cs with
      | [] => none
      | d :: cs => if d = '\n' then none else afterQuoted? quote cs
    else afterQuoted? quote cs

/-- What stands behind a quoted text is shorter by the closing quote at least. -/
theorem length_afterQuoted? {quote : Char} {cs rest : List Char} (h : afterQuoted? quote cs = some rest) :
    rest.length < cs.length := by
  fun_induction afterQuoted? quote cs with
  | case1 => simp at h
  | case2 => simp_all
  | case3 => simp at h
  | case4 => simp at h
  | case5 _ _ _ _ ih =>
    have := ih h
    simp only [List.length_cons]
    omega
  | case6 _ _ _ _ ih =>
    have := ih h
    simp only [List.length_cons]
    omega

/-- What stands for a value. -/
def redacted : List Char := "<redacted>".toList

/-- Replaces every text in quotes of one kind. -/
def redactQuoted (quote : Char) (cs : List Char) : List Char :=
  match cs with
  | [] => []
  | c :: cs =>
    if c = quote then
      match h : afterQuoted? quote cs with
      | some rest =>
        have := length_afterQuoted? h
        quote :: (redacted ++ quote :: redactQuoted quote rest)
      | none => c :: redactQuoted quote cs
    else c :: redactQuoted quote cs
termination_by cs.length

/-- Replaces every quoted text. -/
def redact (message : String) : String :=
  String.ofList (redactQuoted '\'' (redactQuoted '"' message.toList))

end ClassStub.Settings
