/-!
# Lexemes of patterns

The text of a pattern is cut into wildcards, sets, brackets and characters. A backslash makes the character
after it stand for itself. Cutting goes on to the end of the text or to a fault, and gives the lexemes that
stand before it.
-/

namespace ClassStub.Glob

/-- Why a text is no pattern. -/
inductive Fault where
  | unclosedSet
  | badRange (low high : Char)
  | unclosedGroup
  | unopenedGroup
  | danglingEscape
  deriving DecidableEq, Repr

/-- The wording of a fault. -/
def Fault.message : Fault → String
  | unclosedSet => "unclosed character class; missing ']'"
  | badRange low high =>
    "invalid range; '" ++ String.singleton low ++ "' > '" ++ String.singleton high ++ "'"
  | unclosedGroup => "unclosed alternate group; missing '\x7d' (maybe escape '\x7b' with '[\x7b]'?)"
  | unopenedGroup => "unopened alternate group; missing '\x7b' (maybe escape '\x7d' with '[\x7d]'?)"
  | danglingEscape => "dangling '\\'"

/-- Characters in some ranges, or all outside them. -/
structure CharSet where
  negated : Bool
  ranges : List (Char × Char)
  deriving DecidableEq, Repr

/-- A piece of the text of a pattern. -/
inductive Lexeme where
  | question
  | star
  | set (set : CharSet)
  | opening
  | closing
  | comma
  | char (c : Char) (escaped : Bool)
  deriving DecidableEq, Repr

namespace Lexeme

/-- The last character of the text of a lexeme. -/
def lastChar : Lexeme → Char
  | question => '?'
  | star => '*'
  | set _ => ']'
  | opening => '\x7b'
  | closing => '\x7d'
  | comma => ','
  | char c _ => c

/-- Lets the range read last end at `c`. -/
def extendRange (ranges : List (Char × Char)) (c : Char) : Except Fault (List (Char × Char)) :=
  match ranges with
  | (low, _) :: others => if c < low then .error (.badRange low c) else .ok ((low, c) :: others)
  | [] => .ok [(c, c)]

/--
Reads the members of a set up to its closing bracket. `ranges` holds the members so far, the latest first;
`started` says that a hyphen has opened a range. A bracket or hyphen that comes first is a member, and so is a
hyphen that comes last.
-/
def members (ranges : List (Char × Char)) (started : Bool) :
    List Char → Except Fault (List (Char × Char) × List Char)
  | [] => .error .unclosedSet
  | c :: cs =>
    if c = ']' ∧ ranges ≠ [] then
      .ok ((if started then ('-', '-') :: ranges else ranges).reverse, cs)
    else if started then
      match extendRange ranges c with
      | .ok ranges => members ranges false cs
      | .error fault => .error fault
    else if c = '-' ∧ ranges ≠ [] then members ranges true cs
    else members ((c, c) :: ranges) false cs

/-- Reading the members of a set takes at least the bracket behind them. -/
theorem members_length {cs : List Char} {ranges : List (Char × Char)} {started : Bool}
    {result : List (Char × Char)} {rest : List Char}
    (h : members ranges started cs = .ok (result, rest)) : rest.length < cs.length := by
  fun_induction members ranges started cs with
  | case1 => simp at h
  | case2 => simp_all
  | case3 _ _ _ _ _ _ ih => exact Nat.lt_succ_of_lt (ih h)
  | case4 => simp at h
  | case5 _ _ _ _ _ _ _ ih => exact Nat.lt_succ_of_lt (ih h)
  | case6 _ _ _ _ _ _ _ ih => exact Nat.lt_succ_of_lt (ih h)

/-- A set after its opening bracket; `!` or `^` negates it. -/
def readSet (cs : List Char) : Except Fault (CharSet × List Char) :=
  match cs with
  | '!' :: cs | '^' :: cs => (members [] false cs).map fun (ranges, rest) => (⟨true, ranges⟩, rest)
  | cs => (members [] false cs).map fun (ranges, rest) => (⟨false, ranges⟩, rest)

/-- Reading a set takes at least one character. -/
theorem readSet_length {cs : List Char} {s : CharSet} {rest : List Char}
    (h : readSet cs = .ok (s, rest)) : rest.length < cs.length := by
  unfold readSet at h
  split at h <;>
    simp only [Except.map] at h <;> split at h <;> simp at h <;> rename_i hm <;>
    have := members_length hm <;> obtain ⟨-, rfl⟩ := h <;> simp <;> omega

/-- The lexemes of a text, and the fault that ends them early. -/
def scan (cs : List Char) : List Lexeme × Option Fault :=
  match cs with
  | [] => ([], none)
  | c :: cs =>
    let more (first : Lexeme) (others : List Lexeme × Option Fault) := (first :: others.1, others.2)
    match c with
    | '?' => more question (scan cs)
    | '*' => more star (scan cs)
    | '\x7b' => more opening (scan cs)
    | '\x7d' => more closing (scan cs)
    | ',' => more comma (scan cs)
    | '[' =>
      match h : readSet cs with
      | .ok (s, rest) =>
        have := readSet_length h
        more (set s) (scan rest)
      | .error fault => ([], some fault)
    | '\\' =>
      match cs with
      | [] => ([], some .danglingEscape)
      | d :: cs => more (char d true) (scan cs)
    | c => more (char c false) (scan cs)
termination_by cs.length

end Lexeme

end ClassStub.Glob
