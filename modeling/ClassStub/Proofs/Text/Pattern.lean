import Mathlib.Data.List.Basic

/-!
# Patterns

Patterns match texts with preferences: the first of two alternatives goes before the second, and more repetitions go
before fewer. `Pattern.rests` lists what the possible matches at the start of a text leave of it, the preferred one
first, and `Pattern.replaceAll` replaces the matches in a text from its start on.
-/

namespace ClassStub.Text

/-- A pattern for texts. -/
inductive Pattern where
  | char (accepts : Char → Bool)
  | seq (first second : Pattern)
  | alt (first second : Pattern)
  | star (body : Pattern)

namespace Pattern

/-- What is left by steps in a row, by more of them first. Every step takes a character, so that the length of the text
is a bound for their number. -/
def repeated (step : List Char → List (List Char)) : (bound : Nat) → List Char → List (List Char)
  | 0, cs => [cs]
  | bound + 1, cs =>
    ((step cs).filter fun rest => rest.length < cs.length).flatMap (repeated step bound) ++ [cs]

/-- What is left behind the matches at the start of a text, in the order of preference. -/
def rests : Pattern → List Char → List (List Char)
  | char _, [] => []
  | char accepts, c :: cs => if accepts c then [cs] else []
  | seq first second, cs => (first.rests cs).flatMap second.rests
  | alt first second, cs => first.rests cs ++ second.rests cs
  | star body, cs => repeated body.rests cs.length cs

/-- A character has no match at the end of the text. -/
@[simp]
lemma rests_char_nil (accepts : Char → Bool) : (char accepts).rests [] = [] := rfl

/-- A character matches the first one of the text, if it accepts that. -/
@[simp]
lemma rests_char_cons (accepts : Char → Bool) (c : Char) (cs : List Char) :
    (char accepts).rests (c :: cs) = if accepts c then [cs] else [] := rfl

/-- The second of two patterns in a row goes on behind each match of the first. -/
@[simp]
lemma rests_seq (first second : Pattern) (cs : List Char) :
    (seq first second).rests cs = (first.rests cs).flatMap second.rests := rfl

/-- The matches of the first of two alternatives go before those of the second. -/
@[simp]
lemma rests_alt (first second : Pattern) (cs : List Char) :
    (alt first second).rests cs = first.rests cs ++ second.rests cs := rfl

/-- Repetitions begin with as many of them as the text has characters. -/
@[simp]
lemma rests_star (body : Pattern) (cs : List Char) : (star body).rests cs = repeated body.rests cs.length cs := rfl

/-- Replaces the matches that are not empty, one after the other from the start of the text. -/
def replaceAll (p : Pattern) (replacement : List Char) (cs : List Char) : List Char :=
  match cs with
  | [] => []
  | c :: cs =>
    match (p.rests (c :: cs)).head? with
    | some rest =>
      if rest.length ≤ cs.length then replacement ++ replaceAll p replacement rest
      else c :: replaceAll p replacement cs
    | none => c :: replaceAll p replacement cs
termination_by cs.length

section

variable {step : List Char → List (List Char)} {cs rest : List Char}

/-- Where a step has no match, it is repeated no times. -/
lemma repeated_of_eq_nil (h : step cs = []) (bound : Nat) : repeated step bound cs = [cs] := by
  cases bound with
  | zero => rfl
  | succ bound =>
    rw [repeated, h]
    rfl

/-- Where a step has one match, it is repeated from there on, or not at all. -/
lemma repeated_of_eq_singleton (h : step cs = [rest]) (hlt : rest.length < cs.length) (bound : Nat) :
    repeated step (bound + 1) cs = repeated step bound rest ++ [cs] := by
  simp only [repeated, h, List.filter_singleton, hlt, decide_true, cond_true, List.flatMap_singleton]

end

end Pattern

end ClassStub.Text
