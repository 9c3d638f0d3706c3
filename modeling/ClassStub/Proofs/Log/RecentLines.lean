import Mathlib.Data.List.Infix
import ClassStub.Log.Buffer

/-!
# What a buffer remembers

A buffer takes calls in any order: lines to keep, and questions for its last lines. Of the lines that were pushed it
holds the most recent ones, as many as it has room for (`LogBuffer.Remembers`). A new line pushes out one line at most,
which is right because the buffer never holds more lines than it has room for. So every answer is the end of what was
pushed before the question, as long as the question, the room and the lines pushed so far allow.
-/

namespace ClassStub.LogBuffer

/-- A call on a buffer: a line to keep, or a question for as many last lines. -/
inductive Call where
  | push (line : String)
  | last (count : Nat)
  deriving DecidableEq, Repr

/-- The buffer after a call; a question leaves it as it is. -/
def call (b : LogBuffer) : Call → LogBuffer
  | .push line => b.push line
  | .last _ => b

/-- The answers to calls in a row, one for each question. -/
def answers (b : LogBuffer) : List Call → List (List String)
  | [] => []
  | .push line :: calls => answers (b.call (.push line)) calls
  | .last count :: calls => b.last count :: answers (b.call (.last count)) calls

/-- The lines that calls in a row push. -/
def Call.pushed : List Call → List String
  | [] => []
  | .push line :: calls => line :: pushed calls
  | .last _ :: calls => pushed calls

/-- The answers show the most recent lines: each is the end of the lines that were pushed before, of the length that
the question, the room and the number of these lines allow. -/
inductive ShowRecent (room : Nat) : (before : List String) → List Call → List (List String) → Prop where
  | nil {before} : ShowRecent room before [] []
  | push {before line calls shown} :
    ShowRecent room (before ++ [line]) calls shown →
    ShowRecent room before (.push line :: calls) shown
  | last {before answer count calls shown} :
    answer <:+ before →
    answer.length = min count (min room before.length) →
    ShowRecent room before calls shown →
    ShowRecent room before (.last count :: calls) (answer :: shown)

/-- Of the lines that were pushed, the buffer holds the last ones, as many as there is room for. -/
structure Remembers (room : Nat) (pushed : List String) (b : LogBuffer) : Prop where
  capacity_eq : b.capacity = room
  suffix : b.lines <:+ pushed
  length_eq : b.lines.length = min room pushed.length

section

variable {room count : Nat} {pushed : List String} {line : String} {b : LogBuffer}

/-- A new buffer has room for one line at least, and nothing was pushed to it. -/
lemma remembers_ofCapacity (capacity : Nat) : Remembers (max capacity 1) [] (ofCapacity capacity) where
  capacity_eq := rfl
  suffix := List.nil_suffix
  length_eq := (Nat.min_zero _).symm

/-- A new line is the last one; when the buffer is full, the oldest line goes. -/
lemma Remembers.push (h : Remembers room pushed b) (hroom : 1 ≤ room) (line : String) :
    Remembers room (pushed ++ [line]) (b.push line) := by
  have hlen := h.length_eq
  rw [LogBuffer.push]
  split
  · rename_i hfull
    rw [h.capacity_eq] at hfull
    refine ⟨h.capacity_eq, (List.suffix_append_inj_of_length_eq rfl).2 ⟨(List.tail_suffix _).trans h.suffix, rfl⟩, ?_⟩
    simp only [List.length_append, List.length_tail, List.length_singleton]
    omega
  · rename_i hfree
    rw [h.capacity_eq] at hfree
    refine ⟨h.capacity_eq, (List.suffix_append_inj_of_length_eq rfl).2 ⟨h.suffix, rfl⟩, ?_⟩
    simp only [List.length_append, List.length_singleton]
    omega

/-- The last lines are what is left when the others are dropped. -/
lemma last_eq_drop (b : LogBuffer) (count : Nat) : b.last count = b.lines.drop (b.lines.length - count) := by
  rw [last, List.take_reverse, List.reverse_reverse]

/-- The last lines of the buffer end what was pushed. -/
lemma Remembers.last_suffix (h : Remembers room pushed b) (count : Nat) : b.last count <:+ pushed := by
  rw [last_eq_drop]
  exact (List.drop_suffix _ _).trans h.suffix

/-- There are as many last lines as the question, the room and the lines pushed so far allow. -/
lemma Remembers.length_last (h : Remembers room pushed b) (count : Nat) :
    (b.last count).length = min count (min room pushed.length) := by
  have hlen := h.length_eq
  rw [last_eq_drop, List.length_drop]
  omega

/-- Each answer to a buffer's calls shows the most recent lines. -/
lemma Remembers.showRecent (h : Remembers room pushed b) (hroom : 1 ≤ room) (calls : List Call) :
    ShowRecent room pushed calls (b.answers calls) := by
  induction calls generalizing pushed b with
  | nil => exact .nil
  | cons c calls ih =>
    cases c with
    | push line => exact .push (ih (h.push hroom line))
    | last count => exact .last (h.last_suffix count) (h.length_last count) (ih h)

/-- What a buffer holds depends on the lines that are pushed, not on the questions in between. -/
lemma foldl_call (b : LogBuffer) (calls : List Call) : calls.foldl call b = (Call.pushed calls).foldl LogBuffer.push b := by
  induction calls generalizing b with
  | nil => rfl
  | cons c calls ih =>
    cases c with
    | push line => exact ih (b.push line)
    | last count => exact ih b

/-- More lines are remembered behind those that were pushed before. -/
lemma Remembers.foldl_push (h : Remembers room pushed b) (hroom : 1 ≤ room) (lines : List String) :
    Remembers room (pushed ++ lines) (lines.foldl LogBuffer.push b) := by
  induction lines generalizing pushed b with
  | nil => rwa [List.append_nil]
  | cons line lines ih =>
    have hnext := ih (h.push hroom line)
    rwa [List.append_assoc] at hnext

end

/-- In any row of calls on a new buffer, each question for the last lines is answered with the end of the lines that
were pushed before it, of the length that the question, the room and the number of these lines allow. The questions
change nothing, and the buffer never holds more lines than it has room for; there is room for one line at least. -/
theorem answers_show_recent_lines (capacity : Nat) (calls : List Call) :
    ShowRecent (max capacity 1) [] calls ((ofCapacity capacity).answers calls) ∧
      calls.foldl call (ofCapacity capacity) = (Call.pushed calls).foldl LogBuffer.push (ofCapacity capacity) ∧
      (calls.foldl call (ofCapacity capacity)).lines.length ≤ max capacity 1 := by
  have hroom : 1 ≤ max capacity 1 := Nat.le_max_right capacity 1
  have hempty := remembers_ofCapacity capacity
  refine ⟨hempty.showRecent hroom calls, foldl_call _ _, ?_⟩
  rw [foldl_call, (hempty.foldl_push hroom _).length_eq]
  exact Nat.min_le_left _ _

example : (ofCapacity 2).answers [.push "one", .push "two", .push "three", .last 10, .push "four", .last 1] =
    [["two", "three"], ["four"]] := by decide

end ClassStub.LogBuffer
