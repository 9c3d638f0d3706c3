import ClassStub.Proofs.Descriptor.Tokens

/-!
# Cutting a text into types

Every read of a type leaves an end of the text, and a shorter one unless nothing is there. So reading all types comes
to an end on any text, and cuts it into pieces of which none is empty and nothing is lost: `JavaType.Cuts` follows the
reads one after the other. A complete token (`JavaType.IsComplete`) is a piece that no continuation changes the
reading of, so the types of a text that begins with complete tokens are theirs and those of what follows.
-/

namespace ClassStub.JavaType

/-- One read after the other takes a piece off a text and gives its type, until nothing is left. -/
inductive Cuts : List Char → List (List Char × JavaType) → Prop where
  | done : Cuts [] []
  | next {piece rest type cuts} : piece ≠ [] → read (piece ++ rest) = (type, rest) → Cuts rest cuts →
      Cuts (piece ++ rest) ((piece, type) :: cuts)

/-- A text that is one type by itself: dimensions in front of one character, or of a class path with its end. -/
inductive IsComplete : List Char → Prop where
  | letter (dims : Nat) {c : Char} : c ≠ '[' → c ≠ 'L' → IsComplete (List.replicate dims '[' ++ [c])
  | path (dims : Nat) {path : List Char} : ';' ∉ path →
      IsComplete (List.replicate dims '[' ++ 'L' :: (path ++ [';']))

/-! ### Progress of one read -/

/-- What a scalar type leaves is an end of the text. -/
lemma readScalar_suffix (cs : List Char) : (readScalar cs).2 <:+ cs := by
  unfold readScalar
  split
  · exact List.suffix_refl []
  · exact (List.drop_suffix 1 _).trans ((List.dropWhile_suffix _).trans (List.suffix_cons _ _))
  · split
    · exact List.suffix_cons _ _
    · exact List.suffix_cons _ _

/-- What a type leaves is an end of the text. -/
lemma read_suffix (cs : List Char) : (read cs).2 <:+ cs := by
  rw [snd_read]
  exact (readScalar_suffix _).trans (List.dropWhile_suffix _)

/-- Of a text that is not empty, a read takes a piece that is not empty. -/
lemma exists_piece {cs : List Char} (h : cs ≠ []) :
    ∃ piece type rest, cs = piece ++ rest ∧ piece ≠ [] ∧ read (piece ++ rest) = (type, rest) := by
  obtain ⟨piece, hpiece⟩ := read_suffix cs
  refine ⟨piece, (read cs).1, (read cs).2, hpiece.symm, ?_, by rw [hpiece]⟩
  rintro rfl
  exact absurd (congrArg List.length hpiece) (Nat.ne_of_lt (read_length_lt h))

/-! ### The reads of a whole text -/

/-- The reads of any text come to an end: each leaves a shorter text. -/
lemma exists_cuts (cs : List Char) : ∃ cuts, Cuts cs cuts := by
  induction hlen : cs.length using Nat.strongRecOn generalizing cs with
  | _ n ih =>
    by_cases hnil : cs = []
    · exact ⟨[], hnil ▸ .done⟩
    · obtain ⟨piece, type, rest, rfl, hne, hread⟩ := exists_piece hnil
      have hlt : rest.length < n := by
        rw [← hlen, List.length_append]
        exact Nat.lt_add_of_pos_left (List.length_pos_iff.2 hne)
      obtain ⟨cuts, hcuts⟩ := ih _ hlt rest rfl
      exact ⟨_, .next hne hread hcuts⟩

section

variable {cs : List Char} {cuts : List (List Char × JavaType)}

/-- The tokens of a text are the pieces that the reads take. -/
lemma Cuts.tokens_eq (h : Cuts cs cuts) : tokens cs = cuts.map Prod.fst := by
  induction h with
  | done => exact tokens_nil
  | next hne hread _ ih => rw [tokens_append hne hread, ih, List.map_cons]

/-- The types of a text are those of the reads. -/
lemma Cuts.readAll_eq (h : Cuts cs cuts) : readAll cs = cuts.map Prod.snd := by
  induction h with
  | done => exact readAll_nil
  | next hne hread _ ih => rw [readAll_append hne hread, ih, List.map_cons]

/-- Each type of a text is the one of a read. -/
lemma Cuts.exists_read (h : Cuts cs cuts) {t : JavaType} (ht : t ∈ cuts.map Prod.snd) : ∃ part, t = (read part).1 := by
  induction h with
  | done => cases ht
  | next _ hread _ ih =>
    rcases List.mem_cons.1 ht with rfl | ht
    · exact ⟨_, by rw [hread]⟩
    · exact ih ht

/-- The pieces in a row are the whole text. -/
lemma Cuts.flatten (h : Cuts cs cuts) : (cuts.map Prod.fst).flatten = cs := by
  induction h with
  | done => rfl
  | next _ _ _ ih => rw [List.map_cons, List.flatten_cons, ih]

/-- No piece is empty. -/
lemma Cuts.nil_not_mem (h : Cuts cs cuts) : [] ∉ cuts.map Prod.fst := by
  induction h with
  | done => exact List.not_mem_nil
  | next hne _ _ ih =>
    rw [List.map_cons, List.mem_cons, not_or]
    exact ⟨hne.symm, ih⟩

end

/-! ### Complete tokens -/

/-- A character other than `L` is a type by itself, whatever follows. -/
lemma readScalar_letter {c : Char} (h : c ≠ 'L') : ∃ type, ∀ rest, readScalar (c :: rest) = (type, rest) := by
  cases hp : Primitive.ofLetter? c with
  | some p =>
    refine ⟨.primitive p, fun rest => ?_⟩
    simp [readScalar, hp]
  | none =>
    refine ⟨.void, fun rest => ?_⟩
    simp [readScalar, hp]

/-- A complete token is not empty. -/
lemma IsComplete.ne_nil {token : List Char} (h : IsComplete token) : token ≠ [] := by
  cases h with
  | letter dims hb hl => simp
  | path dims hpath => simp

/-- Dimensions do not change where the read of the type behind them stops. -/
lemma exists_type_replicate (dims : Nat) (front : List Char) {type : JavaType}
    (hhead : ∀ rest, (front ++ rest).head? ≠ some '[') (hread : ∀ rest, readScalar (front ++ rest) = (type, rest)) :
    ∃ whole, ∀ rest, read (List.replicate dims '[' ++ front ++ rest) = (whole, rest) := by
  refine ⟨if dims = 0 then type else if dims ≤ maxDims then .array dims type else .void, fun rest => ?_⟩
  rw [List.append_assoc, read_replicate dims (hhead rest), hread]

/-- A complete token is read as one type, and the read stops at its end, whatever follows. -/
lemma IsComplete.exists_type {token : List Char} (h : IsComplete token) :
    ∃ type, ∀ rest, read (token ++ rest) = (type, rest) := by
  cases h with
  | @letter dims c hb hl =>
    obtain ⟨type, hread⟩ := readScalar_letter hl
    exact exists_type_replicate dims [c] (by simpa using hb) hread
  | @path dims path hpath =>
    have hread : ∀ rest,
        readScalar ('L' :: (path ++ [';']) ++ rest) = (.object (dotted (String.ofList path)), rest) := by
      intro rest
      rw [List.cons_append, List.append_assoc, List.singleton_append]
      exact readScalar_path hpath rest
    exact exists_type_replicate dims ('L' :: (path ++ [';'])) (by simp) hread

/-- Complete tokens have their types, whatever follows. -/
lemma exists_types {tokens : List (List Char)} (h : ∀ token ∈ tokens, IsComplete token) :
    ∃ types, ∀ rest, readAll (tokens.flatten ++ rest) = types ++ readAll rest := by
  induction tokens with
  | nil => exact ⟨[], fun rest => rfl⟩
  | cons token tokens ih =>
    obtain ⟨htoken, htokens⟩ := List.forall_mem_cons.1 h
    obtain ⟨type, htype⟩ := htoken.exists_type
    obtain ⟨types, htypes⟩ := ih htokens
    refine ⟨type :: types, fun rest => ?_⟩
    rw [List.flatten_cons, List.append_assoc, readAll_append htoken.ne_nil (htype _), htypes, List.cons_append]

/-- Reading takes an end of the text away from it, so all types of any text are read: the text is a row of as many
pieces as it has types, each not empty and taken by one read. In front of any text, complete tokens are read as they
are by themselves. -/
theorem reads_cut_every_text :
    (∀ cs, (read cs).2 <:+ cs ∧ (cs ≠ [] → (read cs).2.length < cs.length)) ∧
      (∀ cs, Cuts cs ((tokens cs).zip (readAll cs)) ∧ (tokens cs).length = (readAll cs).length ∧
        (tokens cs).flatten = cs ∧ [] ∉ tokens cs) ∧
      ∀ (front : List (List Char)) (rest : List Char), (∀ token ∈ front, IsComplete token) →
        readAll (front.flatten ++ rest) = readAll front.flatten ++ readAll rest := by
  refine ⟨fun cs => ⟨read_suffix cs, read_length_lt⟩, ?_, ?_⟩
  · intro cs
    obtain ⟨cuts, hcuts⟩ := exists_cuts cs
    have hzip : (cuts.map Prod.fst).zip (cuts.map Prod.snd) = cuts := by
      rw [List.zip_map', List.map_id'']
      exact fun _ => rfl
    rw [hcuts.tokens_eq, hcuts.readAll_eq, hzip, List.length_map, List.length_map]
    exact ⟨hcuts, rfl, hcuts.flatten, hcuts.nil_not_mem⟩
  · intro front rest hfront
    obtain ⟨types, htypes⟩ := exists_types hfront
    have halone := htypes []
    rw [readAll_nil, List.append_nil, List.append_nil] at halone
    rw [htypes rest, halone]

/-- Unknown letters and a class with an odd path are read as they are by themselves in front of dimensions without a
type, and these are taken off in one read. -/
theorem oddTokens_read_alone :
    IsComplete "[Q".toList ∧ IsComplete ";".toList ∧ IsComplete "[[L(/[;".toList ∧
      (read "[[".toList).2.length < "[[".length ∧
      readAll ("[Q;[[L(/[;".toList ++ "[[".toList) = readAll "[Q;[[L(/[;".toList ++ readAll "[[".toList ∧
      readAll ("[Q;[[L(/[;".toList ++ "[[".toList) = [.array 1 .void, .void, .array 2 (.object "(.["), .array 2 .void] := by
  have hfirst : IsComplete "[Q".toList := .letter 1 (by decide) (by decide)
  have hsecond : IsComplete ";".toList := .letter 0 (by decide) (by decide)
  have hthird : IsComplete "[[L(/[;".toList := @IsComplete.path 2 ['(', '/', '['] (by decide)
  obtain ⟨hprogress, _, halone⟩ := reads_cut_every_text
  have hfront : ∀ token ∈ ["[Q".toList, ";".toList, "[[L(/[;".toList], IsComplete token := by
    simp only [List.forall_mem_cons]
    exact ⟨hfirst, hsecond, hthird, List.forall_mem_nil _⟩
  exact ⟨hfirst, hsecond, hthird, (hprogress "[[".toList).2 (by decide), halone _ "[[".toList hfront, by decide +kernel⟩

end ClassStub.JavaType
