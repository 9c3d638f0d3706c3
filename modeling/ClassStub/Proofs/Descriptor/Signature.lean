import Mathlib.Data.List.TakeWhile
import ClassStub.Proofs.Descriptor.Spelling

/-!
# Where the parameters of a method end

The parameters of a method descriptor are taken to end at its first `)`. A class path may hold that character too.
If a class path in the parameters does, it is cut there, and the parameter is read as a class with a shorter name.
So the signature of a spelled method is read back exactly when no parameter is spelled with a `)`; the return type
may be.
-/

namespace ClassStub

open Text

/-- A path that a class can have: segments that are not empty and hold none of `.`, `;` and `[`. -/
def Text.IsClassPath (path : String) : Prop :=
  ∀ segment ∈ segments path,
    segment ≠ "" ∧ '.' ∉ segment.toList ∧ ';' ∉ segment.toList ∧ '[' ∉ segment.toList

/-- Whether a text is a class path is decided segment by segment. -/
instance (path : String) : Decidable (IsClassPath path) :=
  inferInstanceAs (Decidable (∀ segment ∈ segments path, _))

/-- A text is cut at the first place where a character stands. -/
lemma Text.takeWhile_ne_append {c : Char} {front : List Char} (h : c ∉ front) (rest : List Char) :
    (front ++ c :: rest).takeWhile (· ≠ c) = front := by
  rw [List.takeWhile_append_of_pos (forall_ne_of_not_mem h)]
  simp

/-- A class path without its `;` takes the rest of the text. -/
lemma JavaType.readScalar_unended {path : List Char} (h : ';' ∉ path) :
    readScalar ('L' :: path) = (.object (dotted (String.ofList path)), []) := by
  have hpath := forall_ne_of_not_mem h
  have htake : path.takeWhile (· ≠ ';') = path := List.takeWhile_eq_self_iff.2 hpath
  have hdrop : path.dropWhile (· ≠ ';') = [] := List.dropWhile_eq_nil_iff.2 hpath
  simp only [readScalar, htake, hdrop, List.drop_nil]

/-- A dotted name is as long as the name. -/
lemma length_dotted (name : String) : (dotted name).toList.length = name.toList.length := by
  simp [dotted, replaceChar]

/-- Only a class path can hold a `)`. -/
lemma ElementType.exists_path_of_mem {e : ElementType} (h : ')' ∈ e.spell) :
    ∃ path unended, e = .object path unended ∧ ')' ∈ path.toList := by
  cases e with
  | void => exact absurd h (by decide)
  | primitive p => cases p <;> exact absurd h (by decide)
  | object path unended =>
    refine ⟨path, unended, rfl, ?_⟩
    rw [spell, List.mem_cons, List.mem_append] at h
    rcases h with h | h | h
    · exact absurd h (by decide)
    · exact h
    · exact absurd h (by decide)

/-- A type that is cut at a `)` in its spelling is read as another type. -/
lemma TypeDescriptor.read_cut_ne {t : TypeDescriptor} (h : ')' ∈ t.spell) (rest : List Char) :
    (JavaType.read ((t.spell ++ rest).takeWhile (· ≠ ')'))).1 ≠ t.type := by
  have hmem : ')' ∈ t.element.spell := by
    rcases List.mem_append.1 h with hdims | helement
    · exact absurd (List.eq_of_mem_replicate hdims) (by decide)
    · exact helement
  obtain ⟨path, unended, helement, hclose⟩ := ElementType.exists_path_of_mem hmem
  obtain ⟨front, back, hpath, hfront⟩ := List.eq_append_cons_of_mem hclose
  have hcut : (t.spell ++ rest).takeWhile (· ≠ ')') = List.replicate t.dims.toNat '[' ++ 'L' :: front := by
    have hbefore : ')' ∉ List.replicate t.dims.toNat '[' ++ 'L' :: front := by
      simp [hfront]
    have hspell : t.spell ++ rest =
        (List.replicate t.dims.toNat '[' ++ 'L' :: front) ++ ')' :: (back ++ ';' :: rest) := by
      simp [spell, helement, ElementType.spell, hpath]
    rw [hspell, takeWhile_ne_append hbefore]
  have hunended : ';' ∉ front := fun hsemi => unended (hpath ▸ List.mem_append_left _ hsemi)
  have hshort : dotted (String.ofList front) ≠ dotted path := by
    intro heq
    have hlen := congrArg (fun name => name.toList.length) heq
    simp only [length_dotted, String.toList_ofList, hpath, List.length_append, List.length_cons] at hlen
    omega
  rw [hcut, JavaType.read_dims _ (by simp), JavaType.readScalar_unended hunended, type, helement]
  -- The dimensions are read as they are, so the types differ in the name of the class.
  split
  · simpa [ElementType.type] using hshort
  · simpa [ElementType.type] using hshort

/-- Parameters of which one is spelled with a `)` are not read back from the text in front of the first `)`. -/
lemma TypeDescriptor.readAll_cut_ne {params : List TypeDescriptor} (h : ∃ t ∈ params, ')' ∈ t.spell)
    (rest : List Char) :
    JavaType.readAll ((params.flatMap spell ++ rest).takeWhile (· ≠ ')')) ≠ params.map type := by
  induction params with
  | nil => simp at h
  | cons t params ih =>
    rw [List.flatMap_cons, List.append_assoc, List.map_cons]
    by_cases ht : ')' ∈ t.spell
    · -- The text ends in the first parameter, so already that one is read as another type.
      intro hread
      rw [JavaType.readAll] at hread
      split at hread
      · cases hread
      · exact read_cut_ne ht _ (List.cons_eq_cons.1 hread).1
    · have hothers : ∃ t' ∈ params, ')' ∈ t'.spell := by
        obtain ⟨t', ht', hmem⟩ := h
        rcases List.mem_cons.1 ht' with rfl | hin
        · exact absurd hmem ht
        · exact ⟨t', hin, hmem⟩
      have hread := readAll_spell [t] ((params.flatMap spell ++ rest).takeWhile (· ≠ ')'))
      rw [List.flatMap_singleton, List.map_singleton, List.singleton_append] at hread
      rw [List.takeWhile_append_of_pos (forall_ne_of_not_mem ht), hread]
      exact fun heq => ih hothers (List.cons_eq_cons.1 heq).2

/-- A spelled method has the signature that it was spelled from exactly when no parameter is spelled with a `)`. -/
theorem Signature.ofDescriptor?_spellMethod_iff (params : List TypeDescriptor) (result : TypeDescriptor) :
    ofDescriptor? (String.ofList (spellMethod params result)) =
        some ⟨params.map TypeDescriptor.type, result.type⟩ ↔
      ∀ t ∈ params, ')' ∉ t.spell := by
  constructor
  · intro h t ht hclose
    have hmem : ')' ∈ spellMethod params result := by simp [spellMethod]
    simp only [ofDescriptor?, String.toList_ofList, hmem, if_true, Option.some.injEq, Signature.mk.injEq] at h
    refine TypeDescriptor.readAll_cut_ne ⟨t, ht, hclose⟩ (')' :: result.spell) ?_
    rw [← h.1, spellMethod, List.takeWhile_cons_of_pos (by decide), stripOpen]
  · intro h
    exact ofDescriptor?_spellMethod h

/-- A method with a parameter of the class `a)b`, which is a path that a class can have, is read as one with a
parameter of the class `a`. -/
theorem Signature.ofDescriptor?_parenthesis_in_path :
    IsClassPath "a)b" ∧
      String.ofList (spellMethod [⟨0, .object "a)b" (by decide)⟩] ⟨0, .void⟩) = "(La)b;)V" ∧
      ofDescriptor? "(La)b;)V" = some ⟨[.object "a"], .void⟩ ∧
      ofDescriptor? "(La)b;)V" ≠ some ⟨[.object "a)b"], .void⟩ := by
  have hparams : JavaType.readAll ['L', 'a'] = [.object "a"] := by
    have hnext : JavaType.read ['L', 'a'] = (.object "a", []) := by decide
    rw [JavaType.readAll, dif_neg (by decide)]
    simp only [hnext]
    rw [JavaType.readAll, dif_pos rfl]
  have hread : ofDescriptor? "(La)b;)V" = some ⟨[.object "a"], .void⟩ := by
    rw [← hparams]
    rfl
  refine ⟨by decide, by decide, hread, ?_⟩
  rw [hread]
  decide

end ClassStub
