import Mathlib.Data.List.TakeWhile
import ClassStub.Proofs.Descriptor.Cutting

/-!
# The shape of types that are read

Whatever text it is read from, a type that is an array has 1 to 255 dimensions over a type that is not an array, and
Java source for the type has neither the slashes nor the semicolons of descriptors: `JavaType.IsRegular`. It holds of
one read, so of all types of a text and of the types of a signature. Too many dimensions make a type void, but the
read still ends where the type behind them does; `JavaType.readTraced` reads that type by reading again, and lists
the texts that it reads again.
-/

namespace ClassStub

namespace JavaType

/-- The type is an array. -/
def isArray : JavaType → Bool
  | array _ _ => true
  | _ => false

/-- An array has 1 to 255 dimensions over a type that is not an array. -/
def HasFlatElement : JavaType → Prop
  | array dims element => 1 ≤ dims ∧ dims ≤ 255 ∧ element.isArray = false
  | _ => True

/-- What is true of every type that is read. -/
structure IsRegular (t : JavaType) : Prop where
  flat : t.HasFlatElement
  slash_not_mem : '/' ∉ t.display.toList
  semicolon_not_mem : ';' ∉ t.display.toList

/-- Takes one type off the front of a text, and the type behind dimensions by reading again: with the texts that are
read again on the way. -/
def readTraced (cs : List Char) : (JavaType × List Char) × List (List Char) :=
  match cs with
  | '[' :: inner =>
    let dims := (inner.takeWhile (· = '[')).length + 1
    let behind := inner.dropWhile (· = '[')
    let ((element, rest), again) := readTraced behind
    ((if dims ≤ maxDims then array dims element else void, rest), behind :: again)
  | cs => (readScalar cs, [])
termination_by cs.length
decreasing_by
  exact Nat.lt_succ_of_le (List.dropWhile_sublist _).length_le

/-! ### Types of one read -/

/-- A scalar type is no array. -/
lemma isArray_readScalar (cs : List Char) : (readScalar cs).1.isArray = false := by
  unfold readScalar
  split
  · rfl
  · rfl
  · split <;> rfl

/-- The word for a primitive type has neither a slash nor a semicolon. -/
lemma not_mem_keyword (p : Primitive) : '/' ∉ p.keyword.toList ∧ ';' ∉ p.keyword.toList := by
  cases p <;> decide

/-- Nothing is wrong with the type that stands for no type. -/
lemma isRegular_void : IsRegular void := ⟨trivial, by decide, by decide⟩

/-- A scalar type that was read is regular. -/
lemma isRegular_readScalar (cs : List Char) : (readScalar cs).1.IsRegular := by
  unfold readScalar
  split
  · exact isRegular_void
  · rename_i cs
    refine ⟨trivial, slash_not_mem_dotted _, ?_⟩
    intro hsemi
    obtain ⟨-, hdot | hpath⟩ := mem_dotted hsemi
    · exact absurd hdot (by decide)
    · -- The path is what stands in front of the first semicolon.
      rw [String.toList_ofList] at hpath
      simpa using List.mem_takeWhile_imp hpath
  · split
    · rename_i p _
      obtain ⟨hslash, hsemi⟩ := not_mem_keyword p
      exact ⟨trivial, hslash, hsemi⟩
    · exact isRegular_void

/-- The text of an array has only brackets behind the text of its element. -/
lemma not_mem_display_array {dims : Nat} {element : JavaType} {c : Char} (h : c ∉ element.display.toList)
    (hbracket : c ∉ "[]".toList) : c ∉ (array dims element).display.toList := by
  rw [display, String.toList_append, List.mem_append, String.toList_join, List.flatMap_replicate, not_or]
  refine ⟨h, fun hmem => ?_⟩
  obtain ⟨pair, hpair, hc⟩ := List.mem_flatten.1 hmem
  obtain rfl := List.eq_of_mem_replicate hpair
  exact hbracket hc

/-- An array over a flat element is as regular as its element. -/
lemma IsRegular.array {dims : Nat} {element : JavaType} (helement : element.IsRegular)
    (hflat : (JavaType.array dims element).HasFlatElement) : (JavaType.array dims element).IsRegular where
  flat := hflat
  slash_not_mem := not_mem_display_array helement.slash_not_mem (by decide)
  semicolon_not_mem := not_mem_display_array helement.semicolon_not_mem (by decide)

/-- Any type that was read is regular. -/
lemma isRegular_read (cs : List Char) : (read cs).1.IsRegular := by
  have hscalar := isRegular_readScalar (cs.dropWhile (· = '['))
  simp only [read]
  split
  · exact hscalar
  · split
    · rename_i hzero hmax
      exact hscalar.array ⟨Nat.pos_of_ne_zero hzero, hmax, isArray_readScalar _⟩
    · exact isRegular_void

/-! ### Types of a whole text -/

/-- All types of a text are regular. -/
lemma isRegular_of_mem_readAll {cs : List Char} {t : JavaType} (h : t ∈ readAll cs) : t.IsRegular := by
  obtain ⟨cuts, hcuts⟩ := exists_cuts cs
  rw [hcuts.readAll_eq] at h
  obtain ⟨part, rfl⟩ := hcuts.exists_read h
  exact isRegular_read part

/-- The types of a signature are regular. -/
lemma isRegular_of_ofDescriptor? {descriptor : String} {signature : Signature}
    (h : Signature.ofDescriptor? descriptor = some signature) :
    signature.result.IsRegular ∧ ∀ t ∈ signature.params, t.IsRegular := by
  rw [Signature.ofDescriptor?] at h
  split at h
  · cases h
    exact ⟨isRegular_read _, fun t => isRegular_of_mem_readAll⟩
  · cases h

/-! ### Reading the type behind dimensions -/

section

variable {u : List Char}

/-- A text that does not begin with a bracket is read as a scalar type. -/
lemma read_of_head (hu : u.head? ≠ some '[') : read u = readScalar u := read_replicate 0 hu

/-- A text that does not begin with a bracket is read once. -/
lemma readTraced_of_head (hu : u.head? ≠ some '[') : readTraced u = (read u, []) := by
  rw [read_of_head hu, readTraced]
  rintro inner rfl
  exact hu rfl

/-- Behind dimensions, one text is read again: the one that begins with the type. -/
lemma readTraced_replicate (n : Nat) (hu : u.head? ≠ some '[') :
    readTraced (List.replicate (n + 1) '[' ++ u) = (read (List.replicate (n + 1) '[' ++ u), [u]) := by
  obtain ⟨hfront, hback⟩ := cut_replicate n hu
  rw [List.replicate_succ, List.cons_append, readTraced]
  simp only [hfront, hback, readTraced_of_head hu, List.length_replicate]
  rw [← List.cons_append, ← List.replicate_succ, read_replicate _ hu, read_of_head hu]
  simp

end

/-- Every type that is read is regular, of whatever text: by itself, in a row, or in a signature. Dimensions in front
of a type leave what the type leaves; up to 255 of them make an array of it, more make it void, and either way only
the text that begins with the type is read again, and nothing is read again for that. -/
theorem types_of_any_text_are_regular :
    (∀ cs, (read cs).1.IsRegular) ∧ (∀ cs, ∀ t ∈ readAll cs, t.IsRegular) ∧
      (∀ descriptor signature, Signature.ofDescriptor? descriptor = some signature →
        signature.result.IsRegular ∧ ∀ t ∈ signature.params, t.IsRegular) ∧
      ∀ (n : Nat) (u : List Char), 1 ≤ n → u.head? ≠ some '[' →
        (read (List.replicate n '[' ++ u)).2 = (read u).2 ∧
          (read (List.replicate n '[' ++ u)).1 = (if n ≤ 255 then .array n (read u).1 else .void) ∧
          readTraced (List.replicate n '[' ++ u) = (read (List.replicate n '[' ++ u), [u]) ∧
          readTraced u = (read u, []) := by
  refine ⟨isRegular_read, fun cs t => isRegular_of_mem_readAll, fun _ _ => isRegular_of_ofDescriptor?, ?_⟩
  intro n u hn hu
  obtain ⟨m, rfl⟩ := Nat.exists_eq_add_of_le' hn
  have hread := read_replicate (m + 1) hu
  rw [if_neg (Nat.succ_ne_zero m), ← read_of_head hu] at hread
  refine ⟨?_, ?_, readTraced_replicate m hu, readTraced_of_head hu⟩
  · rw [hread]
  · rw [hread]
    rfl

/-- A signature with an unknown letter and dimensions without a type, and a class with one dimension too many, which
is void, in front of a type that is left. -/
theorem oddSignature_types_are_regular :
    Signature.ofDescriptor? "([Lp/q;?[)[[V" = some ⟨[.array 1 (.object "p.q"), .void, .array 1 .void], .array 2 .void⟩ ∧
      (array 2 void).IsRegular ∧ .array 1 (.object "p.q") ∈ readAll "[Lp/q;?[".toList ∧
      (array 1 (.object "p.q")).IsRegular ∧ 1 ≤ 256 ∧ "Lp/q;J".toList.head? ≠ some '[' ∧
      read (List.replicate 256 '[' ++ "Lp/q;J".toList) = (.void, ['J']) ∧
      (readTraced (List.replicate 256 '[' ++ "Lp/q;J".toList)).2 = ["Lp/q;J".toList] := by
  obtain ⟨_, hall, hsignature, hdims⟩ := types_of_any_text_are_regular
  have hread : Signature.ofDescriptor? "([Lp/q;?[)[[V" =
      some ⟨[.array 1 (.object "p.q"), .void, .array 1 .void], .array 2 .void⟩ := by decide +kernel
  have hmem : .array 1 (.object "p.q") ∈ readAll "[Lp/q;?[".toList := by decide +kernel
  have hhead : "Lp/q;J".toList.head? ≠ some '[' := by decide
  obtain ⟨hrest, htype, htraced, _⟩ := hdims 256 _ (by decide) hhead
  refine ⟨hread, (hsignature _ _ hread).1, hmem, hall _ _ hmem, by decide, hhead, ?_, ?_⟩
  · exact Prod.ext htype hrest
  · rw [htraced]

end JavaType

end ClassStub
