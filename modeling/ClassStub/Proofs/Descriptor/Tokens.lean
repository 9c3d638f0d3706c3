import ClassStub.Proofs.Descriptor.Spelling

/-!
# Tokens of descriptors

Reading the types of a text cuts the text into tokens, one for each type. The tokens of spelled types are their
spellings, so the parameter descriptors of a method are those that its descriptor was spelled from.
-/

namespace ClassStub

/-- What each read of a type takes off a text, in order. -/
def JavaType.tokens (cs : List Char) : List (List Char) :=
  if _h : cs = [] then []
  else
    let rest := (read cs).2
    cs.take (cs.length - rest.length) :: tokens rest
termination_by cs.length
decreasing_by exact read_length_lt _h

/-- The descriptors of the parameters of a method. -/
def Member.paramDescriptors (m : Member) : List String :=
  (JavaType.tokens (Signature.stripOpen (m.descriptor.toList.takeWhile (· ≠ ')')))).map String.ofList

/-- The descriptor of the result of a method. -/
def Member.resultDescriptor (m : Member) : String :=
  String.ofList ((m.descriptor.toList.dropWhile (· ≠ ')')).drop 1)

/-- An empty text has no tokens. -/
lemma JavaType.tokens_nil : tokens [] = [] := by
  rw [tokens, dif_pos rfl]

/-- What one read takes off the front of a text is its first token. -/
lemma JavaType.tokens_append {piece rest : List Char} {type : JavaType} (hne : piece ≠ [])
    (hread : read (piece ++ rest) = (type, rest)) : tokens (piece ++ rest) = piece :: tokens rest := by
  have hall : piece ++ rest ≠ [] := List.append_ne_nil_of_left_ne_nil hne rest
  rw [tokens, dif_neg hall]
  simp only [hread, List.length_append, Nat.add_sub_cancel, List.take_left]

/-- The tokens of spelled types are their spellings. -/
lemma JavaType.tokens_spell (ts : List TypeDescriptor) :
    tokens (ts.flatMap TypeDescriptor.spell) = ts.map TypeDescriptor.spell := by
  induction ts with
  | nil => rw [List.flatMap_nil, tokens_nil, List.map_nil]
  | cons t ts ih => rw [List.flatMap_cons, tokens_append t.spell_ne_nil (t.read_spell _), ih, List.map_cons]

section

variable {m : Member} {params : List TypeDescriptor} {result : TypeDescriptor}

/-- The parameter descriptors of a method are the spellings of its parameters, unless one of these closes the list. -/
lemma Member.paramDescriptors_eq (hdesc : m.descriptor = String.ofList (spellMethod params result))
    (hparams : ∀ t ∈ params, ')' ∉ t.spell) :
    m.paramDescriptors = params.map fun t => String.ofList t.spell := by
  rw [paramDescriptors, hdesc, String.toList_ofList, (cut_spellMethod hparams).1, Signature.stripOpen,
    JavaType.tokens_spell, List.map_map]
  rfl

/-- The result descriptor of a method is the spelling of its result, unless a parameter closes the list. -/
lemma Member.resultDescriptor_eq (hdesc : m.descriptor = String.ofList (spellMethod params result))
    (hparams : ∀ t ∈ params, ')' ∉ t.spell) : m.resultDescriptor = String.ofList result.spell := by
  rw [resultDescriptor, hdesc, String.toList_ofList, (cut_spellMethod hparams).2, List.drop_one, List.tail_cons]

end

end ClassStub
