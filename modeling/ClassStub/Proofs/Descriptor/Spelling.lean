import ClassStub.Descriptor.Signature
import ClassStub.Proofs.Text.Segments

/-!
# Spelled types

A `TypeDescriptor` is a type as class files spell it: up to 255 array dimensions over a primitive type, void or a
class path. Reading the spelling of a type gives the type back, whatever follows, and reading all types of a text
takes the spelled ones first; so a method descriptor that is spelled from its types has them as its signature.
-/

namespace ClassStub

/-- A spelled type that is not an array. A class path ends at the first `;`. -/
inductive ElementType where
  | void
  | primitive (p : Primitive)
  | object (path : String) (unended : ';' ∉ path.toList)
  deriving DecidableEq

/-- A spelled type: array dimensions over a type that is not an array. -/
structure TypeDescriptor where
  dims : UInt8
  element : ElementType
  deriving DecidableEq

/-- A class path ends at its `;`, whatever follows. -/
lemma JavaType.readScalar_path {path : List Char} (h : ';' ∉ path) (rest : List Char) :
    readScalar ('L' :: (path ++ ';' :: rest)) = (.object (dotted (String.ofList path)), rest) := by
  have hpath := Text.forall_ne_of_not_mem h
  rw [readScalar, List.takeWhile_append_of_pos hpath, List.dropWhile_append_of_pos hpath]
  simp

namespace ElementType

/-- How a class file spells the type. -/
def spell : ElementType → List Char
  | void => ['V']
  | primitive p => [p.letter]
  | object path _ => 'L' :: (path.toList ++ [';'])

/-- The type that is spelled. -/
def type : ElementType → JavaType
  | void => .void
  | primitive p => .primitive p
  | object path _ => .object (dotted path)

/-- Java source for the type. -/
def text : ElementType → String
  | void => "void"
  | primitive p => p.keyword
  | object path _ => ".".intercalate (Text.segments path)

/-- An element type is spelled with at least one character, which is no bracket. -/
lemma spell_eq_cons (e : ElementType) : ∃ c cs, e.spell = c :: cs ∧ c ≠ '[' := by
  cases e with
  | void => exact ⟨_, _, rfl, by decide⟩
  | primitive p => exact ⟨_, _, rfl, by cases p <;> decide⟩
  | object path unended => exact ⟨_, _, rfl, by decide⟩

/-- A spelled element type is read back in front of any text. -/
lemma readScalar_spell (e : ElementType) (rest : List Char) :
    JavaType.readScalar (e.spell ++ rest) = (e.type, rest) := by
  cases e with
  | void => rfl
  | primitive p => cases p <;> rfl
  | object path unended =>
    have hread := JavaType.readScalar_path unended rest
    rw [String.ofList_toList] at hread
    rw [spell, List.cons_append, List.append_assoc]
    exact hread

/-- An element type is displayed as Java writes it. -/
lemma display_type (e : ElementType) : e.type.display = e.text := by
  cases e with
  | void => rfl
  | primitive p => rfl
  | object path unended => exact dotted_eq_intercalate path

end ElementType

/-- A text is cut between its dimensions and the type behind them. -/
lemma JavaType.cut_replicate (n : Nat) {u : List Char} (hu : u.head? ≠ some '[') :
    (List.replicate n '[' ++ u).takeWhile (· = '[') = List.replicate n '[' ∧
      (List.replicate n '[' ++ u).dropWhile (· = '[') = u := by
  have hdims : ∀ x ∈ List.replicate n '[', decide (x = '[') = true := by
    intro x hx
    exact decide_eq_true (List.eq_of_mem_replicate hx)
  rw [List.takeWhile_append_of_pos hdims, List.dropWhile_append_of_pos hdims]
  cases u with
  | nil => exact ⟨List.append_nil _, rfl⟩
  | cons c cs =>
    have hc : c ≠ '[' := fun h => hu (h ▸ rfl)
    simp [hc]

/-- Array dimensions in front of a type are counted, and the type behind them is read once. -/
lemma JavaType.read_replicate (n : Nat) {u : List Char} (hu : u.head? ≠ some '[') :
    read (List.replicate n '[' ++ u) =
      (if n = 0 then (readScalar u).1 else if n ≤ maxDims then .array n (readScalar u).1 else .void,
        (readScalar u).2) := by
  obtain ⟨hfront, hback⟩ := cut_replicate n hu
  simp only [read, hfront, hback, List.length_replicate]
  split
  · rfl
  · split <;> rfl

/-- All of up to 255 dimensions are kept. -/
lemma JavaType.read_dims (dims : UInt8) {u : List Char} (hu : u.head? ≠ some '[') :
    read (List.replicate dims.toNat '[' ++ u) =
      (if dims = 0 then (readScalar u).1 else .array dims.toNat (readScalar u).1, (readScalar u).2) := by
  have hmax : dims.toNat ≤ maxDims := Nat.le_of_lt_succ dims.toNat_lt
  rw [read_replicate _ hu]
  by_cases hzero : dims = 0
  · simp [hzero]
  · have hval : ¬ dims.toNat = 0 := fun h => hzero (UInt8.toNat_inj.1 h)
    simp [hzero, hval, hmax]

/-- An empty text has no types. -/
lemma JavaType.readAll_nil : readAll [] = [] := by
  rw [readAll, dif_pos rfl]

/-- What one read takes off the front of a text gives the first of its types. -/
lemma JavaType.readAll_append {piece rest : List Char} {type : JavaType} (hne : piece ≠ [])
    (hread : read (piece ++ rest) = (type, rest)) : readAll (piece ++ rest) = type :: readAll rest := by
  have hall : piece ++ rest ≠ [] := List.append_ne_nil_of_left_ne_nil hne rest
  rw [readAll, dif_neg hall]
  simp only [hread]

namespace TypeDescriptor

/-- How a class file spells the type. -/
def spell (t : TypeDescriptor) : List Char := List.replicate t.dims.toNat '[' ++ t.element.spell

/-- The type that is spelled. -/
def type (t : TypeDescriptor) : JavaType :=
  if t.dims = 0 then t.element.type else .array t.dims.toNat t.element.type

/-- Java source for the type. -/
def text (t : TypeDescriptor) : String := t.element.text ++ String.join (List.replicate t.dims.toNat "[]")

/-- The type is void, not an array of it. -/
def isVoid (t : TypeDescriptor) : Bool :=
  match t.element with
  | .void => t.dims = 0
  | _ => false

/-- Reading takes exactly the spelling of a type off the front of a text. -/
lemma read_spell (t : TypeDescriptor) (rest : List Char) : JavaType.read (t.spell ++ rest) = (t.type, rest) := by
  have hhead : (t.element.spell ++ rest).head? ≠ some '[' := by
    obtain ⟨c, cs, hspell, hc⟩ := t.element.spell_eq_cons
    simp [hspell, hc]
  rw [spell, List.append_assoc, JavaType.read_dims _ hhead, t.element.readScalar_spell, type]

/-- The spelling of a type is not empty. -/
lemma spell_ne_nil (t : TypeDescriptor) : t.spell ≠ [] := by
  obtain ⟨c, cs, hspell, _⟩ := t.element.spell_eq_cons
  simp [spell, hspell]

/-- Reading all types takes the spelled ones in front, then goes on with the rest. -/
lemma readAll_spell (ts : List TypeDescriptor) (rest : List Char) :
    JavaType.readAll (ts.flatMap spell ++ rest) = ts.map type ++ JavaType.readAll rest := by
  induction ts with
  | nil => rfl
  | cons t ts ih =>
    rw [List.flatMap_cons, List.append_assoc, JavaType.readAll_append t.spell_ne_nil (t.read_spell _), ih,
      List.map_cons, List.cons_append]

/-- Spelled types are read back, whatever follows them: one at a time, and all of a row in order. A class path has
`.` where it had `/`. -/
theorem spelled_types_read_back (rest : List Char) :
    (∀ t : TypeDescriptor, JavaType.read (t.spell ++ rest) = (t.type, rest)) ∧
      (∀ ts : List TypeDescriptor,
        JavaType.readAll (ts.flatMap spell ++ rest) = ts.map type ++ JavaType.readAll rest) ∧
      ∀ path unended, (ElementType.object path unended).type = .object (".".intercalate (Text.segments path)) := by
  refine ⟨fun t => t.read_spell rest, fun ts => readAll_spell ts rest, ?_⟩
  intro path unended
  rw [ElementType.type, dotted_eq_intercalate]

/-- A class whose path has the marks of descriptors in it, and an array of void, in front of a class without an end. -/
theorem markedTypes_read_back :
    ';' ∉ "p/[a)".toList ∧
      JavaType.read "[[Lp/[a);[VLq/b".toList = (.array 2 (.object "p.[a)"), "[VLq/b".toList) ∧
      JavaType.readAll "[[Lp/[a);[VLq/b".toList = [.array 2 (.object "p.[a)"), .array 1 .void, .object "q.b"] := by
  have hrest : JavaType.readAll "Lq/b".toList = [.object "q.b"] := by decide +kernel
  have unended : ';' ∉ "p/[a)".toList := by decide
  obtain ⟨hone, _, hpath⟩ := spelled_types_read_back "[VLq/b".toList
  obtain ⟨_, hall, _⟩ := spelled_types_read_back "Lq/b".toList
  refine ⟨unended, ?_, ?_⟩
  · have h := hone ⟨2, .object "p/[a)" unended⟩
    rw [type, hpath] at h
    exact h
  · have h := hall [⟨2, .object "p/[a)" unended⟩, ⟨1, .void⟩]
    rw [hrest] at h
    exact h

/-- A spelled type is void exactly if it is the one without a value. -/
lemma isVoid_type (t : TypeDescriptor) : t.type.isVoid = t.isVoid := by
  rw [type, isVoid]
  by_cases hzero : t.dims = 0
  · rw [if_pos hzero]
    cases t.element <;> simp [ElementType.type, JavaType.isVoid, hzero]
  · rw [if_neg hzero]
    cases t.element <;> simp [JavaType.isVoid, hzero]

/-- A type is displayed as Java writes it. -/
lemma display_type (t : TypeDescriptor) : t.type.display = t.text := by
  rw [type, text]
  by_cases hzero : t.dims = 0
  · rw [if_pos hzero, t.element.display_type, hzero]
    simp
  · rw [if_neg hzero, JavaType.display, t.element.display_type]

end TypeDescriptor

/-- The descriptor of a method, spelled from its types. -/
def spellMethod (params : List TypeDescriptor) (result : TypeDescriptor) : List Char :=
  '(' :: (params.flatMap TypeDescriptor.spell ++ ')' :: result.spell)

/-- The first `)` of a spelled method descriptor is the one behind the parameters. -/
lemma cut_spellMethod {params : List TypeDescriptor} {result : TypeDescriptor}
    (hparams : ∀ t ∈ params, ')' ∉ t.spell) :
    (spellMethod params result).takeWhile (· ≠ ')') = '(' :: params.flatMap TypeDescriptor.spell ∧
      (spellMethod params result).dropWhile (· ≠ ')') = ')' :: result.spell := by
  have hmem : ')' ∉ '(' :: params.flatMap TypeDescriptor.spell := by
    intro hc
    rcases List.mem_cons.1 hc with hopen | hmem
    · exact absurd hopen (by decide)
    · obtain ⟨t, ht, hspell⟩ := List.mem_flatMap.1 hmem
      exact hparams t ht hspell
  have hfront := Text.forall_ne_of_not_mem hmem
  rw [spellMethod, ← List.cons_append, List.takeWhile_append_of_pos hfront, List.dropWhile_append_of_pos hfront]
  simp

/-- A spelled method descriptor has the signature that it was spelled from. -/
lemma Signature.ofDescriptor?_spellMethod {params : List TypeDescriptor} {result : TypeDescriptor}
    (hparams : ∀ t ∈ params, ')' ∉ t.spell) :
    ofDescriptor? (String.ofList (spellMethod params result)) =
      some ⟨params.map TypeDescriptor.type, result.type⟩ := by
  obtain ⟨hfront, hback⟩ := @cut_spellMethod params result hparams
  have hmem : ')' ∈ spellMethod params result := by simp [spellMethod]
  have hall := TypeDescriptor.readAll_spell params []
  have hresult := result.read_spell []
  rw [List.append_nil] at hall hresult
  rw [JavaType.readAll_nil, List.append_nil] at hall
  simp only [ofDescriptor?, String.toList_ofList, hmem, if_true, hfront, hback]
  simp [stripOpen, hall, hresult]

end ClassStub
