import ClassStub.Proofs.ClassFile.Grammar

/-!
# Tables are bounded by the input

A table begins with the number of its rows, and a file can announce any number. Whoever reads a table can set room
aside for the announced rows, but for no more than can follow (`rowsSetAside`). A table that was read to its end has the
announced number of rows, and each took the bytes of its encoding, so the room that was set aside is just enough. For
the same reason, the tables of an accepted class file are bounded by the size of the file.
-/

namespace ClassStub.ClassFile

/-- For how many rows of a table room is set aside: for the announced ones, but for no more than the bytes behind the
count can hold when a row has a smallest size. -/
def rowsSetAside (smallestRow : Nat) (count : UInt16) (left : Bytes) : Nat :=
  min count.toNat (left.length / smallestRow)

/-- A number of two bytes is encoded as two bytes. -/
@[simp]
lemma length_encodeU2 (n : UInt16) : (encodeU2 n).length = 2 := Bytes.length_ofNumber 2 n.toNat

/-- Rows of a least size take up at least that size for each of them. -/
lemma mul_length_le_length_flatMap {α : Type} {encode : α → Bytes} {smallestRow : Nat}
    (hrow : ∀ x, smallestRow ≤ (encode x).length) (xs : List α) :
    smallestRow * xs.length ≤ (xs.flatMap encode).length := by
  induction xs with
  | nil => simp
  | cons x xs ih =>
    have hx := hrow x
    rw [List.flatMap_cons, List.length_append, List.length_cons, Nat.mul_succ]
    omega

/-- A table takes up its count and at least the least size for each row. -/
lemma le_length_encodeTable {α : Type} {encode : α → Bytes} {smallestRow : Nat}
    (hrow : ∀ x, smallestRow ≤ (encode x).length) (xs : List α) :
    2 + smallestRow * xs.length ≤ (encodeTable encode xs).length := by
  rw [encodeTable, List.length_append, Bytes.length_ofNumber]
  exact Nat.add_le_add_left (mul_length_le_length_flatMap hrow xs) 2

/-- A table that was read has the announced number of rows, and its rows fit in the bytes behind the count. -/
lemma Reader.Decodes.counted_eq_ok {α χ : Type} {read : Reader α} {Valid : χ → Prop} {encode : χ → Bytes}
    {meaning : χ → Except Fault α} (dec : Decodes read Valid encode meaning) {smallestRow : Nat}
    (hrow : ∀ x, smallestRow ≤ (encode x).length) {input rest : Bytes} {as : List α}
    (h : (Reader.counted read).run input = .ok (as, rest)) :
    ∃ count left used, u2.run input = .ok (count, left) ∧ as.length = count.toNat ∧
      input = used ++ rest ∧ 2 + smallestRow * as.length ≤ used.length ∧ smallestRow * count.toNat ≤ left.length := by
  obtain ⟨xs, ⟨hlen, -⟩, hmeaning, rfl⟩ := dec.counted.run_eq_ok_iff.1 h
  have hrows : xs.length = as.length := (mapM_eq_ok_iff.1 hmeaning).length_eq
  have hcount : (UInt16.ofNat xs.length).toNat = xs.length := UInt16.toNat_ofNat_of_lt' hlen
  refine ⟨UInt16.ofNat xs.length, xs.flatMap encode ++ rest, encodeTable encode xs, ?_, ?_, rfl, ?_, ?_⟩
  · rw [encodeTable, List.append_assoc, ← encodeU2_ofNat hlen, run_u2_encode]
  · rw [hcount, hrows]
  · rw [← hrows]
    exact le_length_encodeTable hrow xs
  · rw [hcount, List.length_append]
    exact Nat.le_add_right_of_le (mul_length_le_length_flatMap hrow xs)

/-- An attribute takes up at least its name and its length. -/
lemma Attribute.le_length_encode (a : Attribute) : 6 ≤ a.encode.length := by
  simp only [Attribute.encode, List.length_append, length_encodeU2, Bytes.length_ofNumber]
  omega

/-- A member takes up at least its four numbers. -/
lemma StoredMember.le_length_encode (m : StoredMember) : 8 ≤ m.encode.length := by
  have hattributes := le_length_encodeTable Attribute.le_length_encode m.attributes
  simp only [StoredMember.encode, List.length_append, length_encodeU2]
  omega

/-- A layout takes up at least what its tables of interfaces and members need, and all that stands in front and between.
-/
lemma Layout.le_length_encode (c : Layout) :
    2 * c.interfaces.length + 8 * (c.fields.length + c.methods.length) + 24 ≤ c.encode.length := by
  have hinterfaces := le_length_encodeTable (fun i => Nat.le_of_eq (length_encodeU2 i).symm) c.interfaces
  have hfields := le_length_encodeTable StoredMember.le_length_encode c.fields
  have hmethods := le_length_encodeTable StoredMember.le_length_encode c.methods
  have hattributes := le_length_encodeTable Attribute.le_length_encode c.attributes
  simp only [encode, List.length_append, length_encodeU2, Bytes.length_ofNumber]
  omega

/-- A table of members that is read in front of anything and with any pool has the announced number of members. They
take two bytes for the count and eight for each member at least, so their number is not larger than an eighth of the
bytes behind the count, and the room that is set aside holds all of them. In an accepted class file the tables of
interfaces, fields and methods are bounded by the size of the file. -/
theorem tables_are_bounded :
    (∀ (pool : Pool) (input : Bytes) (members : List Member) (rest : Bytes),
      (Reader.counted (readMember pool)).run input = .ok (members, rest) →
        ∃ count left used, Reader.u2.run input = .ok (count, left) ∧ members.length = count.toNat ∧
          input = used ++ rest ∧ 2 + 8 * members.length ≤ used.length ∧
          count.toNat ≤ left.length / 8 ∧ rowsSetAside 8 count left = members.length) ∧
      ∀ (b : Bytes) (file : ClassFile), parse b = .ok file →
        2 * file.declaration.interfaces.length +
          8 * (file.declaration.fields.length + file.declaration.methods.length) + 24 ≤ b.length := by
  constructor
  · intro pool input members rest h
    obtain ⟨count, left, used, hcount, hlen, hinput, hused, hleft⟩ :=
      (decodes_member pool).counted_eq_ok StoredMember.le_length_encode h
    have hfits : count.toNat ≤ left.length / 8 := by omega
    refine ⟨count, left, used, hcount, hlen, hinput, hused, hfits, ?_⟩
    rw [rowsSetAside, Nat.min_eq_left hfits, hlen]
  · intro b file h
    obtain ⟨c, -, rfl, hresolve⟩ := parse_eq_ok_iff_resolve.1 h
    obtain ⟨-, -, hdenotes⟩ := Layout.resolve_eq_ok_iff.1 hresolve
    have hinterfaces := hdenotes.interfaces.length_eq
    have hfields := hdenotes.fields.length_eq
    have hmethods := hdenotes.methods.length_eq
    have hsize := c.le_length_encode
    omega

/-- A class `A` with a field that has an attribute. -/
def singleFieldLayout : Layout where
  minorVersion := 0
  majorVersion := 52
  items := [.utf8 [65], .classRef 1]
  access := 0x0021
  thisClass := 2
  superclass := 0
  interfaces := []
  fields := [⟨0, 1, 1, [⟨1, [7]⟩]⟩]
  methods := []
  attributes := []

/-- A pool with a text in slot 1. -/
def singleTextPool : Pool := ⟨#[none, some (.utf8 "x")]⟩

/-- A member that is named and described by that text, with a byte behind it. -/
def singleMember : Bytes := [0, 0, 0, 1, 0, 1, 0, 0, 0xFF]

/-- For the table with a single member just one row is set aside, and the file with a field is as large as its tables
need. -/
theorem singleFieldLayout_tables_are_bounded :
    (∃ members, (Reader.counted (readMember singleTextPool)).run (encodeU2 1 ++ singleMember) = .ok (members, [0xFF]) ∧
      members.length = 1 ∧ rowsSetAside 8 1 singleMember = members.length) ∧
      ∃ file, parse singleFieldLayout.encode = .ok file ∧
        2 * file.declaration.interfaces.length +
          8 * (file.declaration.fields.length + file.declaration.methods.length) + 24 ≤
            singleFieldLayout.encode.length := by
  obtain ⟨hmembers, hfiles⟩ := tables_are_bounded
  obtain ⟨members, hread⟩ : ∃ members, (Reader.counted (readMember singleTextPool)).run
      (encodeU2 1 ++ singleMember) = .ok (members, [0xFF]) := ⟨_, rfl⟩
  obtain ⟨file, hparse⟩ : ∃ file, parse singleFieldLayout.encode = .ok file := ⟨_, rfl⟩
  obtain ⟨count, left, used, hcount, hlen, -, -, -, hroom⟩ := hmembers _ _ _ _ hread
  have hannounced := Reader.run_u2_encode 1 singleMember
  obtain ⟨rfl, rfl⟩ := Prod.mk.inj (Except.ok.inj (hannounced.symm.trans hcount))
  exact ⟨⟨members, hread, hlen, hroom⟩, file, hparse, hfiles _ _ hparse⟩

end ClassStub.ClassFile
