import ClassStub.ClassFile.Parse
import ClassStub.Proofs.ClassFile.ConstantPool

/-!
# The grammar of class files

The parser accepts exactly the encodings of layouts in which every text decodes and every reference that is
followed names a constant of the right kind; the class file that it gives is the layout with the references
replaced by the decoded texts (`Layout.Denotes`). The lemmas show of each reader of the parser which part of a
layout it reads and how it resolves it. `parse_encode_append` runs the whole parser on the encoding of a layout
with anything behind it, and `parse_eq_ok_iff_resolve` says that there is a layout behind whatever is accepted.
-/

namespace ClassStub.ClassFile

open Reader

/-- Whether an item can be encoded is decided by its size. -/
instance Item.decidableEncodable (item : Item) : Decidable item.Encodable :=
  match item with
  | .utf8 encoded => inferInstanceAs (Decidable (encoded.length < 0x10000))
  | .classRef _ => .isTrue trivial
  | .other k payload => inferInstanceAs (Decidable (k ≠ .utf8 ∧ k ≠ .classRef ∧ payload.length = k.payloadSize))

/-- Whether an attribute can be encoded is decided by its size. -/
instance Attribute.decidableEncodable (a : Attribute) : Decidable a.Encodable :=
  inferInstanceAs (Decidable (_ < _))

/-- Whether a member can be encoded is decided by its attributes. -/
instance StoredMember.decidableEncodable (m : StoredMember) : Decidable m.Encodable :=
  inferInstanceAs (Decidable (_ ∧ _))

/-- Whether a layout can be encoded is decided by its tables. -/
instance Layout.decidableEncodable (c : Layout) : Decidable c.Encodable :=
  inferInstanceAs (Decidable (_ ∧ _))

/-- An attribute is skipped by its length. -/
lemma decodes_attribute :
    Decodes skipAttribute Attribute.Encodable Attribute.encode (fun _ => .ok ()) where
  run_encode {a} rest henc := by
    have hsize : u4.run (Bytes.ofNumber 4 a.content.length ++ (a.content ++ rest)) =
        .ok (UInt32.ofNat a.content.length, a.content ++ rest) := by
      have h := decodes_u4.run_encode (a.content ++ rest) (x := UInt32.ofNat a.content.length) trivial
      rw [UInt32.toNat_ofNat_of_lt' henc] at h
      exact h
    have hbytes := run_bytes_append a.content rest
    rw [← UInt32.toNat_ofNat_of_lt' (n := a.content.length) henc] at hbytes
    rw [skipAttribute, Attribute.encode, List.append_assoc, List.append_assoc,
      run_bind_of_ok (run_u2_encode _ _), run_bind_of_ok hsize, run_bind_of_ok hbytes]
    rfl
  exists_encode {input rest a} h := by
    obtain ⟨name, mid, hname, hsized⟩ := run_bind_eq_ok_iff.1 h
    obtain ⟨size, mid', hsize, htaken⟩ := run_bind_eq_ok_iff.1 hsized
    obtain ⟨content, mid'', htake, hpure⟩ := run_bind_eq_ok_iff.1 htaken
    obtain ⟨_, rfl⟩ := run_pure_eq_ok_iff.1 hpure
    obtain ⟨_, _, hn, rfl⟩ := decodes_u4.run_eq_ok_iff.1 hsize
    cases hn
    obtain ⟨hlen, rfl⟩ := run_bytes_eq_ok htake
    obtain rfl := run_u2_eq_ok hname
    refine ⟨⟨name, content⟩, ?_, ?_⟩
    · show content.length < 0x100000000
      exact hlen ▸ size.toNat_lt
    · rw [Attribute.encode, hlen, List.append_assoc, List.append_assoc]

/-- A table of attributes is skipped by its count. -/
lemma decodes_attributes :
    Decodes skipAttributes (fun as : List Attribute => as.length < 0x10000 ∧ ∀ a ∈ as, a.Encodable)
      (encodeTable Attribute.encode) (fun _ => .ok ()) where
  run_encode {as} rest henc := by
    have hmeaning : as.mapM (fun _ : Attribute => (.ok () : Except Fault Unit)) = .ok (as.map fun _ => ()) :=
      List.mapM_pure
    have h := decodes_attribute.counted.run_encode rest henc
    rw [hmeaning] at h
    rw [skipAttributes, run_bind_of_ok h]
    rfl
  exists_encode {input rest a} h := by
    obtain ⟨_, mid, hcounted, hpure⟩ := run_bind_eq_ok_iff.1 h
    obtain ⟨_, rfl⟩ := run_pure_eq_ok_iff.1 hpure
    exact decodes_attribute.counted.exists_encode hcounted

/-- A stored member with its references followed. -/
def StoredMember.resolve (pool : Pool) (m : StoredMember) : Except Fault Member := do
  let name ← pool.text m.name
  let descriptor ← pool.text m.descriptor
  return { access := ⟨m.access⟩, name, descriptor }

/-- A member is decoded to what the pool has for its name and its descriptor. -/
lemma decodes_member (pool : Pool) :
    Decodes (readMember pool) StoredMember.Encodable StoredMember.encode (StoredMember.resolve pool) where
  run_encode {m} rest henc := by
    simp only [readMember, StoredMember.encode, List.append_assoc, StoredMember.resolve]
    rw [run_bind_of_ok (run_u2_encode _ _), run_bind_of_ok (run_u2_encode _ _)]
    apply run_bind_eq_map (run_liftM _ _)
    intro name
    rw [run_bind_of_ok (run_u2_encode _ _)]
    apply run_bind_eq_map (run_liftM _ _)
    intro descriptor
    rw [run_bind_of_ok (decodes_attributes.run_encode rest henc)]
    rfl
  exists_encode {input rest member} h := by
    obtain ⟨access, mid, haccess, h₁⟩ := run_bind_eq_ok_iff.1 h
    obtain ⟨nameIndex, mid', hname, h₂⟩ := run_bind_eq_ok_iff.1 h₁
    obtain ⟨name, _, hnamed, h₃⟩ := run_bind_eq_ok_iff.1 h₂
    obtain ⟨descriptorIndex, mid'', hdescriptor, h₄⟩ := run_bind_eq_ok_iff.1 h₃
    obtain ⟨descriptor, _, hdescribed, h₅⟩ := run_bind_eq_ok_iff.1 h₄
    obtain ⟨_, _, hattributes, hpure⟩ := run_bind_eq_ok_iff.1 h₅
    obtain ⟨_, rfl⟩ := run_pure_eq_ok_iff.1 hpure
    obtain ⟨attributes, henc, rfl⟩ := decodes_attributes.exists_encode hattributes
    obtain ⟨_, rfl⟩ := run_liftM_eq_ok_iff.1 hdescribed
    obtain rfl := run_u2_eq_ok hdescriptor
    obtain ⟨_, rfl⟩ := run_liftM_eq_ok_iff.1 hnamed
    obtain rfl := run_u2_eq_ok hname
    obtain rfl := run_u2_eq_ok haccess
    refine ⟨⟨access, nameIndex, descriptorIndex, attributes⟩, henc, ?_⟩
    simp only [StoredMember.encode, List.append_assoc]

/-- A class name is decoded to what the pool has at its index. -/
lemma decodes_className (pool : Pool) :
    Decodes (readClassName pool) (fun _ => True) encodeU2 pool.className where
  run_encode {i} rest _ := by
    rw [readClassName, run_bind_of_ok (run_u2_encode _ _), run_liftM]
  exists_encode {input rest name} h := by
    obtain ⟨i, mid, hi, hname⟩ := run_bind_eq_ok_iff.1 h
    obtain ⟨_, rfl⟩ := run_liftM_eq_ok_iff.1 hname
    exact ⟨i, trivial, run_u2_eq_ok hi⟩

/-- The superclass that an index stands for. -/
def Pool.superclass (pool : Pool) (i : UInt16) : Except Fault (Option String) :=
  if i = 0 then .ok none else (pool.className i).map some

/-- A superclass is decoded to what the pool has at its index, none at index zero. -/
lemma decodes_superclass (pool : Pool) :
    Decodes (readSuperclass pool) (fun _ => True) encodeU2 pool.superclass where
  run_encode {i} rest _ := by
    rw [readSuperclass, run_bind_of_ok (run_u2_encode _ _), Pool.superclass]
    split
    · rfl
    · rw [run_bind_of_run (run_liftM _ _)]
      cases pool.className i <;> rfl
  exists_encode {input rest name} h := by
    obtain ⟨i, mid, hi, hname⟩ := run_bind_eq_ok_iff.1 h
    have hrest : mid = rest := by
      split at hname
      · exact (run_pure_eq_ok_iff.1 hname).2
      · obtain ⟨_, _, hlift, hpure⟩ := run_bind_eq_ok_iff.1 hname
        obtain ⟨_, rfl⟩ := run_pure_eq_ok_iff.1 hpure
        exact (run_liftM_eq_ok_iff.1 hlift).2
    subst hrest
    exact ⟨i, trivial, run_u2_eq_ok hi⟩

namespace Layout

/-- The bytes of a layout behind its pool. -/
def encodeBody (c : Layout) : Bytes :=
  encodeU2 c.access ++ (encodeU2 c.thisClass ++ (encodeU2 c.superclass ++
    (encodeTable encodeU2 c.interfaces ++ (encodeTable StoredMember.encode c.fields ++
      (encodeTable StoredMember.encode c.methods ++ encodeTable Attribute.encode c.attributes)))))

/-- The tables behind the pool have sizes that fit in their counts. -/
def BodyEncodable (c : Layout) : Prop :=
  c.interfaces.length < 0x10000 ∧
    (c.fields.length < 0x10000 ∧ ∀ m ∈ c.fields, m.Encodable) ∧
    (c.methods.length < 0x10000 ∧ ∀ m ∈ c.methods, m.Encodable) ∧
    (c.attributes.length < 0x10000 ∧ ∀ a ∈ c.attributes, a.Encodable)

/-- The declaration that the part behind a pool stands for. -/
def resolveBody (pool : Pool) (c : Layout) : Except Fault Declaration := do
  let name ← pool.className c.thisClass
  let superclass ← pool.superclass c.superclass
  let interfaces ← c.interfaces.mapM pool.className
  let fields ← c.fields.mapM (StoredMember.resolve pool)
  let methods ← c.methods.mapM (StoredMember.resolve pool)
  return { name, access := ⟨c.access⟩, superclass, interfaces, fields, methods }

end Layout

/-- Declarations are read exactly from the encodings of what stands behind a pool. -/
lemma decodes_declaration (pool : Pool) :
    Decodes (readDeclaration pool) Layout.BodyEncodable Layout.encodeBody (Layout.resolveBody pool) where
  run_encode {c} rest henc := by
    obtain ⟨hinterfaces, hfields, hmethods, hattributes⟩ := henc
    simp only [readDeclaration, Layout.encodeBody, List.append_assoc, Layout.resolveBody]
    rw [run_bind_of_ok (run_u2_encode _ _)]
    apply run_bind_eq_map ((decodes_className pool).run_encode _ trivial)
    intro name
    apply run_bind_eq_map ((decodes_superclass pool).run_encode _ trivial)
    intro superclass
    apply run_bind_eq_map ((decodes_className pool).counted.run_encode _ ⟨hinterfaces, fun _ _ => trivial⟩)
    intro interfaces
    apply run_bind_eq_map ((decodes_member pool).counted.run_encode _ hfields)
    intro fields
    apply run_bind_eq_map ((decodes_member pool).counted.run_encode _ hmethods)
    intro methods
    rw [run_bind_of_ok (decodes_attributes.run_encode rest hattributes)]
    rfl
  exists_encode {input rest declaration} h := by
    obtain ⟨access, _, haccess, h₁⟩ := run_bind_eq_ok_iff.1 h
    obtain ⟨name, _, hname, h₂⟩ := run_bind_eq_ok_iff.1 h₁
    obtain ⟨superclass, _, hsuperclass, h₃⟩ := run_bind_eq_ok_iff.1 h₂
    obtain ⟨interfaces, _, hinterfaces, h₄⟩ := run_bind_eq_ok_iff.1 h₃
    obtain ⟨fields, _, hfields, h₅⟩ := run_bind_eq_ok_iff.1 h₄
    obtain ⟨methods, _, hmethods, h₆⟩ := run_bind_eq_ok_iff.1 h₅
    obtain ⟨_, _, hattributes, hpure⟩ := run_bind_eq_ok_iff.1 h₆
    obtain ⟨_, rfl⟩ := run_pure_eq_ok_iff.1 hpure
    -- What each reader left is what the next one read, so the encodings are put together from the last one on.
    obtain ⟨attributes, encAttributes, rfl⟩ := decodes_attributes.exists_encode hattributes
    obtain ⟨methods, encMethods, rfl⟩ := (decodes_member pool).counted.exists_encode hmethods
    obtain ⟨fields, encFields, rfl⟩ := (decodes_member pool).counted.exists_encode hfields
    obtain ⟨interfaces, encInterfaces, rfl⟩ := (decodes_className pool).counted.exists_encode hinterfaces
    obtain ⟨superclass, _, rfl⟩ := (decodes_superclass pool).exists_encode hsuperclass
    obtain ⟨thisClass, _, rfl⟩ := (decodes_className pool).exists_encode hname
    obtain rfl := run_u2_eq_ok haccess
    refine ⟨⟨0, 0, [], access, thisClass, superclass, interfaces, fields, methods, attributes⟩,
      ⟨encInterfaces.1, encFields, encMethods, encAttributes⟩, ?_⟩
    simp only [Layout.encodeBody, List.append_assoc]

/-- Reads a class file and leaves what is behind it. -/
def readOpen : Reader ClassFile := do
  let magic ← Reader.u4
  if magic ≠ magicNumber then throw (.magic magic)
  let minorVersion ← Reader.u2
  let majorVersion ← Reader.u2
  if majorVersion < oldestMajor then throw (.version majorVersion minorVersion)
  let pool ← Pool.read
  let declaration ← readDeclaration pool
  return { minorVersion, majorVersion, declaration }

/-- Reading to the end is reading a class file and finding nothing behind it. -/
lemma read_eq : read = do
    let file ← readOpen
    Reader.finish
    return file := by
  simp only [read, readOpen, bind_assoc]
  congr 1
  funext magic
  split
  · rfl
  · simp only [bind_assoc]
    congr 1
    funext minorVersion
    congr 1
    funext majorVersion
    split
    · rfl
    · simp only [bind_assoc, pure_bind]

/-- Parsing fails when reading does, or when something is behind the class file. -/
lemma parse_eq (b : Bytes) :
    parse b = readOpen.run b >>= fun (file, rest) =>
      if rest = [] then .ok file else .error (.trailing rest.length) := by
  rw [parse, StateT.run'_eq, read_eq, StateT.run_bind]
  cases readOpen.run b with
  | error e => rfl
  | ok pair =>
    obtain ⟨file, rest⟩ := pair
    cases rest with
    | nil => rfl
    | cons byte rest => rfl

/-- The magic number is read back. -/
lemma run_magic (rest : Bytes) :
    u4.run (Bytes.ofNumber 4 0xCAFEBABE ++ rest) = .ok (magicNumber, rest) :=
  decodes_u4.run_encode rest (x := magicNumber) trivial

namespace Layout

/-- A layout is encoded as the magic number, the versions, the pool and the rest. -/
lemma encode_eq (c : Layout) :
    c.encode = Bytes.ofNumber 4 0xCAFEBABE ++ (encodeU2 c.minorVersion ++ (encodeU2 c.majorVersion ++
      (Item.encodePool c.items ++ c.encodeBody))) := by
  simp only [encode, encodeBody, Item.encodePool, slotCount, List.append_assoc]

/-- A layout can be encoded if its pool fits, its items can be encoded, and the rest can. -/
lemma encodable_iff (c : Layout) :
    c.Encodable ↔ (1 + Item.widths c.items < 0x10000 ∧ ∀ item ∈ c.items, item.Encodable) ∧ c.BodyEncodable := by
  simp only [Encodable, BodyEncodable, slotCount]
  tauto

/-- The class file that a layout stands for, or the first fault in it. -/
def resolve (c : Layout) : Except Fault ClassFile := do
  if c.majorVersion < oldestMajor then throw (.version c.majorVersion c.minorVersion)
  let pool ← Item.pool c.items
  let declaration ← c.resolveBody pool
  return { minorVersion := c.minorVersion, majorVersion := c.majorVersion, declaration }

end Layout

/-- Class files are read exactly from the encodings of layouts. -/
lemma decodes_layout : Decodes readOpen Layout.Encodable Layout.encode Layout.resolve where
  run_encode {c} rest henc := by
    obtain ⟨hpool, hbody⟩ := c.encodable_iff.1 henc
    rw [c.encode_eq, readOpen]
    simp only [List.append_assoc]
    rw [run_bind_of_ok (run_magic _), if_neg (by simp), run_bind_of_ok (run_u2_encode _ _),
      run_bind_of_ok (run_u2_encode _ _), Layout.resolve]
    split
    · rfl
    · apply run_bind_eq_map (Pool.decodes_pool.run_encode _ hpool)
      intro pool
      apply run_bind_eq_map ((decodes_declaration pool).run_encode rest hbody)
      intro declaration
      rfl
  exists_encode {input rest file} h := by
    obtain ⟨magic, _, hmagic, h₁⟩ := run_bind_eq_ok_iff.1 h
    obtain ⟨_, _, hfound, rfl⟩ := decodes_u4.run_eq_ok_iff.1 hmagic
    cases hfound
    by_cases hmagic : magic = magicNumber
    · subst hmagic
      rw [if_neg (by simp)] at h₁
      obtain ⟨minorVersion, _, hminor, h₂⟩ := run_bind_eq_ok_iff.1 h₁
      obtain ⟨majorVersion, _, hmajor, h₃⟩ := run_bind_eq_ok_iff.1 h₂
      by_cases hold : majorVersion < oldestMajor
      · rw [if_pos hold] at h₃
        cases h₃
      · rw [if_neg hold] at h₃
        obtain ⟨pool, _, hpool, h₄⟩ := run_bind_eq_ok_iff.1 h₃
        obtain ⟨declaration, _, hdeclaration, hpure⟩ := run_bind_eq_ok_iff.1 h₄
        obtain ⟨_, rfl⟩ := run_pure_eq_ok_iff.1 hpure
        obtain ⟨c, hbody, rfl⟩ := (decodes_declaration pool).exists_encode hdeclaration
        obtain ⟨items, hitems, rfl⟩ := Pool.decodes_pool.exists_encode hpool
        obtain rfl := run_u2_eq_ok hmajor
        obtain rfl := run_u2_eq_ok hminor
        refine ⟨{ c with minorVersion, majorVersion, items }, ?_, ?_⟩
        · exact (Layout.encodable_iff _).2 ⟨hitems, hbody⟩
        · rw [Layout.encode_eq]
          simp only [List.append_assoc]
          rfl
    · rw [if_pos hmagic] at h₁
      cases h₁

/-- Parsing an encoding resolves the layout; then there must be nothing behind it. -/
lemma parse_encode_append {c : Layout} (henc : c.Encodable) (t : Bytes) :
    parse (c.encode ++ t) = c.resolve >>= fun file =>
      if t = [] then .ok file else .error (.trailing t.length) := by
  rw [parse_eq, decodes_layout.run_encode t henc]
  cases c.resolve <;> rfl

/-- The parser accepts exactly the encodings of layouts that resolve. -/
lemma parse_eq_ok_iff_resolve {b : Bytes} {file : ClassFile} :
    parse b = .ok file ↔ ∃ c : Layout, c.Encodable ∧ c.encode = b ∧ c.resolve = .ok file := by
  rw [parse_eq, bind_eq_ok_iff]
  constructor
  · intro h'
    obtain ⟨⟨file', rest⟩, hread, hend⟩ := h'
    obtain ⟨c, henc, hresolve, rfl⟩ := decodes_layout.run_eq_ok_iff.1 hread
    simp only at hend
    split at hend
    · rename_i hrest
      subst hrest
      cases hend
      exact ⟨c, henc, (List.append_nil _).symm, hresolve⟩
    · cases hend
  · intro h'
    obtain ⟨c, henc, rfl, hresolve⟩ := h'
    refine ⟨(file, []), decodes_layout.run_eq_ok_iff.2 ⟨c, henc, hresolve, (List.append_nil _).symm⟩, ?_⟩
    rfl

/-- The member is the stored one with its references replaced by texts. -/
structure StoredMember.Denotes (items : List Item) (m : StoredMember) (member : Member) : Prop where
  access : member.access.bits = m.access
  name : Item.NamesText items m.name member.name
  descriptor : Item.NamesText items m.descriptor member.descriptor

/-- The superclass is the one that an index names; index 0 stands for none. -/
def Item.NamesSuperclass (items : List Item) (i : UInt16) (superclass : Option String) : Prop :=
  if i = 0 then superclass = none else ∃ name, superclass = some name ∧ Item.NamesClass items i name

/-- The class file is the layout with its references replaced by texts. -/
structure Layout.Denotes (c : Layout) (file : ClassFile) : Prop where
  minorVersion : file.minorVersion = c.minorVersion
  majorVersion : file.majorVersion = c.majorVersion
  access : file.declaration.access.bits = c.access
  name : Item.NamesClass c.items c.thisClass file.declaration.name
  superclass : Item.NamesSuperclass c.items c.superclass file.declaration.superclass
  interfaces : List.Forall₂ (Item.NamesClass c.items) c.interfaces file.declaration.interfaces
  fields : List.Forall₂ (StoredMember.Denotes c.items) c.fields file.declaration.fields
  methods : List.Forall₂ (StoredMember.Denotes c.items) c.methods file.declaration.methods

/-- Every stored text is modified UTF-8. -/
def Layout.TextsDecode (c : Layout) : Prop :=
  ∀ encoded, Item.utf8 encoded ∈ c.items → ∃ text, Text.ModifiedUtf8.decode encoded = some text

/-- Stored constants make a pool exactly when every text decodes. -/
lemma Layout.exists_pool_iff (c : Layout) : (∃ pool, Item.pool c.items = .ok pool) ↔ c.TextsDecode := by
  simp only [Item.pool, Item.slots, exists_map_eq_ok_iff, exists_mapM_eq_ok_iff]
  constructor
  · intro h encoded hmem
    obtain ⟨constant, hconstant⟩ := h _ hmem
    rw [Item.constant] at hconstant
    split at hconstant
    · exact ⟨_, by assumption⟩
    · cases hconstant
  · intro h item hmem
    cases item with
    | utf8 encoded =>
      obtain ⟨text, htext⟩ := h encoded hmem
      exact ⟨.utf8 text, by rw [Item.constant, htext]⟩
    | classRef name => exact ⟨_, rfl⟩
    | other k payload => exact ⟨_, rfl⟩

/-- A member of the file is resolved to a member exactly if it denotes it. -/
lemma StoredMember.resolve_eq_ok_iff {items : List Item} {pool : Pool} {m : StoredMember} {member : Member}
    (hpool : Item.pool items = .ok pool) : m.resolve pool = .ok member ↔ m.Denotes items member := by
  rw [StoredMember.resolve, bind_eq_ok_iff]
  constructor
  · intro h'
    obtain ⟨name, hname, h⟩ := h'
    obtain ⟨descriptor, hdescriptor, h⟩ := bind_eq_ok_iff.1 h
    cases h
    exact ⟨rfl, (Pool.text_eq_ok_iff hpool).1 hname, (Pool.text_eq_ok_iff hpool).1 hdescriptor⟩
  · intro h'
    obtain ⟨haccess, hname, hdescriptor⟩ := h'
    refine ⟨member.name, (Pool.text_eq_ok_iff hpool).2 hname, ?_⟩
    rw [bind_eq_ok_iff]
    refine ⟨member.descriptor, (Pool.text_eq_ok_iff hpool).2 hdescriptor, ?_⟩
    rw [← haccess]
    rfl

/-- The superclass at an index of the pool is the one that the items name there. -/
lemma Pool.superclass_eq_ok_iff {items : List Item} {pool : Pool} {i : UInt16} {superclass : Option String}
    (hpool : Item.pool items = .ok pool) :
    pool.superclass i = .ok superclass ↔ Item.NamesSuperclass items i superclass := by
  rw [Pool.superclass, Item.NamesSuperclass]
  split
  · exact ⟨fun h => (Except.ok.inj h).symm, fun h => h ▸ rfl⟩
  · constructor
    · intro h
      cases hname : pool.className i with
      | error e => rw [hname] at h; cases h
      | ok name =>
        rw [hname] at h
        exact ⟨name, (Except.ok.inj h).symm, (Pool.className_eq_ok_iff hpool).1 hname⟩
    · intro h'
      obtain ⟨name, rfl, hname⟩ := h'
      rw [(Pool.className_eq_ok_iff hpool).2 hname]
      rfl

/-- What stands behind a pool resolves exactly to the declarations that a layout denotes. -/
lemma Layout.resolveBody_eq_ok_iff {c : Layout} {pool : Pool} {d : Declaration}
    (hpool : Item.pool c.items = .ok pool) :
    c.resolveBody pool = .ok d ↔ c.Denotes ⟨c.minorVersion, c.majorVersion, d⟩ := by
  simp only [Layout.resolveBody, bind_eq_ok_iff, mapM_eq_ok_iff, Pool.className_eq_ok_iff hpool,
    Pool.superclass_eq_ok_iff hpool, StoredMember.resolve_eq_ok_iff hpool]
  constructor
  · intro h'
    obtain ⟨name, hname, superclass, hsuperclass, interfaces, hinterfaces, fields, hfields, methods, hmethods, h⟩ := h'
    cases h
    exact ⟨rfl, rfl, rfl, hname, hsuperclass, hinterfaces, hfields, hmethods⟩
  · intro h'
    obtain ⟨_, _, haccess, hname, hsuperclass, hinterfaces, hfields, hmethods⟩ := h'
    refine ⟨_, hname, _, hsuperclass, _, hinterfaces, _, hfields, _, hmethods, ?_⟩
    rw [← haccess]
    rfl

/-- A layout resolves exactly to the class files that it denotes, if it is new enough and its texts decode. -/
lemma Layout.resolve_eq_ok_iff {c : Layout} {file : ClassFile} :
    c.resolve = .ok file ↔ 45 ≤ c.majorVersion ∧ c.TextsDecode ∧ c.Denotes file := by
  rw [Layout.resolve]
  by_cases hold : c.majorVersion < oldestMajor
  · rw [if_pos hold]
    exact ⟨nofun, fun ⟨hnew, _⟩ => absurd hold (UInt16.not_lt.2 hnew)⟩
  · rw [if_neg hold]
    have hnew : 45 ≤ c.majorVersion := UInt16.not_lt.1 hold
    simp only [bind_eq_ok_iff]
    constructor
    · intro h'
      obtain ⟨pool, hpool, d, hd, h⟩ := h'
      cases h
      exact ⟨hnew, c.exists_pool_iff.1 ⟨pool, hpool⟩, (c.resolveBody_eq_ok_iff hpool).1 hd⟩
    · intro h'
      obtain ⟨_, htexts, hdenotes⟩ := h'
      obtain ⟨pool, hpool⟩ := c.exists_pool_iff.2 htexts
      obtain ⟨minorVersion, majorVersion, d⟩ := file
      obtain rfl : minorVersion = c.minorVersion := hdenotes.minorVersion
      obtain rfl : majorVersion = c.majorVersion := hdenotes.majorVersion
      exact ⟨pool, hpool, d, (c.resolveBody_eq_ok_iff hpool).2 hdenotes, rfl⟩

/-- The number of slots that is stored behind the version. -/
def storedSlotCount (b : Bytes) : Nat := Bytes.bigEndian ((b.drop 8).take 2)

/-- An encoded layout stores the number of its slots. -/
lemma Layout.storedSlotCount_encode {c : Layout} (henc : c.Encodable) :
    storedSlotCount c.encode = c.slotCount := by
  have hfront : c.encode = (Bytes.ofNumber 4 0xCAFEBABE ++ encodeU2 c.minorVersion ++ encodeU2 c.majorVersion) ++
      (Bytes.ofNumber 2 c.slotCount ++ (c.items.flatMap Item.encode ++ c.encodeBody)) := by
    rw [c.encode_eq]
    simp only [Item.encodePool, slotCount, List.append_assoc]
  rw [storedSlotCount, hfront, List.drop_left' (by simp [encodeU2]), List.take_left' (by simp)]
  exact Bytes.bigEndian_ofNumber henc.1

/-- The parser accepts exactly the encodings of the layouts that are new enough, of which the constants fill the
stored number of slots, every text decodes and every reference that is followed names a constant of its kind; and
what it gives is the layout with these references replaced by the texts that they name. -/
theorem parse_eq_ok_iff_denotes (b : Bytes) (file : ClassFile) :
    parse b = .ok file ↔
      ∃ c : Layout, c.Encodable ∧ c.encode = b ∧ 45 ≤ c.majorVersion ∧
        1 + Item.widths c.items = storedSlotCount b ∧ c.TextsDecode ∧ c.Denotes file := by
  rw [parse_eq_ok_iff_resolve]
  constructor
  · intro h'
    obtain ⟨c, henc, rfl, hresolve⟩ := h'
    obtain ⟨hnew, htexts, hdenotes⟩ := Layout.resolve_eq_ok_iff.1 hresolve
    exact ⟨c, henc, rfl, hnew, (Layout.storedSlotCount_encode henc).symm, htexts, hdenotes⟩
  · intro h'
    obtain ⟨c, henc, rfl, hnew, _, htexts, hdenotes⟩ := h'
    exact ⟨c, henc, rfl, Layout.resolve_eq_ok_iff.2 ⟨hnew, htexts, hdenotes⟩⟩

end ClassStub.ClassFile
