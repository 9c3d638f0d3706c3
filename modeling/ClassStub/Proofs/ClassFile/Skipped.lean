import ClassStub.Proofs.Stub.Print

/-!
# What a class file holds beside its declaration

Versions, attributes and the payloads of constants other than texts and classes are read over. `Layout.Agrees` says
that two layouts are equal but for these, and then they give the same declaration and stub, or the same fault. The
reason is that look-ups do not see payloads: `Constant.strip` takes them away, and every look-up in a stripped pool
gives what it gives in the pool. Constants that are added behind the others are never looked up by the indices that
are there already, so a class file that has a stub keeps it.
-/

namespace ClassStub

namespace ClassFile

/-- Two stored constants that differ at most in a payload that is neither a text nor a class. -/
inductive Item.Agrees : Item → Item → Prop where
  | utf8 (encoded : Bytes) : Agrees (.utf8 encoded) (.utf8 encoded)
  | classRef (name : UInt16) : Agrees (.classRef name) (.classRef name)
  | other (kind : Kind) (payload payload' : Bytes) : Agrees (.other kind payload) (.other kind payload')

/-- Two stored members that differ at most in their attributes. -/
structure StoredMember.Agrees (m m' : StoredMember) : Prop where
  access : m.access = m'.access
  name : m.name = m'.name
  descriptor : m.descriptor = m'.descriptor

/-- Two layouts that differ at most in their versions, attributes and payloads. -/
structure Layout.Agrees (c c' : Layout) : Prop where
  items : List.Forall₂ Item.Agrees c.items c'.items
  access : c.access = c'.access
  thisClass : c.thisClass = c'.thisClass
  superclass : c.superclass = c'.superclass
  interfaces : c.interfaces = c'.interfaces
  fields : List.Forall₂ StoredMember.Agrees c.fields c'.fields
  methods : List.Forall₂ StoredMember.Agrees c.methods c'.methods

/-! ### Pools without payloads -/

/-- The constant without its payload. -/
def Constant.strip : Constant → Constant
  | other k _ => other k []
  | c => c

/-- The pool without payloads. -/
def Pool.strip (pool : Pool) : Pool where
  slots := pool.slots.map (Option.map Constant.strip)

/-- Without its payload a constant is of the same kind. -/
lemma Constant.kind_strip (c : Constant) : c.strip.kind = c.kind := by
  cases c <;> rfl

/-- The slots of a constant without its payload are its slots without payloads. -/
lemma Constant.slots_strip (c : Constant) : c.strip.slots = c.slots.map (Option.map Constant.strip) := by
  rw [Constant.slots, Constant.slots, c.kind_strip]
  split <;> rfl

/-- Looking up in a pool without payloads gives constants without payloads. -/
lemma Pool.get_strip (pool : Pool) (i : UInt16) : pool.strip.get i = (pool.get i).map Constant.strip := by
  simp only [Pool.get, Pool.strip, Array.getElem?_map]
  cases pool.slots[i.toNat]? with
  | none => rfl
  | some slot => cases slot <;> rfl

/-- Texts do not depend on payloads. -/
lemma Pool.text_strip (pool : Pool) (i : UInt16) : pool.strip.text i = pool.text i := by
  rw [Pool.text, Pool.text, Pool.get_strip]
  cases pool.get i with
  | error e => rfl
  | ok c => cases c <;> rfl

/-- Class names do not depend on payloads. -/
lemma Pool.className_strip (pool : Pool) (i : UInt16) : pool.strip.className i = pool.className i := by
  rw [Pool.className, Pool.className, Pool.get_strip]
  cases pool.get i with
  | error e => rfl
  | ok c =>
    cases c with
    | utf8 text => rfl
    | classRef name => exact pool.text_strip name
    | other k payload => rfl

/-- Superclasses do not depend on payloads. -/
lemma Pool.superclass_strip (pool : Pool) (i : UInt16) : pool.strip.superclass i = pool.superclass i := by
  rw [Pool.superclass, Pool.superclass, Pool.className_strip]

/-- Members do not depend on payloads. -/
lemma StoredMember.resolve_strip (pool : Pool) (m : StoredMember) : m.resolve pool.strip = m.resolve pool := by
  simp only [StoredMember.resolve, Pool.text_strip]

/-- The declaration behind a pool does not depend on payloads. -/
lemma Layout.resolveBody_strip (pool : Pool) (c : Layout) : c.resolveBody pool.strip = c.resolveBody pool := by
  simp only [Layout.resolveBody, Pool.className_strip, Pool.superclass_strip, funext (Pool.className_strip pool),
    funext (StoredMember.resolve_strip pool)]

/-! ### Layouts that agree -/

/-- Stored constants that agree are the same without their payloads. -/
lemma Item.Agrees.constant {item item' : Item} (h : item.Agrees item') :
    item.constant.map Constant.strip = item'.constant.map Constant.strip := by
  cases h <;> rfl

/-- Without payloads, the slots of stored constants are those of the first and those of the others. -/
lemma Item.map_slots_cons (item : Item) (items : List Item) :
    (Item.slots (item :: items)).map (List.map (Option.map Constant.strip)) = do
      let c ← item.constant.map Constant.strip
      let others ← (Item.slots items).map (List.map (Option.map Constant.strip))
      return c.slots ++ others := by
  rw [Item.slots_cons]
  cases item.constant with
  | error e => rfl
  | ok c =>
    cases Item.slots items with
    | error e => rfl
    | ok others =>
      show Except.ok ((c.slots ++ others).map _) = Except.ok (c.strip.slots ++ others.map _)
      rw [List.map_append, c.slots_strip]

/-- Stored constants that agree fill the same slots, payloads apart, or have the same first fault. -/
lemma Item.map_slots_congr {items items' : List Item} (h : List.Forall₂ Item.Agrees items items') :
    (Item.slots items).map (List.map (Option.map Constant.strip)) =
      (Item.slots items').map (List.map (Option.map Constant.strip)) := by
  induction h with
  | nil => rfl
  | cons hitem _ ih => rw [Item.map_slots_cons, Item.map_slots_cons, hitem.constant, ih]

/-- Stored constants that agree give the same pool without payloads, or the same fault. -/
lemma Item.map_pool_congr {items items' : List Item} (h : List.Forall₂ Item.Agrees items items') :
    (Item.pool items).map Pool.strip = (Item.pool items').map Pool.strip := by
  have hpool : ∀ items : List Item, (Item.pool items).map Pool.strip =
      ((Item.slots items).map (List.map (Option.map Constant.strip))).map fun slots => ⟨(none :: slots).toArray⟩ := by
    intro items
    rw [Item.pool]
    cases Item.slots items with
    | error e => rfl
    | ok slots =>
      show Except.ok (Pool.strip _) = Except.ok _
      simp [Pool.strip]
  rw [hpool, hpool, Item.map_slots_congr h]

/-- Members that agree are resolved alike. -/
lemma StoredMember.Agrees.resolve {m m' : StoredMember} (h : m.Agrees m') (pool : Pool) :
    m.resolve pool = m'.resolve pool := by
  rw [StoredMember.resolve, StoredMember.resolve, h.access, h.name, h.descriptor]

/-- Tables of members that agree are resolved alike. -/
lemma StoredMember.mapM_resolve_congr {ms ms' : List StoredMember} (h : List.Forall₂ StoredMember.Agrees ms ms')
    (pool : Pool) : ms.mapM (StoredMember.resolve pool) = ms'.mapM (StoredMember.resolve pool) := by
  induction h with
  | nil => rfl
  | cons hm _ ih => rw [List.mapM_cons, List.mapM_cons, hm.resolve pool, ih]

/-- What stands behind the pool is resolved alike in layouts that agree. -/
lemma Layout.Agrees.resolveBody {c c' : Layout} (h : c.Agrees c') (pool : Pool) :
    c.resolveBody pool = c'.resolveBody pool := by
  rw [Layout.resolveBody, Layout.resolveBody, h.access, h.thisClass, h.superclass, h.interfaces,
    StoredMember.mapM_resolve_congr h.fields, StoredMember.mapM_resolve_congr h.methods]

/-- The declaration of a layout that is new enough. -/
lemma Layout.map_resolve {c : Layout} (hnew : 45 ≤ c.majorVersion) :
    c.resolve.map ClassFile.declaration = (Item.pool c.items).map Pool.strip >>= fun pool => c.resolveBody pool := by
  have hold : ¬ c.majorVersion < oldestMajor := UInt16.not_lt.2 hnew
  rw [Layout.resolve, if_neg hold]
  cases Item.pool c.items with
  | error e => rfl
  | ok pool =>
    show Except.map _ (c.resolveBody pool >>= _) = c.resolveBody pool.strip
    rw [c.resolveBody_strip]
    cases c.resolveBody pool <;> rfl

/-- Layouts that agree have the same declaration, or the same first fault. -/
lemma Layout.Agrees.map_resolve {c c' : Layout} (h : c.Agrees c') (hnew : 45 ≤ c.majorVersion)
    (hnew' : 45 ≤ c'.majorVersion) :
    c.resolve.map ClassFile.declaration = c'.resolve.map ClassFile.declaration := by
  rw [Layout.map_resolve hnew, Layout.map_resolve hnew', Item.map_pool_congr h.items]
  congr 1
  funext pool
  exact h.resolveBody pool

/-! ### More constants -/

/-- The layout with more constants behind its own. -/
def Layout.appendItems (c : Layout) (extra : List Item) : Layout :=
  { c with items := c.items ++ extra }

section

variable {items : List Item} (extra : List Item)

/-- A stored constant keeps its place when others are stored behind it. -/
lemma Item.At.append {i : UInt16} {item : Item} (h : Item.At items i item) : Item.At (items ++ extra) i item := by
  obtain ⟨before, after, rfl, hi⟩ := h
  exact ⟨before, after ++ extra, by rw [List.append_assoc, List.cons_append], hi⟩

/-- A text keeps its place when constants are stored behind it. -/
lemma Item.NamesText.append {i : UInt16} {text : String} (h : Item.NamesText items i text) :
    Item.NamesText (items ++ extra) i text := by
  obtain ⟨encoded, hat, hdecode⟩ := h
  exact ⟨encoded, hat.append extra, hdecode⟩

/-- A class name keeps its place when constants are stored behind it. -/
lemma Item.NamesClass.append {i : UInt16} {name : String} (h : Item.NamesClass items i name) :
    Item.NamesClass (items ++ extra) i name := by
  obtain ⟨n, hat, hname⟩ := h
  exact ⟨n, hat.append extra, hname.append extra⟩

/-- A superclass keeps its place when constants are stored behind it. -/
lemma Item.NamesSuperclass.append {i : UInt16} {superclass : Option String}
    (h : Item.NamesSuperclass items i superclass) : Item.NamesSuperclass (items ++ extra) i superclass := by
  rw [Item.NamesSuperclass] at h ⊢
  split
  · rwa [if_pos ‹_›] at h
  · rw [if_neg ‹_›] at h
    obtain ⟨name, hsome, hname⟩ := h
    exact ⟨name, hsome, hname.append extra⟩

/-- A member denotes the same when constants are stored behind those it names. -/
lemma StoredMember.Denotes.append {m : StoredMember} {member : Member} (h : m.Denotes items member) :
    m.Denotes (items ++ extra) member :=
  ⟨h.access, h.name.append extra, h.descriptor.append extra⟩

/-- More constants leave what a layout denotes as it is. -/
lemma Layout.Denotes.append {c : Layout} {file : ClassFile} (h : c.Denotes file) :
    (c.appendItems extra).Denotes file where
  minorVersion := h.minorVersion
  majorVersion := h.majorVersion
  access := h.access
  name := h.name.append extra
  superclass := h.superclass.append extra
  interfaces := h.interfaces.imp fun _ _ hname => hname.append extra
  fields := h.fields.imp fun _ _ hfield => hfield.append extra
  methods := h.methods.imp fun _ _ hmethod => hmethod.append extra

end

/-- A layout can be encoded with more constants behind its own as long as there are slots. -/
lemma Layout.Encodable.append {c : Layout} {extra : List Item} (h : c.Encodable)
    (hextra : ∀ item ∈ extra, item.Encodable) (hcount : (c.appendItems extra).slotCount < 0x10000) :
    (c.appendItems extra).Encodable := by
  obtain ⟨_, hitems, hbody⟩ := h
  refine ⟨hcount, ?_, hbody⟩
  intro item hitem
  rcases List.mem_append.1 hitem with hold | hnew
  · exact hitems item hold
  · exact hextra item hnew

end ClassFile

open ClassFile

/-- The stub of the encoding of a layout. -/
lemma Stub.ofBytes_encode {c : Layout} (henc : c.Encodable) :
    ofBytes c.encode = (c.resolve.map ClassFile.declaration).map fun d => (d, d.render) := by
  have hparse := parse_encode_append henc []
  rw [List.append_nil] at hparse
  rw [ofBytes, hparse]
  cases c.resolve <;> rfl

/-- What is skipped has no part in the result. Two class files that agree in everything but their versions, their
attributes and the payloads of constants other than texts and classes have the same declaration and stub, or the same
fault; and a class file that has a stub keeps its declaration and stub when constants are added to its pool. -/
theorem Stub.ofBytes_ignores_skipped :
    (∀ c c' : Layout, c.Encodable → c'.Encodable → 45 ≤ c.majorVersion → 45 ≤ c'.majorVersion → c.Agrees c' →
      ofBytes c.encode = ofBytes c'.encode) ∧
    (∀ (c : Layout) (extra : List Item) (result : Declaration × String), c.Encodable →
      (∀ item ∈ extra, item.Encodable) →
      (∀ encoded, Item.utf8 encoded ∈ extra → ∃ text, Text.ModifiedUtf8.decode encoded = some text) →
      (c.appendItems extra).slotCount < 0x10000 →
      ofBytes c.encode = .ok result → ofBytes (c.appendItems extra).encode = .ok result) := by
  refine ⟨?_, ?_⟩
  · intro c c' henc henc' hnew hnew' hagrees
    rw [ofBytes_encode henc, ofBytes_encode henc', hagrees.map_resolve hnew hnew']
  · intro c extra result henc hextra htexts hcount h
    rw [ofBytes_encode henc] at h
    rw [ofBytes_encode (henc.append hextra hcount)]
    cases hresolve : c.resolve with
    | error e => rw [hresolve] at h; cases h
    | ok file =>
      obtain ⟨hnew, hdecode, hdenotes⟩ := Layout.resolve_eq_ok_iff.1 hresolve
      have hdecode' : (c.appendItems extra).TextsDecode := by
        intro encoded hmem
        rcases List.mem_append.1 hmem with hold | hadded
        · exact hdecode encoded hold
        · exact htexts encoded hadded
      have hresolve' : (c.appendItems extra).resolve = .ok file :=
        Layout.resolve_eq_ok_iff.2 ⟨hnew, hdecode', hdenotes.append extra⟩
      rw [hresolve', ← h, hresolve]

/-- The sample in another version, with another number in its pool and without attributes. -/
def Stub.sampleVariant : Layout :=
  { sampleLayout with
    minorVersion := 0
    majorVersion := 65
    items := sampleLayout.items.set 2 (.other .long [1, 2, 3, 4, 5, 6, 7, 8])
    fields := [⟨0x0412, 5, 6, []⟩]
    methods := [⟨0x0401, 7, 8, [⟨1, [7, 7, 7]⟩, ⟨0, []⟩]⟩]
    attributes := [] }

/-- The sample and its variant give the same stub, also with two constants added. -/
theorem Stub.ofBytes_sampleVariant :
    sampleLayout ≠ sampleVariant ∧ ofBytes sampleLayout.encode = ofBytes sampleVariant.encode ∧
      ofBytes sampleVariant.encode = .ok (sample.declaration, sample.declaration.render) ∧
      ofBytes (sampleVariant.appendItems [.other .double [0, 0, 0, 0, 0, 0, 0, 0], .utf8 [65]]).encode =
        .ok (sample.declaration, sample.declaration.render) := by
  have henc : sampleVariant.Encodable := by decide
  have hagrees : sampleLayout.Agrees sampleVariant := by
    refine ⟨?_, rfl, rfl, rfl, rfl, .cons ⟨rfl, rfl, rfl⟩ .nil, .cons ⟨rfl, rfl, rfl⟩ .nil⟩
    exact .cons (.utf8 _) <| .cons (.classRef _) <| .cons (.other _ _ _) <| .cons (.utf8 _) <| .cons (.utf8 _) <|
      .cons (.utf8 _) <| .cons (.utf8 _) <| .cons (.utf8 _) .nil
  have hstub : ofBytes sampleVariant.encode = .ok (sample.declaration, sample.declaration.render) := by
    rw [ofBytes_encode henc]
    rfl
  refine ⟨by decide, ?_, hstub, ?_⟩
  · exact ofBytes_ignores_skipped.1 _ _ (by decide) henc (by decide) (by decide) hagrees
  · refine ofBytes_ignores_skipped.2 _ _ _ henc (by decide) ?_ (by decide) hstub
    intro encoded hmem
    obtain rfl : encoded = [65] := by simpa using hmem
    exact ⟨"A", by decide⟩

end ClassStub
