import ClassStub.Proofs.ClassFile.Grammar
import ClassStub.Proofs.ClassFile.SlotLayout

/-!
# The first bad reference

`Layout.references` lists what a layout refers to by indices of its pool, in the order of the file. A reference
resolves, or it fails with one fault: `Reference.Fails` says with which, from the stored constants alone. Resolving a
layout comes to the fault of the first reference that fails (`Layout.error?_resolveBody`), and so does parsing its
encoding, whatever stands behind it.
-/

namespace ClassStub.ClassFile

/-- What is referred to by an index of the pool. -/
inductive Reference where
  | className (i : UInt16)
  | text (i : UInt16)
  deriving DecidableEq, Repr

namespace Reference

/-- The index of a reference. -/
def index : Reference → UInt16
  | className i => i
  | text i => i

/-- The kind of constant that a reference asks for. -/
def kind : Reference → Kind
  | className _ => .classRef
  | text _ => .utf8

/-- The reference stands for a text. -/
def Resolves (items : List Item) : Reference → Prop
  | className i => ∃ name, Item.NamesClass items i name
  | text i => ∃ text, Item.NamesText items i text

end Reference

/-- The slot of a pool has no constant: it is slot 0, it lies behind the pool, or it is the second slot of a long or
double constant. -/
def Item.Unusable (items : List Item) (i : UInt16) : Prop :=
  i = 0 ∨ 1 + Item.widths items ≤ i.toNat ∨
    ∃ j item, Item.At items j item ∧ item.kind.isWide = true ∧ i.toNat = j.toNat + 1

/-- The fault with which a reference fails. -/
inductive Reference.Fails (items : List Item) : Reference → Fault → Prop where
  | unusable {r} :
    Item.Unusable items r.index →
    Fails items r (.index r.index)
  | kind {r item} :
    Item.At items r.index item →
    item.kind ≠ r.kind →
    Fails items r (.kind r.index r.kind item.kind)
  | name {i n e} :
    Item.At items i (.classRef n) →
    Fails items (.text n) e →
    Fails items (.className i) e

/-- What a member refers to: its name and its descriptor. -/
def StoredMember.references (m : StoredMember) : List Reference := [.text m.name, .text m.descriptor]

/-- What a layout refers to, in the order of the file. -/
def Layout.references (c : Layout) : List Reference :=
  .className c.thisClass :: ((if c.superclass = 0 then [] else [.className c.superclass]) ++
    (c.interfaces.map .className ++
      (c.fields.flatMap StoredMember.references ++ c.methods.flatMap StoredMember.references)))

/-! ### One reference -/

/-- A look-up that finds nothing is at fault for its index. -/
lemma Pool.get_cases (pool : Pool) (i : UInt16) : (∃ c, pool.get i = .ok c) ∨ pool.get i = .error (.index i) := by
  rw [Pool.get]
  split
  · exact .inl ⟨_, rfl⟩
  · exact .inr rfl

section

variable {items : List Item} {pool : Pool}

/-- A pool is the layout of the constants that are kept of the stored ones. -/
lemma Item.pool_eq_ok_iff :
    Item.pool items = .ok pool ↔
      ∃ cs, items.mapM Item.constant = .ok cs ∧ pool = ⟨(Constant.layOut cs).toArray⟩ := by
  rw [Item.pool, Item.slots]
  cases items.mapM Item.constant with
  | error e =>
    constructor
    · intro h
      cases h
    · intro h
      obtain ⟨cs, hcs, -⟩ := h
      cases hcs
  | ok cs =>
    constructor
    · intro h
      cases h
      exact ⟨cs, rfl, rfl⟩
    · intro h'
      obtain ⟨cs', hcs, rfl⟩ := h'
      cases hcs
      rfl

/-- The layout of the constants of items has a slot for each that the items take up, and the slot at index zero. -/
lemma Item.length_layOut {cs : List Constant} (h : items.mapM Item.constant = .ok cs) :
    (Constant.layOut cs).length = 1 + Item.widths items := by
  have hwidths : (cs.map Constant.width).sum = Item.widths items := by
    induction mapM_eq_ok_iff.1 h with
    | nil => rfl
    | cons hc htail ih =>
      rw [List.map_cons, List.sum_cons, Item.widths, ih (mapM_eq_ok_iff.2 htail), ← Constant.length_slots,
        Item.length_slots hc]
  rw [Constant.layOut, List.length_cons, Constant.length_flatMap_slots, hwidths, Nat.add_comm]

/-- Each stored constant is found in its slot. -/
lemma Item.At.exists_get {i : UInt16} {item : Item} (hat : Item.At items i item) (h : Item.pool items = .ok pool) :
    ∃ c, pool.get i = .ok c ∧ c.kind = item.kind := by
  obtain ⟨cs, hcs, -⟩ := Item.pool_eq_ok_iff.1 h
  have hmem : item ∈ items := by
    obtain ⟨before, after, rfl, -⟩ := hat
    exact List.mem_append_right before List.mem_cons_self
  obtain ⟨c, hc⟩ := exists_mapM_eq_ok_iff.1 ⟨cs, hcs⟩ item hmem
  exact ⟨c, (Pool.get_eq_ok_iff h).2 ⟨item, hat, hc⟩, Item.kind_of_constant hc⟩

/-- A slot holds a wide constant exactly when a long or double constant stands there. -/
lemma Item.holdsWide_iff (h : Item.pool items = .ok pool) {i : UInt16} (hi : 1 ≤ i.toNat) :
    pool.HoldsWide (i.toNat - 1) ↔
      ∃ j item, Item.At items j item ∧ item.kind.isWide = true ∧ i.toNat = j.toNat + 1 := by
  constructor
  · intro h'
    obtain ⟨c, hslot, hwide⟩ := h'
    have hj : (UInt16.ofNat (i.toNat - 1)).toNat = i.toNat - 1 :=
      UInt16.toNat_ofNat_of_lt' (Nat.lt_of_le_of_lt (Nat.sub_le _ _) i.toNat_lt)
    rw [← hj] at hslot
    obtain ⟨item, hat, hc⟩ := (Pool.get_eq_ok_iff h).1 (Pool.get_eq_ok_iff_slots.2 hslot)
    refine ⟨_, item, hat, ?_, ?_⟩
    · rwa [← Item.kind_of_constant hc]
    · omega
  · intro h'
    obtain ⟨j, item, hat, hwide, hij⟩ := h'
    obtain ⟨c, hget, hkind⟩ := hat.exists_get h
    refine ⟨c, ?_, hkind ▸ hwide⟩
    rw [hij, Nat.add_sub_cancel]
    exact Pool.get_eq_ok_iff_slots.1 hget

/-- A slot is unusable exactly when a look-up finds nothing there. -/
lemma Item.unusable_iff (h : Item.pool items = .ok pool) (i : UInt16) :
    Item.Unusable items i ↔ pool.get i = .error (.index i) := by
  have hget : pool.get i = .error (.index i) ↔ ¬ ∃ c, pool.get i = .ok c := by
    rcases pool.get_cases i with ⟨c, hc⟩ | hnone
    · simp [hc]
    · simp [hnone]
  obtain ⟨cs, hcs, hpool⟩ := Item.pool_eq_ok_iff.1 h
  have hexists := Constant.exists_get_layOut_iff cs i
  rw [← hpool, Item.length_layOut hcs] at hexists
  rw [hget, hexists, Item.Unusable]
  rcases Nat.eq_zero_or_pos i.toNat with hzero | hpos
  · have hi : i = 0 := UInt16.toNat_inj.1 hzero
    simp [hi]
  · have hi : i ≠ 0 := by
      rintro rfl
      cases hpos
    rw [← Item.holdsWide_iff h hpos]
    simp only [hi, false_or]
    by_cases hwide : pool.HoldsWide (i.toNat - 1)
    · simp [hwide]
    · simp only [hwide, or_false, not_false_eq_true, and_true]
      omega

/-- Looks a reference up. -/
def Reference.look (pool : Pool) : Reference → Except Fault String
  | className i => pool.className i
  | text i => pool.text i

/-- A reference resolves exactly if looking it up gives a text. -/
lemma Reference.resolves_iff (h : Item.pool items = .ok pool) (r : Reference) :
    r.Resolves items ↔ ∃ text, r.look pool = .ok text := by
  cases r with
  | className i => simp only [Resolves, look, Pool.className_eq_ok_iff h]
  | text i => simp only [Resolves, look, Pool.text_eq_ok_iff h]

/-- A look-up for a reference fails where the look-up in its slot does. -/
lemma Reference.look_of_get_error {r : Reference} {e : Fault} (h : pool.get r.index = .error e) :
    r.look pool = .error e := by
  cases r with
  | className i => exact bind_of_eq_error h
  | text i => exact bind_of_eq_error h

/-- A look-up for a reference fails on a constant of another kind. -/
lemma Reference.look_of_kind_ne {r : Reference} {c : Constant} (h : pool.get r.index = .ok c)
    (hkind : c.kind ≠ r.kind) : r.look pool = .error (.kind r.index r.kind c.kind) := by
  cases r with
  | className i =>
    rw [look, Pool.className]
    show pool.get i >>= _ = _
    rw [show pool.get i = .ok c from h]
    cases c with
    | classRef n => exact absurd rfl hkind
    | utf8 text => rfl
    | other k payload => rfl
  | text i =>
    rw [look, Pool.text]
    show pool.get i >>= _ = _
    rw [show pool.get i = .ok c from h]
    cases c with
    | utf8 text => exact absurd rfl hkind
    | classRef n => rfl
    | other k payload => rfl

/-- A reference that fails is looked up with its fault. -/
lemma Reference.Fails.look_eq {r : Reference} {e : Fault} (hfails : r.Fails items e)
    (h : Item.pool items = .ok pool) : r.look pool = .error e := by
  induction hfails with
  | unusable hslot => exact look_of_get_error ((Item.unusable_iff h _).1 hslot)
  | kind hat hkind =>
    obtain ⟨c, hget, hc⟩ := hat.exists_get h
    rw [← hc] at hkind ⊢
    exact look_of_kind_ne hget hkind
  | @name i n e hat _ ih =>
    have hget := (Pool.get_eq_ok_iff h).2 ⟨_, hat, rfl⟩
    show pool.className i = .error e
    rw [Pool.className, hget]
    exact ih

/-- A look-up that fails has a fault of the reference, unless a constant of the right kind stands in its slot. -/
lemma Reference.fails_or_exists_kind {r : Reference} {e : Fault} (h : Item.pool items = .ok pool)
    (hlook : r.look pool = .error e) :
    r.Fails items e ∨ ∃ item c, Item.At items r.index item ∧ item.constant = .ok c ∧ pool.get r.index = .ok c ∧
      item.kind = r.kind := by
  rcases pool.get_cases r.index with ⟨c, hget⟩ | hnone
  · obtain ⟨item, hat, hc⟩ := (Pool.get_eq_ok_iff h).1 hget
    have hsame := Item.kind_of_constant hc
    by_cases hkind : item.kind = r.kind
    · exact .inr ⟨item, c, hat, hc, hget, hkind⟩
    · have hfault := look_of_kind_ne hget (hsame ▸ hkind)
      rw [hlook, hsame] at hfault
      cases hfault
      exact .inl (.kind hat hkind)
  · have hfault := look_of_get_error hnone
    rw [hlook] at hfault
    cases hfault
    exact .inl (.unusable ((Item.unusable_iff h _).2 hnone))

/-- The look-up of a reference fails with a fault of the reference. -/
lemma Reference.fails_of_look {r : Reference} {e : Fault} (henc : ∀ item ∈ items, item.Encodable)
    (h : Item.pool items = .ok pool) (hlook : r.look pool = .error e) : r.Fails items e := by
  have hencodable : ∀ {i item}, Item.At items i item → item.Encodable := by
    intro i item hat
    obtain ⟨before, after, rfl, -⟩ := hat
    exact henc item (List.mem_append_right before List.mem_cons_self)
  have htext : ∀ {i e}, (text i).look pool = .error e → (text i).Fails items e := by
    intro i e hlook
    rcases fails_or_exists_kind h hlook with hfails | ⟨item, c, hat, hc, hget, hkind⟩
    · exact hfails
    · -- A stored constant of the kind of texts is a text, and then the look-up does not fail.
      have hitem := hencodable hat
      cases item with
      | classRef n => cases hkind
      | other k payload => exact absurd hkind hitem.1
      | utf8 encoded =>
        rw [Item.constant] at hc
        split at hc
        · cases hc
          rw [look, Pool.text, show pool.get i = .ok (.utf8 _) from hget] at hlook
          cases hlook
        · cases hc
  cases r with
  | text i => exact htext hlook
  | className i =>
    rcases fails_or_exists_kind h hlook with hfails | ⟨item, c, hat, hc, hget, hkind⟩
    · exact hfails
    · have hitem := hencodable hat
      cases item with
      | utf8 encoded => cases hkind
      | other k payload => exact absurd hkind hitem.2.1
      | classRef n =>
        cases hc
        rw [look, Pool.className, show pool.get i = .ok (.classRef n) from hget] at hlook
        exact .name hat (htext hlook)

/-- The faults of references are those of their look-ups. -/
lemma Reference.fails_iff (henc : ∀ item ∈ items, item.Encodable) (h : Item.pool items = .ok pool) (r : Reference)
    (e : Fault) : r.Fails items e ↔ r.look pool = .error e :=
  ⟨fun hfails => hfails.look_eq h, fails_of_look henc h⟩

end

/-! ### All references -/

/-- The first value over lists in a row is the first one that a list has. -/
lemma findSome?_flatMap {α β γ : Type} (f : β → Option γ) (g : α → List β) (xs : List α) :
    (xs.flatMap g).findSome? f = xs.findSome? fun x => (g x).findSome? f := by
  induction xs with
  | nil => rfl
  | cons x xs ih =>
    rw [List.flatMap_cons, List.findSome?_append, ih, List.findSome?_cons]
    cases (g x).findSome? f <;> rfl

section

variable (pool : Pool)

/-- The fault with which the look-up of a reference fails. -/
def Reference.fault? (r : Reference) : Option Fault := error? (r.look pool)

/-- The first fault of references one behind the other. -/
def firstFault? (rs : List Reference) : Option Fault := rs.findSome? (Reference.fault? pool)

/-- The first fault of references in a row is that of the first ones, or else that of the others. -/
lemma firstFault?_append (rs rs' : List Reference) :
    firstFault? pool (rs ++ rs') = (firstFault? pool rs).or (firstFault? pool rs') := List.findSome?_append

/-- The first fault of references is that of the first reference, or else that of the others. -/
lemma firstFault?_cons (r : Reference) (rs : List Reference) :
    firstFault? pool (r :: rs) = (error? (r.look pool)).or (firstFault? pool rs) := by
  rw [firstFault?, List.findSome?_cons, Reference.fault?]
  cases error? (r.look pool) <;> rfl

/-- The fault of a superclass is that of its reference, if there is one. -/
lemma error?_superclass (i : UInt16) :
    error? (pool.superclass i) = firstFault? pool (if i = 0 then [] else [.className i]) := by
  rw [Pool.superclass]
  split
  · rfl
  · rw [error?_map, firstFault?_cons]
    exact (Option.or_none).symm

/-- The fault of interfaces is the first one of their references. -/
lemma error?_interfaces (is : List UInt16) :
    error? (is.mapM pool.className) = firstFault? pool (is.map .className) := by
  rw [error?_mapM, firstFault?, List.findSome?_map]
  rfl

/-- The fault of a member is the first one of its references. -/
lemma StoredMember.error?_resolve (m : StoredMember) :
    error? (m.resolve pool) = firstFault? pool m.references := by
  rw [resolve, references, firstFault?_cons, firstFault?_cons]
  apply error?_bind
  intro name
  apply error?_bind
  intro descriptor
  rfl

/-- The fault of members is the first one of their references. -/
lemma StoredMember.error?_mapM_resolve (ms : List StoredMember) :
    error? (ms.mapM (StoredMember.resolve pool)) = firstFault? pool (ms.flatMap StoredMember.references) := by
  rw [error?_mapM, firstFault?, findSome?_flatMap]
  simp only [StoredMember.error?_resolve, firstFault?]

/-- Resolving what stands behind a pool comes to the first fault of its references. -/
lemma Layout.error?_resolveBody (c : Layout) :
    error? (c.resolveBody pool) = firstFault? pool c.references := by
  rw [resolveBody, references, firstFault?_cons, firstFault?_append, firstFault?_append, firstFault?_append,
    ← error?_superclass, ← error?_interfaces, ← StoredMember.error?_mapM_resolve, ← StoredMember.error?_mapM_resolve]
  apply error?_bind
  intro name
  apply error?_bind
  intro superclass
  apply error?_bind
  intro interfaces
  apply error?_bind
  intro fields
  exact error?_bind_pure _ _

end

/-- The first reference that fails has the first fault. -/
lemma firstFault?_eq_some_iff {items : List Item} {pool : Pool} (henc : ∀ item ∈ items, item.Encodable)
    (h : Item.pool items = .ok pool) {rs : List Reference} {e : Fault} :
    firstFault? pool rs = some e ↔
      ∃ before bad after, rs = before ++ bad :: after ∧ bad.Fails items e ∧ ∀ r ∈ before, r.Resolves items := by
  simp only [firstFault?, List.findSome?_eq_some_iff, Reference.fault?, error?_eq_some_iff, error?_eq_none_iff,
    Reference.fails_iff henc h, Reference.resolves_iff h]

/-- References have no fault exactly if all of them resolve. -/
lemma firstFault?_eq_none_iff {items : List Item} {pool : Pool} (h : Item.pool items = .ok pool)
    {rs : List Reference} : firstFault? pool rs = none ↔ ∀ r ∈ rs, r.Resolves items := by
  simp only [firstFault?, List.findSome?_eq_none_iff, Reference.fault?, error?_eq_none_iff,
    Reference.resolves_iff h]

section

variable {c : Layout} {pool : Pool}

/-- A pool that can be read back is that of the stored constants. -/
lemma Item.pool_eq_of_read {items : List Item} (hcount : 1 + Item.widths items < 0x10000)
    (henc : ∀ item ∈ items, item.Encodable) (h : Pool.read.run (Item.encodePool items) = .ok (pool, [])) :
    Item.pool items = .ok pool := by
  have hread := Pool.decodes_pool.run_encode [] ⟨hcount, henc⟩
  rw [List.append_nil, h] at hread
  cases hpool : Item.pool items with
  | error e =>
    rw [hpool] at hread
    cases hread
  | ok pool' =>
    rw [hpool] at hread
    cases hread
    rfl

/-- Parsing the encoding of a layout with a pool comes to the first fault of its references, and then to what stands
behind it. -/
lemma parse_of_pool (henc : c.Encodable) (hnew : 45 ≤ c.majorVersion) (h : Item.pool c.items = .ok pool)
    (t : Bytes) :
    parse (c.encode ++ t) = c.resolveBody pool >>= fun declaration =>
      if t = [] then .ok ⟨c.minorVersion, c.majorVersion, declaration⟩ else .error (.trailing t.length) := by
  have hold : ¬ c.majorVersion < oldestMajor := UInt16.not_lt.2 hnew
  rw [parse_encode_append henc, Layout.resolve, if_neg hold, h]
  show (c.resolveBody pool >>= _) >>= _ = _
  cases c.resolveBody pool <;> rfl

end

/-- The first bad reference decides. Of a layout that is new enough and has a pool that can be read, take the
references in the order of the file: the class, the superclass unless there is none, the interfaces, and the name and
descriptor of each field and then of each method. If one of them does not resolve, the encoding with anything behind
it has the fault of the first such reference: its index where the slot is unusable, and otherwise the kind of constant
that stands there instead; for a class it may be the index of its name. If all of them resolve, the only fault there
can be is that something stands behind the class file. -/
theorem first_bad_reference_decides {c : Layout} (henc : c.Encodable) (hnew : 45 ≤ c.majorVersion)
    (hpool : ∃ pool, Pool.read.run (Item.encodePool c.items) = .ok (pool, [])) (t : Bytes) :
    (∀ r ∈ c.references, ¬ r.Resolves c.items →
      ∃ before bad after e, c.references = before ++ bad :: after ∧ (∀ q ∈ before, q.Resolves c.items) ∧
        bad.Fails c.items e ∧ parse (c.encode ++ t) = .error e) ∧
    (∀ before bad after e, c.references = before ++ bad :: after → (∀ q ∈ before, q.Resolves c.items) →
      bad.Fails c.items e → ¬ bad.Resolves c.items ∧ parse (c.encode ++ t) = .error e) ∧
    ((∀ r ∈ c.references, r.Resolves c.items) →
      (t ≠ [] → parse (c.encode ++ t) = .error (.trailing t.length)) ∧
      (t = [] → ∃ file, c.Denotes file ∧ parse (c.encode ++ t) = .ok file)) := by
  obtain ⟨pool, hread⟩ := hpool
  obtain ⟨⟨hcount, hitems⟩, -⟩ := c.encodable_iff.1 henc
  have h := Item.pool_eq_of_read hcount hitems hread
  have hparse := parse_of_pool henc hnew h t
  have hfault : ∀ e, firstFault? pool c.references = some e → parse (c.encode ++ t) = .error e := by
    intro e he
    rw [← Layout.error?_resolveBody, error?_eq_some_iff] at he
    rw [hparse]
    exact bind_of_eq_error he
  refine ⟨?_, ?_, ?_⟩
  · intro r hr hbad
    cases hfirst : firstFault? pool c.references with
    | none => exact absurd ((firstFault?_eq_none_iff h).1 hfirst r hr) hbad
    | some e =>
      obtain ⟨before, bad, after, hsplit, hfails, hbefore⟩ := (firstFault?_eq_some_iff hitems h).1 hfirst
      exact ⟨before, bad, after, e, hsplit, hbefore, hfails, hfault e hfirst⟩
  · intro before bad after e hsplit hbefore hfails
    refine ⟨?_, hfault e ((firstFault?_eq_some_iff hitems h).2 ⟨before, bad, after, hsplit, hfails, hbefore⟩)⟩
    intro hresolves
    obtain ⟨text, htext⟩ := (Reference.resolves_iff h bad).1 hresolves
    cases htext.symm.trans (hfails.look_eq h)
  · intro hall
    have hnone := (firstFault?_eq_none_iff h).2 hall
    rw [← Layout.error?_resolveBody, error?_eq_none_iff] at hnone
    obtain ⟨declaration, hbody⟩ := hnone
    rw [hbody] at hparse
    refine ⟨?_, ?_⟩
    · intro ht
      rw [hparse]
      exact if_neg ht
    · intro ht
      refine ⟨_, (Layout.resolveBody_eq_ok_iff h).1 hbody, ?_⟩
      rw [hparse]
      exact if_pos ht

/-- A class `p/A` with a long constant in slots 3 and 4. Its second interface is a class of which the name is that
constant, and a field behind it takes the second slot of the constant for its name. -/
def crossedLayout : Layout where
  minorVersion := 0
  majorVersion := 52
  items := [.utf8 [112, 47, 65], .classRef 1, .other .long [0, 0, 0, 0, 0, 0, 0, 42], .classRef 3]
  access := 0x0021
  thisClass := 2
  superclass := 0
  interfaces := [2, 5]
  fields := [⟨0, 4, 1, []⟩]
  methods := []
  attributes := []

/-- In the layout with crossed references, the first one that is looked up decides, whatever bytes come behind. -/
theorem crossedLayout_fault :
    crossedLayout.Encodable ∧ 45 ≤ crossedLayout.majorVersion ∧
      (∃ pool, Pool.read.run (Item.encodePool crossedLayout.items) = .ok (pool, [])) ∧
      parse (crossedLayout.encode ++ [7]) = .error (.kind 3 .utf8 .long) := by
  have henc : crossedLayout.Encodable := by decide
  have hpool : ∃ pool, Pool.read.run (Item.encodePool crossedLayout.items) = .ok (pool, []) := ⟨_, rfl⟩
  have hnamed : Reference.Resolves crossedLayout.items (.className 2) :=
    ⟨"p/A", 1, ⟨[.utf8 [112, 47, 65]], _, rfl, rfl⟩, [112, 47, 65], ⟨[], _, rfl, rfl⟩, rfl⟩
  have hlong : Item.At crossedLayout.items 3 (.other .long [0, 0, 0, 0, 0, 0, 0, 42]) :=
    ⟨[.utf8 [112, 47, 65], .classRef 1], _, rfl, rfl⟩
  have hclass : Item.At crossedLayout.items 5 (.classRef 3) :=
    ⟨[.utf8 [112, 47, 65], .classRef 1, .other .long [0, 0, 0, 0, 0, 0, 0, 42]], _, rfl, rfl⟩
  have hfails : Reference.Fails crossedLayout.items (.className 5) (.kind 3 .utf8 .long) := by
    apply Reference.Fails.name hclass
    exact Reference.Fails.kind (r := .text 3) hlong (by decide)
  obtain ⟨-, hfirst, -⟩ := first_bad_reference_decides henc (by decide) hpool [7]
  refine ⟨henc, by decide, hpool, (hfirst [.className 2, .className 2] _ [.text 4, .text 1] _ rfl ?_ hfails).2⟩
  intro q hq
  obtain rfl : q = .className 2 := by simpa using hq
  exact hnamed

end ClassStub.ClassFile
