import ClassStub.ClassFile.Pool
import ClassStub.Proofs.ClassFile.Decoding

/-!
# Stored constants and their slots

`Constant.read` reads exactly the encodings of stored constants, and `Pool.read` those of pools whose constants
fill the stored number of slots. In the pool that is read, a look-up finds the stored constant of which the slot
is one behind the slots of all constants in front of it: `Item.At` says so without the pool, `Item.NamesText` and
`Item.NamesClass` say what a text index and a class index stand for, and the look-ups agree with them.
-/

namespace ClassStub.ClassFile

open Reader

/-- A kind is found by its tag. -/
lemma Kind.ofTag?_tag (k : Kind) : Kind.ofTag? k.tag = some k := by
  cases k <;> decide

/-- The tag of a kind that is found is the one it was found by. -/
lemma Kind.tag_of_ofTag? {t : UInt8} {k : Kind} (h : Kind.ofTag? t = some k) : k.tag = t := by
  have := List.find?_some h
  simpa using this

/-- What the reader keeps of a stored constant. -/
def Item.constant : Item → Except Fault Constant
  | utf8 encoded =>
    match Text.ModifiedUtf8.decode encoded with
    | some text => .ok (.utf8 text)
    | none => .error .text
  | classRef name => .ok (.classRef name)
  | other k payload => .ok (.other k payload)

/-- The constant of an item has the kind of the item. -/
lemma Item.kind_of_constant {item : Item} {c : Constant} (h : item.constant = .ok c) :
    c.kind = item.kind := by
  cases item with
  | utf8 encoded =>
    simp only [constant] at h
    split at h
    · cases h; rfl
    · cases h
  | classRef name => cases h; rfl
  | other k payload => cases h; rfl

/-- Constants that are neither texts nor class references are read as payload of a fixed size. -/
lemma Constant.readBody_other {k : Kind} (hu : k ≠ .utf8) (hc : k ≠ .classRef) :
    readBody k = do
      let payload ← Reader.bytes k.payloadSize
      return other k payload := by
  cases k <;> first | rfl | contradiction

/-- A constant is read by its tag first. -/
lemma Constant.run_read_tag (k : Kind) (rest : Bytes) :
    Constant.read.run (k.tag :: rest) = (readBody k).run rest := by
  have htag : u1.run (k.tag :: rest) = .ok (k.tag, rest) := by
    have hone : Bytes.ofNumber 1 k.tag.toNat = [k.tag] := by cases k <;> decide
    have h := decodes_u1.run_encode rest (x := k.tag) trivial
    rw [hone] at h
    exact h
  rw [Constant.read, run_bind_of_ok htag, Kind.ofTag?_tag]

/-- A constant begins with the tag of a kind, and the rest is read after that kind. -/
lemma Constant.run_read_eq_ok {input rest : Bytes} {c : Constant}
    (h : Constant.read.run input = .ok (c, rest)) :
    ∃ k mid, input = k.tag :: mid ∧ (readBody k).run mid = .ok (c, rest) := by
  obtain ⟨tag, mid, htag, hbody⟩ := run_bind_eq_ok_iff.1 h
  obtain ⟨t, _, ht, hinput⟩ := decodes_u1.run_eq_ok_iff.1 htag
  cases ht
  cases hk : Kind.ofTag? tag with
  | none => rw [hk] at hbody; cases hbody
  | some k =>
    rw [hk] at hbody
    refine ⟨k, mid, ?_, hbody⟩
    rw [hinput, Kind.tag_of_ofTag? hk]
    simp [Bytes.ofNumber]

/-- A text is read as its length and so many bytes, which have to decode. -/
lemma Constant.run_readBody_utf8 {encoded : Bytes} (hlen : encoded.length < 0x10000) (rest : Bytes) :
    (readBody .utf8).run (Bytes.ofNumber 2 encoded.length ++ encoded ++ rest) =
      (Item.constant (.utf8 encoded)).map (·, rest) := by
  have hbytes := run_bytes_append encoded rest
  rw [← UInt16.toNat_ofNat_of_lt' (n := encoded.length) hlen] at hbytes
  rw [readBody, List.append_assoc, ← encodeU2_ofNat hlen, run_bind_of_ok (run_u2_encode _ _),
    run_bind_of_ok hbytes, Item.constant]
  cases Text.ModifiedUtf8.decode encoded <;> rfl

/-- The reader of constants reads exactly the encodings of stored constants. -/
lemma Item.decodes_constant : Decodes Constant.read Item.Encodable Item.encode Item.constant where
  run_encode {item} rest henc := by
    rw [Item.encode, List.cons_append, Constant.run_read_tag]
    cases item with
    | utf8 encoded => exact Constant.run_readBody_utf8 henc rest
    | classRef name => exact run_bind_of_ok (run_u2_encode name rest)
    | other k payload =>
      obtain ⟨hu, hc, hlen⟩ := henc
      show StateT.run (Constant.readBody k) _ = _
      rw [Constant.readBody_other hu hc, ← hlen]
      exact run_bind_of_ok (run_bytes_append payload rest)
  exists_encode {input rest c} h := by
    obtain ⟨k, mid, rfl, hbody⟩ := Constant.run_read_eq_ok h
    -- Texts and classes have readers of their own; all other kinds are payloads of a fixed size.
    by_cases hu : k = .utf8
    · subst hu
      obtain ⟨size, mid', hsize, htail⟩ := run_bind_eq_ok_iff.1 hbody
      obtain ⟨encoded, mid'', htake, hdecode⟩ := run_bind_eq_ok_iff.1 htail
      obtain rfl := run_u2_eq_ok hsize
      obtain ⟨hlen, rfl⟩ := run_bytes_eq_ok htake
      have hrest : mid'' = rest := by
        split at hdecode
        · exact (run_pure_eq_ok_iff.1 hdecode).2
        · cases hdecode
      subst hrest
      refine ⟨.utf8 encoded, ?_, ?_⟩
      · show encoded.length < 0x10000
        exact hlen ▸ size.toNat_lt
      · show _ = Kind.utf8.tag :: (Bytes.ofNumber 2 encoded.length ++ encoded) ++ mid''
        rw [hlen, List.cons_append, List.append_assoc]
        rfl
    · by_cases hc : k = .classRef
      · subst hc
        obtain ⟨name, mid', hname, hpure⟩ := run_bind_eq_ok_iff.1 hbody
        obtain rfl := run_u2_eq_ok hname
        obtain ⟨_, rfl⟩ := run_pure_eq_ok_iff.1 hpure
        exact ⟨.classRef name, trivial, rfl⟩
      · rw [Constant.readBody_other hu hc] at hbody
        obtain ⟨payload, mid', htake, hpure⟩ := run_bind_eq_ok_iff.1 hbody
        obtain ⟨hlen, rfl⟩ := run_bytes_eq_ok htake
        obtain ⟨_, rfl⟩ := run_pure_eq_ok_iff.1 hpure
        exact ⟨.other k payload, ⟨hu, hc, hlen⟩, rfl⟩

/-- The slots that a constant takes. -/
def Constant.slots (c : Constant) : List (Option Constant) :=
  if c.kind.isWide then [some c, none] else [some c]

/-- Every constant has a slot. -/
lemma Constant.slots_length_pos (c : Constant) : 0 < c.slots.length := by
  rw [Constant.slots]
  split <;> simp

/-- The slots of stored constants, from slot 1 on. -/
def Item.slots (items : List Item) : Except Fault (List (Option Constant)) :=
  (items.mapM Item.constant).map (List.flatMap Constant.slots)

/-- The slots of items are those of the first and those of the others. -/
lemma Item.slots_cons (item : Item) (items : List Item) :
    Item.slots (item :: items) = do
      let c ← item.constant
      let others ← Item.slots items
      return c.slots ++ others := by
  rw [Item.slots, List.mapM_cons, map_bind]
  congr 1
  funext c
  rw [map_bind, Item.slots]
  cases items.mapM Item.constant <;> rfl

/-- Every item takes up a slot. -/
lemma Item.width_pos (item : Item) : 0 < item.width := by
  rw [Item.width]
  split <;> omega

/-- The constant of an item has as many slots as the item takes up. -/
lemma Item.length_slots {item : Item} {c : Constant} (h : item.constant = .ok c) :
    c.slots.length = item.width := by
  rw [Constant.slots, Item.width, ← Item.kind_of_constant h]
  split <;> rfl

/-- What follows a first constant, with `free` slots behind its first one. -/
def Pool.fill (free : Nat) (c : Constant) : Reader (List (Option Constant)) :=
  if c.kind.isWide then
    match free with
    | 0 => throw .splitConstant
    | free + 1 => do
      let others ← readSlots free
      return some c :: none :: others
  else do
    let others ← readSlots free
    return some c :: others

/-- While slots are free, a constant is read and its slots are filled. -/
lemma Pool.readSlots_succ (free : Nat) : readSlots (free + 1) = Constant.read >>= fill free := by
  cases free <;> rfl

/-- A constant that fits is followed by constants for the slots that it leaves. -/
lemma Pool.fill_eq {free n : Nat} {c : Constant} (h : c.slots.length + n = free + 1) :
    fill free c = do
      let others ← readSlots n
      return c.slots ++ others := by
  by_cases hwide : c.kind.isWide = true
  · have hslots : c.slots = [some c, none] := by rw [Constant.slots, if_pos hwide]
    obtain rfl : free = n + 1 := by
      rw [hslots, List.length_cons, List.length_singleton] at h
      omega
    simp only [fill, hwide, if_true, hslots]
    rfl
  · have hslots : c.slots = [some c] := by rw [Constant.slots, if_neg hwide]
    obtain rfl : free = n := by
      rw [hslots, List.length_singleton] at h
      omega
    simp only [fill, hwide, if_false, hslots, Bool.false_eq_true]
    rfl

/-- A wide constant in the last slot is a fault. -/
lemma Pool.fill_eq_throw {free : Nat} {c : Constant} (h : free + 1 < c.slots.length) :
    fill free c = throw .splitConstant := by
  have hwide : c.kind.isWide = true := by
    by_contra hwide
    rw [Constant.slots, if_neg hwide, List.length_singleton] at h
    omega
  obtain rfl : free = 0 := by
    rw [Constant.slots, if_pos hwide, List.length_cons, List.length_singleton] at h
    omega
  simp only [fill, hwide, if_true]

/-- Slots are read exactly from the encodings of constants that fill them. -/
lemma Pool.decodes_slots (free : Nat) :
    Decodes (readSlots free) (fun items => Item.widths items = free ∧ ∀ item ∈ items, item.Encodable)
      (List.flatMap Item.encode) Item.slots where
  run_encode {items} rest hitems := by
    obtain ⟨hwidths, hitems⟩ := hitems
    induction items generalizing free with
    | nil =>
      subst hwidths
      rfl
    | cons item items ih =>
      rw [List.forall_mem_cons] at hitems
      have hpos := item.width_pos
      obtain ⟨free, rfl⟩ : ∃ n, free = n + 1 := ⟨free - 1, by rw [Item.widths] at hwidths; omega⟩
      rw [readSlots_succ, List.flatMap_cons, List.append_assoc,
        run_bind_of_run (Item.decodes_constant.run_encode _ hitems.1), Item.slots_cons, map_bind]
      cases hc : item.constant with
      | error e => rfl
      | ok c =>
        have hfits : c.slots.length + Item.widths items = free + 1 := by
          rw [Item.length_slots hc]
          exact hwidths
        show StateT.run (fill free c) _ = Except.map _ (Item.slots items >>= _)
        rw [fill_eq hfits, run_bind_of_run (ih _ rfl hitems.2), map_bind]
        rfl
  exists_encode {input rest slots} h := by
    -- A wide constant leaves two slots less, so the hypothesis must hold of every smaller number.
    induction free using Nat.strongRecOn generalizing input slots with
    | _ free ih =>
      cases free with
      | zero =>
        obtain ⟨_, rfl⟩ := run_pure_eq_ok_iff.1 h
        exact ⟨[], ⟨rfl, by simp⟩, rfl⟩
      | succ free =>
        rw [readSlots_succ] at h
        obtain ⟨c, mid, hfirst, hfill⟩ := run_bind_eq_ok_iff.1 h
        obtain ⟨item, hitem, hc, rfl⟩ := Item.decodes_constant.run_eq_ok_iff.1 hfirst
        rcases Nat.lt_or_ge (free + 1) c.slots.length with hover | hfits
        · rw [fill_eq_throw hover] at hfill
          cases hfill
        · have hpos := c.slots_length_pos
          have hsum : c.slots.length + (free + 1 - c.slots.length) = free + 1 := by omega
          rw [fill_eq hsum] at hfill
          obtain ⟨others, mid', hothers, hpure⟩ := run_bind_eq_ok_iff.1 hfill
          obtain ⟨_, rfl⟩ := run_pure_eq_ok_iff.1 hpure
          obtain ⟨items, ⟨hwidths, hitems⟩, rfl⟩ := ih _ (by omega) hothers
          refine ⟨item :: items, ⟨?_, List.forall_mem_cons.2 ⟨hitem, hitems⟩⟩, ?_⟩
          · rw [Item.widths, hwidths, ← Item.length_slots hc]
            exact hsum
          · rw [List.flatMap_cons, List.append_assoc]

/-- The pool of stored constants: slot 0 is empty. -/
def Item.pool (items : List Item) : Except Fault Pool :=
  (Item.slots items).map fun slots => ⟨(none :: slots).toArray⟩

/-- The bytes of a pool: the number of its slots, slot 0 included, and its constants. -/
def Item.encodePool (items : List Item) : Bytes :=
  Bytes.ofNumber 2 (1 + Item.widths items) ++ items.flatMap Item.encode

/-- Pools are read exactly from the encodings of constants of which the slots can be counted. -/
lemma Pool.decodes_pool :
    Decodes Pool.read (fun items => 1 + Item.widths items < 0x10000 ∧ ∀ item ∈ items, item.Encodable)
      Item.encodePool Item.pool where
  run_encode {items} rest hitems := by
    have hcount : (UInt16.ofNat (1 + Item.widths items)).toNat = Item.widths items + 1 := by
      rw [UInt16.toNat_ofNat_of_lt' hitems.1, Nat.add_comm]
    rw [Pool.read, Item.encodePool, List.append_assoc, ← encodeU2_ofNat hitems.1,
      run_bind_of_ok (run_u2_encode _ _), hcount]
    show StateT.run (readSlots _ >>= _) _ = _
    rw [run_bind_of_run ((decodes_slots _).run_encode rest ⟨rfl, hitems.2⟩), Item.pool]
    cases Item.slots items <;> rfl
  exists_encode {input rest pool} h := by
    obtain ⟨count, mid, hcount, hslots⟩ := run_bind_eq_ok_iff.1 h
    obtain rfl := run_u2_eq_ok hcount
    cases hn : count.toNat with
    | zero => rw [hn] at hslots; cases hslots
    | succ free =>
      rw [hn] at hslots
      obtain ⟨slots, mid', hread, hpure⟩ := run_bind_eq_ok_iff.1 hslots
      obtain ⟨_, rfl⟩ := run_pure_eq_ok_iff.1 hpure
      obtain ⟨items, ⟨rfl, hitems⟩, rfl⟩ := (decodes_slots free).exists_encode hread
      have hsum : count.toNat = 1 + Item.widths items := by omega
      refine ⟨items, ⟨hsum ▸ count.toNat_lt, hitems⟩, ?_⟩
      rw [Item.encodePool, ← hsum, List.append_assoc]
      rfl

/-- The constant stands in a slot of the pool: one behind the slots of all constants in front of it. -/
def Item.At (items : List Item) (i : UInt16) (item : Item) : Prop :=
  ∃ before after, items = before ++ item :: after ∧ i.toNat = 1 + Item.widths before

/-- The index is that of a text. -/
def Item.NamesText (items : List Item) (i : UInt16) (text : String) : Prop :=
  ∃ encoded, Item.At items i (.utf8 encoded) ∧ Text.ModifiedUtf8.decode encoded = some text

/-- The index is that of a class with a name. -/
def Item.NamesClass (items : List Item) (i : UInt16) (name : String) : Prop :=
  ∃ n, Item.At items i (.classRef n) ∧ Item.NamesText items n name

/-- Of the slots of a constant, only the first one has it. -/
lemma Constant.getElem?_slots {c c' : Constant} {j : Nat} :
    c.slots[j]? = some (some c') ↔ j = 0 ∧ c = c' := by
  rw [Constant.slots]
  split <;> rcases j with _ | _ | j <;> simp

/-- A slot of a pool holds the constant that stands behind as many slots. -/
lemma Item.getElem?_slots {items : List Item} {slots : List (Option Constant)} {j : Nat} {c : Constant}
    (h : Item.slots items = .ok slots) :
    slots[j]? = some (some c) ↔
      ∃ before item after, items = before ++ item :: after ∧ j = Item.widths before ∧ item.constant = .ok c := by
  induction items generalizing slots j with
  | nil =>
    cases h
    simp
  | cons first items ih =>
    rw [Item.slots_cons] at h
    obtain ⟨c₁, hc₁, h⟩ := bind_eq_ok_iff.1 h
    obtain ⟨others, hothers, h⟩ := bind_eq_ok_iff.1 h
    cases h
    have hwidth := Item.length_slots hc₁
    -- The slot is one of the first constant, or it is counted from the end of that one on.
    rcases Nat.lt_or_ge j c₁.slots.length with hlt | hge
    · rw [List.getElem?_append_left hlt, Constant.getElem?_slots]
      constructor
      · intro h'
        obtain ⟨rfl, rfl⟩ := h'
        exact ⟨[], first, items, rfl, rfl, hc₁⟩
      · intro h'
        obtain ⟨before, item, after, hitems, rfl, hc⟩ := h'
        cases before with
        | nil =>
          cases hitems
          exact ⟨rfl, Except.ok.inj (hc₁.symm.trans hc)⟩
        | cons x before =>
          cases hitems
          rw [Item.widths] at hlt
          omega
    · rw [List.getElem?_append_right hge, ih hothers]
      constructor
      · intro h'
        obtain ⟨before, item, after, rfl, hj, hc⟩ := h'
        refine ⟨first :: before, item, after, rfl, ?_, hc⟩
        rw [Item.widths]
        omega
      · intro h'
        obtain ⟨before, item, after, hitems, rfl, hc⟩ := h'
        cases before with
        | nil =>
          rw [Item.widths, hwidth] at hge
          have hpos := first.width_pos
          omega
        | cons x before =>
          cases hitems
          refine ⟨before, item, after, rfl, ?_, hc⟩
          rw [Item.widths]
          omega

/-- A look-up finds exactly the constants that stand in the slot. -/
lemma Pool.get_eq_ok_iff {items : List Item} {pool : Pool} {i : UInt16} {c : Constant}
    (h : Item.pool items = .ok pool) :
    pool.get i = .ok c ↔ ∃ item, Item.At items i item ∧ item.constant = .ok c := by
  cases hslots : Item.slots items with
  | error e => rw [Item.pool, hslots] at h; cases h
  | ok slots =>
    rw [Item.pool, hslots] at h
    cases h
    have hget : Pool.get ⟨(none :: slots).toArray⟩ i = .ok c ↔ (none :: slots)[i.toNat]? = some (some c) := by
      simp only [Pool.get, List.getElem?_toArray]
      split <;> simp_all
    rw [hget]
    cases hi : i.toNat with
    | zero =>
      simp only [Item.At, hi]
      constructor
      · intro h
        cases h
      · intro h'
        obtain ⟨item, ⟨before, after, _, hzero⟩, _⟩ := h'
        omega
    | succ j =>
      rw [List.getElem?_cons_succ, Item.getElem?_slots hslots]
      constructor
      · intro h'
        obtain ⟨before, item, after, hitems, hj, hc⟩ := h'
        exact ⟨item, ⟨before, after, hitems, by omega⟩, hc⟩
      · intro h'
        obtain ⟨item, ⟨before, after, hitems, hj⟩, hc⟩ := h'
        exact ⟨before, item, after, hitems, by omega, hc⟩

/-- The text at an index of the pool is the one that the items name there. -/
lemma Pool.text_eq_ok_iff {items : List Item} {pool : Pool} {i : UInt16} {s : String}
    (h : Item.pool items = .ok pool) : pool.text i = .ok s ↔ Item.NamesText items i s := by
  have htext : pool.text i = .ok s ↔ pool.get i = .ok (.utf8 s) := by
    rw [Pool.text, bind_eq_ok_iff]
    constructor
    · intro h'
      obtain ⟨c, hget, hc⟩ := h'
      cases c with
      | utf8 text => cases hc; exact hget
      | classRef name => cases hc
      | other k payload => cases hc
    · intro hget
      exact ⟨_, hget, rfl⟩
  rw [htext, Pool.get_eq_ok_iff h]
  constructor
  · intro h'
    obtain ⟨item, hat, hc⟩ := h'
    cases item with
    | utf8 encoded =>
      refine ⟨encoded, hat, ?_⟩
      rw [Item.constant] at hc
      split at hc
      · cases hc; assumption
      · cases hc
    | classRef name => cases hc
    | other k payload => cases hc
  · intro h'
    obtain ⟨encoded, hat, hdecode⟩ := h'
    refine ⟨.utf8 encoded, hat, ?_⟩
    rw [Item.constant, hdecode]

/-- The class name at an index of the pool is the one that the items name there. -/
lemma Pool.className_eq_ok_iff {items : List Item} {pool : Pool} {i : UInt16} {s : String}
    (h : Item.pool items = .ok pool) : pool.className i = .ok s ↔ Item.NamesClass items i s := by
  have hname : pool.className i = .ok s ↔ ∃ n, pool.get i = .ok (.classRef n) ∧ pool.text n = .ok s := by
    rw [Pool.className, bind_eq_ok_iff]
    constructor
    · intro h'
      obtain ⟨c, hget, hc⟩ := h'
      cases c with
      | utf8 text => cases hc
      | classRef name => exact ⟨name, hget, hc⟩
      | other k payload => cases hc
    · intro h'
      obtain ⟨n, hget, htext⟩ := h'
      exact ⟨_, hget, htext⟩
  rw [hname]
  constructor
  · intro h'
    obtain ⟨n, hget, htext⟩ := h'
    obtain ⟨item, hat, hc⟩ := (Pool.get_eq_ok_iff h).1 hget
    cases item with
    | utf8 encoded =>
      have := Item.kind_of_constant hc
      cases this
    | classRef name => cases hc; exact ⟨n, hat, (Pool.text_eq_ok_iff h).1 htext⟩
    | other k payload => cases hc
  · intro h'
    obtain ⟨n, hat, hn⟩ := h'
    exact ⟨n, (Pool.get_eq_ok_iff h).2 ⟨_, hat, rfl⟩, (Pool.text_eq_ok_iff h).2 hn⟩

end ClassStub.ClassFile
