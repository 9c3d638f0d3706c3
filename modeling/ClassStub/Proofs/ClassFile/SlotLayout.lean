import Mathlib.Algebra.Ring.Nat
import ClassStub.Proofs.ClassFile.ConstantPool

/-!
# Where the constants of a pool stand

The slots of a pool are read in a loop: as long as there are free slots, a constant is read and takes one of them, or
two when it is wide. `Pool.Filling` is that loop with its two guards, and `Filling.run_readSlots` says that the reader
of pools goes on from each of its states. The number of slots stays within the stored count (`Filling.length_le`), a
wide constant for which there is one slot left is refused, and a pool that was read is `Constant.layOut` of the
constants in the order in which they were read: there a slot is empty exactly when it is slot 0 or the slot in front of
it holds a wide constant (`Constant.layOut_eq_none_iff`).
-/

namespace ClassStub.ClassFile

open Reader

/-- The slots of a pool with given constants. -/
def Constant.layOut (cs : List Constant) : List (Option Constant) := none :: cs.flatMap Constant.slots

/-- How many slots a constant takes. -/
def Constant.width (c : Constant) : Nat := if c.kind.isWide then 2 else 1

/-- A constant has one slot, and a wide one two. -/
lemma Constant.length_slots (c : Constant) : c.slots.length = c.width := by
  rw [Constant.slots, Constant.width]
  split <;> rfl

/-- Constants in a row have as many slots as they take. -/
lemma Constant.length_flatMap_slots (cs : List Constant) :
    (cs.flatMap Constant.slots).length = (cs.map Constant.width).sum := by
  rw [List.length_flatMap, funext Constant.length_slots]

/-- A constant behind others is laid out behind them. -/
lemma Constant.layOut_concat (cs : List Constant) (c : Constant) : layOut (cs ++ [c]) = layOut cs ++ c.slots := by
  simp [layOut]

/-! ### The loop -/

/-- The loop over a pool of `count` slots has read the constants `cs` from the input and stands in front of the rest. A
constant is read while there are free slots, and a wide one must leave room for its second slot. -/
inductive Pool.Filling (count : Nat) (input : Bytes) : List Constant → Bytes → Prop where
  | start : Filling count input [] input
  | next {cs c mid rest} :
    Filling count input cs mid →
    (Constant.layOut cs).length < count →
    Constant.read.run mid = .ok (c, rest) →
    (c.kind.isWide = true → (Constant.layOut cs).length + 1 < count) →
    Filling count input (cs ++ [c]) rest

section

variable {count free : Nat} {input mid rest : Bytes} {cs : List Constant} {c : Constant}

/-- With its slots free, a constant is laid out within the count. -/
lemma Constant.length_layOut_concat_le (hfree : (layOut cs).length < count)
    (hwide : c.kind.isWide = true → (layOut cs).length + 1 < count) : (layOut (cs ++ [c])).length ≤ count := by
  rw [layOut_concat, List.length_append, Constant.length_slots, Constant.width]
  split
  · have := hwide ‹_›
    omega
  · omega

/-- The loop never has more slots than were announced. -/
lemma Pool.Filling.length_le (h : Filling count input cs rest) (hcount : 1 ≤ count) :
    (Constant.layOut cs).length ≤ count := by
  induction h with
  | start => exact hcount
  | next _ hfree _ hwide _ => exact Constant.length_layOut_concat_le hfree hwide

/-- From each state of the loop, the reader of slots goes on with the slots that are left. -/
lemma Pool.Filling.run_readSlots (h : Filling (count + 1) input cs rest) :
    (readSlots count).run input =
      ((readSlots (count + 1 - (Constant.layOut cs).length)).run rest).map fun (others, last) =>
        (cs.flatMap Constant.slots ++ others, last) := by
  induction h with
  | start =>
    show (readSlots count).run input = ((readSlots count).run input).map id
    cases (readSlots count).run input <;> rfl
  | @next cs c mid rest _ hfree hread hwide ih =>
    have hfits := Constant.length_layOut_concat_le hfree hwide
    have hsum := congrArg List.length (Constant.layOut_concat cs c)
    rw [List.length_append] at hsum
    obtain ⟨left, hleft⟩ : ∃ left, count + 1 - (Constant.layOut cs).length = left + 1 :=
      ⟨count - (Constant.layOut cs).length, by omega⟩
    have hfill : c.slots.length + (count + 1 - (Constant.layOut (cs ++ [c])).length) = left + 1 := by omega
    rw [ih, hleft, readSlots_succ, run_bind_of_ok hread, fill_eq hfill, StateT.run_bind]
    cases (readSlots (count + 1 - (Constant.layOut (cs ++ [c])).length)).run rest with
    | error e => rfl
    | ok pair =>
      show Except.ok (cs.flatMap Constant.slots ++ (c.slots ++ pair.1), pair.2) = Except.ok (_, pair.2)
      rw [List.flatMap_append, List.flatMap_singleton, List.append_assoc]

/-- Slots that were read are those of constants with which the loop comes to its end. -/
lemma Pool.Filling.exists_of_readSlots {slots : List (Option Constant)} (h : Filling count input cs mid)
    (hcount : (Constant.layOut cs).length + free = count) (hread : (readSlots free).run mid = .ok (slots, rest)) :
    ∃ more, Filling count input (cs ++ more) rest ∧ (Constant.layOut (cs ++ more)).length = count ∧
      slots = more.flatMap Constant.slots := by
  -- A wide constant leaves two slots less, so the hypothesis must hold of every smaller number.
  induction free using Nat.strongRecOn generalizing cs mid slots with
  | _ free ih =>
    cases free with
    | zero =>
      obtain ⟨rfl, rfl⟩ := run_pure_eq_ok_iff.1 hread
      refine ⟨[], ?_, ?_, rfl⟩
      · rwa [List.append_nil]
      · rwa [List.append_nil]
    | succ free =>
      rw [readSlots_succ] at hread
      obtain ⟨c, mid', hfirst, hfill⟩ := run_bind_eq_ok_iff.1 hread
      rcases Nat.lt_or_ge (free + 1) c.slots.length with hover | hfits
      · rw [fill_eq_throw hover] at hfill
        cases hfill
      · have hpos := c.slots_length_pos
        have hsum : c.slots.length + (free + 1 - c.slots.length) = free + 1 := by omega
        rw [fill_eq hsum] at hfill
        obtain ⟨others, _, hothers, hpure⟩ := run_bind_eq_ok_iff.1 hfill
        obtain ⟨rfl, rfl⟩ := run_pure_eq_ok_iff.1 hpure
        have hnext : Filling count input (cs ++ [c]) mid' := by
          apply Filling.next h (by omega) hfirst
          intro hwide
          rw [Constant.length_slots, Constant.width, if_pos hwide] at hfits
          omega
        have hlength := congrArg List.length (Constant.layOut_concat cs c)
        rw [List.length_append] at hlength
        obtain ⟨more, hmore, hfull, rfl⟩ := ih _ (by omega) hnext (by omega) hothers
        rw [← List.append_cons] at hmore hfull
        exact ⟨c :: more, hmore, hfull, by rw [List.flatMap_cons]⟩

end

/-- What the reader of pools does behind the count. -/
lemma Pool.run_read_count {n : UInt16} {free : Nat} (hn : n.toNat = free + 1) (input : Bytes) :
    Pool.read.run (encodeU2 n ++ input) =
      ((readSlots free).run input).map fun (slots, rest) => (⟨(none :: slots).toArray⟩, rest) := by
  rw [Pool.read, run_bind_of_ok (run_u2_encode _ _), hn]
  show StateT.run (readSlots free >>= _) _ = _
  rw [StateT.run_bind]
  cases (readSlots free).run input <;> rfl

/-- A pool that was read is the layout of the constants that the loop has read. -/
lemma Pool.exists_filling_of_read {b rest : Bytes} {pool : Pool} (h : Pool.read.run b = .ok (pool, rest)) :
    ∃ (n : UInt16) (input : Bytes) (cs : List Constant), b = encodeU2 n ++ input ∧
      Filling n.toNat input cs rest ∧ (Constant.layOut cs).length = n.toNat ∧
      pool = ⟨(Constant.layOut cs).toArray⟩ := by
  obtain ⟨n, input, hcount, hslots⟩ := run_bind_eq_ok_iff.1 h
  obtain rfl := run_u2_eq_ok hcount
  cases hn : n.toNat with
  | zero =>
    rw [hn] at hslots
    cases hslots
  | succ free =>
    rw [hn] at hslots
    obtain ⟨slots, _, hread, hpure⟩ := run_bind_eq_ok_iff.1 hslots
    obtain ⟨rfl, rfl⟩ := run_pure_eq_ok_iff.1 hpure
    obtain ⟨cs, hfilling, hfull, rfl⟩ := Filling.start.exists_of_readSlots (Nat.add_comm 1 free) hread
    rw [List.nil_append, ← hn] at hfilling hfull
    exact ⟨n, input, cs, rfl, hfilling, hfull, rfl⟩

/-- From each state of the loop, the reader of pools goes on with the slots that are left. -/
lemma Pool.Filling.run_read {n : UInt16} {input rest : Bytes} {cs : List Constant} (h : Filling n.toNat input cs rest)
    (hn : 1 ≤ n.toNat) :
    Pool.read.run (encodeU2 n ++ input) =
      ((readSlots (n.toNat - (Constant.layOut cs).length)).run rest).map fun (others, last) =>
        (⟨(Constant.layOut cs ++ others).toArray⟩, last) := by
  obtain ⟨free, hfree⟩ := Nat.exists_eq_add_of_le' hn
  rw [hfree] at h ⊢
  rw [run_read_count hfree, h.run_readSlots]
  cases (readSlots (free + 1 - (Constant.layOut cs).length)).run rest <;> rfl

/-- A wide constant for which one slot is left ends the reading of the pool. -/
lemma Pool.Filling.run_read_of_split {n : UInt16} {input mid rest : Bytes} {cs : List Constant} {c : Constant}
    (h : Filling n.toNat input cs mid) (hlast : (Constant.layOut cs).length + 1 = n.toNat)
    (hread : Constant.read.run mid = .ok (c, rest)) (hwide : c.kind.isWide = true) :
    Pool.read.run (encodeU2 n ++ input) = .error .splitConstant := by
  have hover : 0 + 1 < c.slots.length := by
    rw [Constant.length_slots, Constant.width, if_pos hwide]
    exact Nat.one_lt_two
  have hone : n.toNat - (Constant.layOut cs).length = 0 + 1 := by omega
  rw [h.run_read (by omega), hone, readSlots_succ, run_bind_of_ok hread, fill_eq_throw hover]
  rfl

/-! ### The slots -/

/-- The slot holds a wide constant. -/
def Pool.HoldsWide (pool : Pool) (i : Nat) : Prop :=
  ∃ c, pool.slots[i]? = some (some c) ∧ c.kind.isWide = true

section

variable {cs : List Constant} {c : Constant}

/-- Behind a slot that holds no wide constant, a slot is empty exactly when it follows a wide constant. -/
lemma Constant.slots_eq_none_iff (front : Option Constant) (hfront : ∀ c, front = some c → ¬ c.kind.isWide = true)
    (cs : List Constant) (j : Nat) :
    (cs.flatMap Constant.slots)[j]? = some none ↔
      ∃ c, (front :: cs.flatMap Constant.slots)[j]? = some (some c) ∧ c.kind.isWide = true := by
  induction cs generalizing front j with
  | nil =>
    cases j with
    | zero => simpa using hfront
    | succ j => simp
  | cons first cs ih =>
    rw [List.flatMap_cons, Constant.slots]
    split
    · rename_i hwide
      rcases j with _ | _ | j
      · simpa using hfront
      · simpa using hwide
      · -- The empty second slot of the wide constant stands in front of the others.
        refine ih none ?_ j
        intro c hc
        cases hc
    · rename_i hnarrow
      rcases j with _ | j
      · simpa using hfront
      · refine ih (some first) ?_ j
        intro c hc
        cases hc
        exact hnarrow

/-- A slot is empty exactly if the one in front of it holds a wide constant. -/
lemma Constant.layOut_eq_none_iff (cs : List Constant) {i : Nat} (hi : 1 ≤ i) :
    (layOut cs)[i]? = some none ↔ Pool.HoldsWide ⟨(layOut cs).toArray⟩ (i - 1) := by
  obtain ⟨j, rfl⟩ := Nat.exists_eq_add_of_le' hi
  simp only [Pool.HoldsWide, List.getElem?_toArray]
  refine slots_eq_none_iff none ?_ cs j
  intro c hc
  cases hc

/-- A constant stands one behind the slots of the constants that were read before it. -/
lemma Constant.layOut_eq_some (before : List Constant) (c : Constant) (after : List Constant) :
    (layOut (before ++ c :: after))[1 + (before.map Constant.width).sum]? = some (some c) := by
  rw [layOut, Nat.add_comm, List.getElem?_cons_succ, ← Constant.length_flatMap_slots, List.flatMap_append,
    List.getElem?_append_right (Nat.le_refl _), Nat.sub_self, List.flatMap_cons, Constant.slots]
  split <;> rfl

end

/-- A look-up finds what the slot holds. -/
lemma Pool.get_eq_ok_iff_slots {pool : Pool} {i : UInt16} {c : Constant} :
    pool.get i = .ok c ↔ pool.slots[i.toNat]? = some (some c) := by
  rw [Pool.get]
  split
  · rename_i constant hslot
    rw [hslot]
    simp
  · rename_i hslot
    refine ⟨?_, fun h => absurd h (hslot c)⟩
    intro h
    cases h

/-- A look-up succeeds in all slots but slot 0 and those behind a wide constant. -/
lemma Constant.exists_get_layOut_iff (cs : List Constant) (i : UInt16) :
    (∃ c, Pool.get ⟨(layOut cs).toArray⟩ i = .ok c) ↔
      1 ≤ i.toNat ∧ i.toNat < (layOut cs).length ∧ ¬ Pool.HoldsWide ⟨(layOut cs).toArray⟩ (i.toNat - 1) := by
  simp only [Pool.get_eq_ok_iff_slots, List.getElem?_toArray]
  rcases Nat.eq_zero_or_pos i.toNat with hzero | hpos
  · rw [hzero]
    simp [layOut]
  · rw [← layOut_eq_none_iff cs hpos]
    cases hslot : (layOut cs)[i.toNat]? with
    | none =>
      have hbehind := List.getElem?_eq_none_iff.1 hslot
      refine ⟨?_, fun h => absurd h.2.1 (Nat.not_lt.2 hbehind)⟩
      rintro ⟨c, hc⟩
      cases hc
    | some slot =>
      have hlt := (List.getElem?_eq_some_iff.1 hslot).1
      cases slot with
      | none => simp
      | some c => simpa using ⟨hpos, hlt⟩

/-- The slots of a pool follow from the order in which its constants are read. A pool that is read has as many slots as
were announced, and slot 0 is empty. Each constant is found one behind the slots of all constants that were read before
it, where long and double constants have two and others one. Any other slot is empty exactly when it follows a long or
double constant, so these are the look-ups inside the pool that fail. While a pool is read, whether or not it comes to
its end, it never has more slots than were announced: a long or double constant is refused when its second slot would
be behind them. -/
theorem Pool.read_slot_layout :
    (∀ (b rest : Bytes) (pool : Pool), Pool.read.run b = .ok (pool, rest) →
      ∃ (n : UInt16) (input : Bytes) (cs : List Constant),
        b = encodeU2 n ++ input ∧ Filling n.toNat input cs rest ∧
        pool.slots.size = n.toNat ∧ pool.slots[0]? = some none ∧
        (∀ k c, cs[k]? = some c →
          ∃ i : UInt16, i.toNat = 1 + ((cs.take k).map Constant.width).sum ∧ pool.get i = .ok c) ∧
        (∀ i, 1 ≤ i → i < n.toNat → (pool.slots[i]? = some none ↔ pool.HoldsWide (i - 1))) ∧
        (∀ i : UInt16, (∃ c, pool.get i = .ok c) ↔
          1 ≤ i.toNat ∧ i.toNat < n.toNat ∧ ¬ pool.HoldsWide (i.toNat - 1))) ∧
    (∀ (n : UInt16) (input rest : Bytes) (cs : List Constant), 1 ≤ n.toNat → Filling n.toNat input cs rest →
      (Constant.layOut cs).length ≤ n.toNat ∧
      Pool.read.run (encodeU2 n ++ input) =
        ((readSlots (n.toNat - (Constant.layOut cs).length)).run rest).map fun (others, last) =>
          (⟨(Constant.layOut cs ++ others).toArray⟩, last)) ∧
    (∀ (n : UInt16) (input mid rest : Bytes) (cs : List Constant) (c : Constant), Filling n.toNat input cs mid →
      (Constant.layOut cs).length + 1 = n.toNat → Constant.read.run mid = .ok (c, rest) → c.kind.isWide = true →
      Pool.read.run (encodeU2 n ++ input) = .error .splitConstant) := by
  refine ⟨?_, ?_, ?_⟩
  · intro b rest pool h
    obtain ⟨n, input, cs, hb, hfilling, hlength, rfl⟩ := exists_filling_of_read h
    refine ⟨n, input, cs, hb, hfilling, hlength, rfl, ?_, ?_, ?_⟩
    · intro k c hk
      obtain ⟨hlt, rfl⟩ := List.getElem?_eq_some_iff.1 hk
      have hsplit := Constant.layOut_eq_some (cs.take k) cs[k] (cs.drop (k + 1))
      rw [← List.drop_eq_getElem_cons, List.take_append_drop] at hsplit
      have hslot := (List.getElem?_eq_some_iff.1 hsplit).1
      rw [hlength] at hslot
      have hi := UInt16.toNat_ofNat_of_lt' (Nat.lt_trans hslot n.toNat_lt)
      exact ⟨_, hi, get_eq_ok_iff_slots.2 (by rw [hi, List.getElem?_toArray, hsplit])⟩
    · intro i hi _
      rw [List.getElem?_toArray]
      exact Constant.layOut_eq_none_iff cs hi
    · intro i
      rw [← hlength]
      exact Constant.exists_get_layOut_iff cs i
  · intro n input rest cs hn h
    exact ⟨h.length_le hn, h.run_read hn⟩
  · intro n input mid rest cs c h hlast hread hwide
    exact h.run_read_of_split hlast hread hwide

/-- A pool of five slots: a long constant, the text `Foo` and the class of that name. -/
def Pool.longPool : Bytes := [0, 5, 5, 0, 0, 0, 0, 0, 0, 0, 42, 1, 0, 3, 70, 111, 111, 7, 0, 3]

/-- In the pool with a long constant, the slot behind that constant cannot be looked up, and a count that leaves no room
for it is refused. -/
theorem Pool.longPool_slots :
    ∃ pool, Pool.read.run longPool = .ok (pool, []) ∧ pool.slots.size = 5 ∧ pool.HoldsWide 1 ∧
      (¬ ∃ c, pool.get 2 = .ok c) ∧ (∃ c, pool.get 4 = .ok c) ∧ (¬ ∃ c, pool.get 5 = .ok c) ∧
      Pool.read.run (encodeU2 2 ++ [5, 0, 0, 0, 0, 0, 0, 0, 42]) = .error .splitConstant := by
  obtain ⟨hread, -, hsplit⟩ := read_slot_layout
  have hrun : Pool.read.run longPool = .ok (⟨#[none, some (.other .long [0, 0, 0, 0, 0, 0, 0, 42]), none,
      some (.utf8 "Foo"), some (.classRef 3)]⟩, []) := by rfl
  obtain ⟨n, input, cs, -, -, hsize, -, -, hempty, hget⟩ := hread longPool [] _ hrun
  have hn : n.toNat = 5 := hsize.symm
  rw [hn] at hempty hget
  have hwide := (hempty 2 (by decide) (by decide)).1 rfl
  refine ⟨_, hrun, rfl, hwide, ?_, ?_, ?_, ?_⟩
  · intro h
    exact ((hget 2).1 h).2.2 hwide
  · refine (hget 4).2 ⟨by decide, by decide, ?_⟩
    rintro ⟨c, hc, hkind⟩
    cases hc
    cases hkind
  · intro h
    exact absurd ((hget 5).1 h).2.1 (by decide)
  · exact hsplit 2 _ _ [] [] (.other .long [0, 0, 0, 0, 0, 0, 0, 42]) .start rfl rfl rfl

end ClassStub.ClassFile
