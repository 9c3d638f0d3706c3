import ClassStub.ClassFile.Layout
import ClassStub.ClassFile.Reader
import ClassStub.Proofs.Bytes
import ClassStub.Proofs.Results

/-!
# Readers of encodings

`Decodes read Valid encode meaning` ties a reader to the values it reads: on the encoding of a valid value, with
anything behind it, the reader gives the meaning of the value, which may be a fault, and leaves what is behind it;
and whatever the reader accepts begins with the encoding of a valid value. The lemmas here show it of the numbers,
of repetition and of counted tables; `Decodes.run_eq_ok_iff` states it as an equivalence.
-/

namespace ClassStub.ClassFile

/-- A function of the result of two steps is one of the result of the second step. -/
lemma map_bind {ε α β γ : Type} (v : Except ε α) (f : α → Except ε β) (g : β → γ) :
    (v >>= f).map g = v >>= fun a => (f a).map g := by
  cases v <;> rfl

/-- A function of a result has a value exactly if there is a result. -/
lemma exists_map_eq_ok_iff {ε α β : Type} {v : Except ε α} {g : α → β} :
    (∃ b, v.map g = .ok b) ↔ ∃ a, v = .ok a := by
  cases v with
  | error e => exact ⟨fun ⟨_, h⟩ => (nomatch h), fun ⟨_, h⟩ => (nomatch h)⟩
  | ok a => exact ⟨fun _ => ⟨a, rfl⟩, fun _ => ⟨g a, rfl⟩⟩

namespace Reader

variable {α β χ : Type}

/-- A reader that stops at `mid` hands over to the next one there. -/
lemma run_bind_of_run {read : Reader α} {next : α → Reader β} {v : Except Fault α} {input mid}
    (h : read.run input = v.map (·, mid)) :
    (read >>= next).run input = v >>= fun a => (next a).run mid := by
  rw [StateT.run_bind, h]
  cases v <;> rfl

/-- The meaning of two readers in a row is the meaning of the first followed by that of the second. -/
lemma run_bind_eq_map {read : Reader α} {next : α → Reader β} {v : Except Fault α} {w : α → Except Fault β}
    {input mid rest} (h : read.run input = v.map (·, mid))
    (hnext : ∀ a, (next a).run mid = (w a).map (·, rest)) :
    (read >>= next).run input = (v >>= w).map (·, rest) := by
  rw [run_bind_of_run h, map_bind]
  congr 1
  funext a
  exact hnext a

/-- When the first reader has read, the second one goes on from there. -/
lemma run_bind_of_ok {read : Reader α} {next : α → Reader β} {input mid a}
    (h : read.run input = .ok (a, mid)) : (read >>= next).run input = (next a).run mid := by
  rw [StateT.run_bind, h]
  rfl

/-- Two readers read together what the first one reads and the second one behind it. -/
lemma run_bind_eq_ok_iff {read : Reader α} {next : α → Reader β} {input b rest} :
    (read >>= next).run input = .ok (b, rest) ↔
      ∃ a mid, read.run input = .ok (a, mid) ∧ (next a).run mid = .ok (b, rest) := by
  rw [StateT.run_bind, bind_eq_ok_iff]
  exact ⟨fun ⟨⟨a, mid⟩, h⟩ => ⟨a, mid, h⟩, fun ⟨a, mid, h⟩ => ⟨(a, mid), h⟩⟩

/-- A value that is no reading leaves the input as it is. -/
@[simp]
lemma run_liftM (v : Except Fault α) (input : Bytes) :
    (liftM v : Reader α).run input = v.map (·, input) := by
  cases v <;> rfl

/-- A constant reader leaves the input as it is. -/
lemma run_pure_eq_ok_iff {a b : α} {input rest : Bytes} :
    (pure a : Reader α).run input = .ok (b, rest) ↔ a = b ∧ input = rest := by
  rw [StateT.run_pure]
  exact ⟨fun h => Prod.mk.inj (Except.ok.inj h), fun ⟨ha, hi⟩ => by rw [ha, hi]; rfl⟩

/-- A value that is no reading is read exactly if there is one, from nothing. -/
lemma run_liftM_eq_ok_iff {v : Except Fault α} {a : α} {input rest : Bytes} :
    (liftM v : Reader α).run input = .ok (a, rest) ↔ v = .ok a ∧ input = rest := by
  cases v with
  | error e => exact ⟨nofun, fun ⟨h, _⟩ => nomatch h⟩
  | ok b => exact ⟨fun h => by cases h; exact ⟨rfl, rfl⟩, fun ⟨ha, hi⟩ => by cases ha; cases hi; rfl⟩

/-- The reader reads exactly the encodings of valid values, and gives the meaning of the value. -/
structure Decodes (read : Reader α) (Valid : χ → Prop) (encode : χ → Bytes)
    (meaning : χ → Except Fault α) : Prop where
  /-- The encoding of a valid value is read as its meaning, whatever follows. -/
  run_encode {x : χ} (rest : Bytes) : Valid x → read.run (encode x ++ rest) = (meaning x).map (·, rest)
  /-- What is accepted begins with the encoding of a valid value. -/
  exists_encode {input rest : Bytes} {a : α} :
    read.run input = .ok (a, rest) → ∃ x, Valid x ∧ input = encode x ++ rest

/-- A reader of encodings has a result exactly on the encodings of values with a meaning. -/
lemma Decodes.run_eq_ok_iff {read : Reader α} {Valid : χ → Prop} {encode meaning}
    (dec : Decodes read Valid encode meaning) {input rest a} :
    read.run input = .ok (a, rest) ↔ ∃ x, Valid x ∧ meaning x = .ok a ∧ input = encode x ++ rest := by
  constructor
  · intro h
    obtain ⟨x, hx, rfl⟩ := dec.exists_encode h
    rw [dec.run_encode rest hx] at h
    -- The reader ran on the encoding of `x`, so what it accepted is the meaning of `x`.
    cases hm : meaning x with
    | error e => rw [hm] at h; cases h
    | ok a' => rw [hm] at h; cases h; exact ⟨x, hx, hm, rfl⟩
  · intro h'
    obtain ⟨x, hx, hm, rfl⟩ := h'
    rw [dec.run_encode rest hx, hm]
    rfl

/-- Bytes are read from the front. -/
@[simp]
lemma run_bytes_append (front rest : Bytes) :
    (bytes front.length).run (front ++ rest) = .ok (front, rest) := by
  simp [bytes, StateT.run]

/-- More bytes than there are cannot be read. -/
lemma run_bytes_short {n : Nat} {input : Bytes} (h : input.length < n) :
    (bytes n).run input = .error .endOfInput := by
  simp only [bytes, StateT.run, Bytes.split?_eq_none_iff.2 h]

/-- Bytes that were read are as many as were asked for, and stood in front. -/
lemma run_bytes_eq_ok {n : Nat} {input taken rest : Bytes} (h : (bytes n).run input = .ok (taken, rest)) :
    taken.length = n ∧ input = taken ++ rest := by
  simp only [bytes, StateT.run] at h
  split at h
  · rename_i pair hcut
    cases h
    exact Bytes.split?_eq_some hcut
  · cases h

/-- A number that is read from `size` bytes is the one that was written in them. -/
lemma decodes_number {size : Nat} {ofNat : Nat → α} {toNat : α → Nat}
    (hlt : ∀ n, toNat n < 256 ^ size) (hleft : ∀ n, ofNat (toNat n) = n)
    (hright : ∀ n < 256 ^ size, toNat (ofNat n) = n) :
    Decodes (do return ofNat (← bytes size).bigEndian) (fun _ => True)
      (fun n => Bytes.ofNumber size (toNat n)) Except.ok where
  run_encode {n} rest _ := by
    have h := run_bytes_append (Bytes.ofNumber size (toNat n)) rest
    rw [Bytes.length_ofNumber] at h
    rw [run_bind_of_ok h, Bytes.bigEndian_ofNumber (hlt n), hleft n]
    rfl
  exists_encode {input rest a} h := by
    obtain ⟨taken, mid, htake, h⟩ := run_bind_eq_ok_iff.1 h
    obtain ⟨rfl, rfl⟩ := run_pure_eq_ok_iff.1 h
    obtain ⟨rfl, rfl⟩ := run_bytes_eq_ok htake
    refine ⟨ofNat taken.bigEndian, trivial, ?_⟩
    rw [hright _ (Bytes.bigEndian_lt taken), Bytes.ofNumber_bigEndian]

/-- A number of one byte is decoded from its byte. -/
lemma decodes_u1 : Decodes u1 (fun _ => True) (fun n => Bytes.ofNumber 1 n.toNat) Except.ok :=
  decodes_number (fun n => n.toNat_lt) (fun _ => UInt8.ofNat_toNat) (fun _ h => UInt8.toNat_ofNat_of_lt' h)

/-- A number of two bytes is decoded from its bytes. -/
lemma decodes_u2 : Decodes u2 (fun _ => True) encodeU2 Except.ok :=
  decodes_number (fun n => n.toNat_lt) (fun _ => UInt16.ofNat_toNat) (fun _ h => UInt16.toNat_ofNat_of_lt' h)

/-- A number of four bytes is decoded from its bytes. -/
lemma decodes_u4 : Decodes u4 (fun _ => True) (fun n => Bytes.ofNumber 4 n.toNat) Except.ok :=
  decodes_number (fun n => n.toNat_lt) (fun _ => UInt32.ofNat_toNat) (fun _ h => UInt32.toNat_ofNat_of_lt' h)

/-- A number of two bytes that was encoded is read back. -/
@[simp]
lemma run_u2_encode (n : UInt16) (rest : Bytes) : u2.run (encodeU2 n ++ rest) = .ok (n, rest) :=
  decodes_u2.run_encode rest trivial

/-- A number of two bytes that was read stood encoded in front. -/
lemma run_u2_eq_ok {input rest : Bytes} {n : UInt16} (h : u2.run input = .ok (n, rest)) :
    input = encodeU2 n ++ rest := by
  obtain ⟨_, _, hn, hinput⟩ := decodes_u2.run_eq_ok_iff.1 h
  cases hn
  exact hinput

/-- A small number is encoded by its two bytes. -/
lemma encodeU2_ofNat {n : Nat} (h : n < 0x10000) : encodeU2 (UInt16.ofNat n) = Bytes.ofNumber 2 n := by
  rw [encodeU2, UInt16.toNat_ofNat_of_lt' h]

/-- Repetition reads the encodings of as many values, one behind the other. -/
lemma Decodes.times {read : Reader α} {Valid : χ → Prop} {encode meaning}
    (dec : Decodes read Valid encode meaning) (n : Nat) :
    Decodes (read.times n) (fun xs : List χ => xs.length = n ∧ ∀ x ∈ xs, Valid x)
      (List.flatMap encode) (List.mapM meaning) where
  run_encode {xs} rest hxs := by
    obtain ⟨rfl, hxs⟩ := hxs
    induction xs with
    | nil => rfl
    | cons x xs ih =>
      rw [List.forall_mem_cons] at hxs
      rw [List.length_cons, Reader.times, List.flatMap_cons, List.append_assoc, List.mapM_cons]
      -- The first reader leaves the encodings of the others, which the induction hypothesis reads.
      apply run_bind_eq_map (dec.run_encode _ hxs.1)
      intro a
      apply run_bind_eq_map (ih hxs.2)
      intro as
      rfl
  exists_encode {input rest as} h := by
    induction n generalizing input as with
    | zero =>
      obtain ⟨_, rfl⟩ := run_pure_eq_ok_iff.1 h
      exact ⟨[], ⟨rfl, by simp⟩, rfl⟩
    | succ n ih =>
      obtain ⟨a, mid, hfirst, h⟩ := run_bind_eq_ok_iff.1 h
      obtain ⟨as', mid', hothers, h⟩ := run_bind_eq_ok_iff.1 h
      obtain ⟨_, rfl⟩ := run_pure_eq_ok_iff.1 h
      obtain ⟨x, hx, rfl⟩ := dec.exists_encode hfirst
      obtain ⟨xs, ⟨rfl, hxs⟩, rfl⟩ := ih hothers
      refine ⟨x :: xs, ⟨rfl, List.forall_mem_cons.2 ⟨hx, hxs⟩⟩, ?_⟩
      rw [List.flatMap_cons, List.append_assoc]

/-- A counted repetition reads the tables of which the rows fit in front of a two-byte count. -/
lemma Decodes.counted {read : Reader α} {Valid : χ → Prop} {encode meaning}
    (dec : Decodes read Valid encode meaning) :
    Decodes (Reader.counted read) (fun xs : List χ => xs.length < 0x10000 ∧ ∀ x ∈ xs, Valid x)
      (encodeTable encode) (List.mapM meaning) where
  run_encode {xs} rest hxs := by
    rw [Reader.counted, encodeTable, List.append_assoc, ← encodeU2_ofNat hxs.1,
      run_bind_of_ok (run_u2_encode _ _), UInt16.toNat_ofNat_of_lt' hxs.1]
    exact (dec.times xs.length).run_encode rest ⟨rfl, hxs.2⟩
  exists_encode {input rest as} h := by
    obtain ⟨count, mid, hcount, hrows⟩ := run_bind_eq_ok_iff.1 h
    obtain rfl := run_u2_eq_ok hcount
    obtain ⟨xs, ⟨hlen, hxs⟩, rfl⟩ := (dec.times count.toNat).exists_encode hrows
    have hlt : xs.length < 0x10000 := hlen ▸ count.toNat_lt
    refine ⟨xs, ⟨hlt, hxs⟩, ?_⟩
    rw [encodeTable, List.append_assoc, hlen]
    rfl

end Reader

end ClassStub.ClassFile
