import ClassStub.Proofs.ClassFile.Decoding

/-!
# Reading through a cursor

A `Cursor` is a place in a buffer. It takes bytes by their addresses: the end of what is asked for is computed first,
which fails when it is no address, then the bytes up to there are cut out of the buffer, and only then the place moves.
So a read gives the next bytes and moves behind them, or asks for more than remain and leaves the cursor where it is
(`Cursor.Inside.read_eq`). Rows of reads follow from there by induction: the place never leaves the buffer, and the values that
were read are what stands in front of it. On what remains behind a cursor, the readers of class files give the same
values and faults.
-/

namespace ClassStub.ClassFile

/-- What can be asked for: a number of one, two, four or eight bytes, or so many bytes. -/
inductive Request where
  | u1
  | u2
  | u4
  | u8
  | bytes (count : Nat)
  deriving DecidableEq, Repr

/-- What a request gives: a number of one, two, four or eight bytes, or the bytes themselves. -/
inductive Value where
  | u1 (n : UInt8)
  | u2 (n : UInt16)
  | u4 (n : UInt32)
  | u8 (n : UInt64)
  | bytes (bs : Bytes)
  deriving DecidableEq, Repr

/-- The bytes of a value; numbers have the most significant byte first. -/
def Value.encode : Value → Bytes
  | u1 n => Bytes.ofNumber 1 n.toNat
  | u2 n => Bytes.ofNumber 2 n.toNat
  | u4 n => Bytes.ofNumber 4 n.toNat
  | u8 n => Bytes.ofNumber 8 n.toNat
  | bytes bs => bs

namespace Request

/-- The number of bytes that a request takes. -/
def size : Request → Nat
  | u1 => 1
  | u2 => 2
  | u4 => 4
  | u8 => 8
  | bytes count => count

/-- The value that bytes stand for. -/
def value : Request → Bytes → Value
  | u1, bs => .u1 (UInt8.ofNat bs.bigEndian)
  | u2, bs => .u2 (UInt16.ofNat bs.bigEndian)
  | u4, bs => .u4 (UInt32.ofNat bs.bigEndian)
  | u8, bs => .u8 (UInt64.ofNat bs.bigEndian)
  | bytes _, bs => .bytes bs

/-- The reader of class files that gives the value. -/
def reader : Request → Reader Value
  | u1 => do return .u1 (← Reader.u1)
  | u2 => do return .u2 (← Reader.u2)
  | u4 => do return .u4 (← Reader.u4)
  | u8 => do return .u8 (UInt64.ofNat (← Reader.bytes 8).bigEndian)
  | bytes count => do return .bytes (← Reader.bytes count)

/-- A request is answered from as many bytes as it takes, all at once. -/
lemma reader_eq (r : Request) : r.reader = do return r.value (← Reader.bytes r.size) := by
  cases r <;> simp [reader, value, size, Reader.u1, Reader.u2, Reader.u4]

/-- The bytes that a value was read from are the bytes of the value. -/
lemma encode_value {r : Request} {bs : Bytes} (h : bs.length = r.size) : (r.value bs).encode = bs := by
  have hlt := Bytes.bigEndian_lt bs
  have hback := Bytes.ofNumber_bigEndian bs
  rw [h] at hlt hback
  cases r with
  | u1 => rwa [value, Value.encode, UInt8.toNat_ofNat_of_lt' hlt]
  | u2 => rwa [value, Value.encode, UInt16.toNat_ofNat_of_lt' hlt]
  | u4 => rwa [value, Value.encode, UInt32.toNat_ofNat_of_lt' hlt]
  | u8 => rwa [value, Value.encode, UInt64.toNat_ofNat_of_lt' hlt]
  | bytes count => rfl

end Request

/-- The bytes between two places, if these lie in the sequence, one behind the other. -/
def slice? (bs : Bytes) (front back : Nat) : Option Bytes :=
  if front ≤ back ∧ back ≤ bs.length then some ((bs.drop front).take (back - front)) else none

/-- The sum of two addresses, if it is not behind the last one. -/
def addressSum? (lastAddress a b : Nat) : Option Nat :=
  if a + b ≤ lastAddress then some (a + b) else none

/-- A place in a buffer. What is in front of it was read, what is behind it remains. -/
structure Cursor where
  buffer : Bytes
  position : Nat
  deriving DecidableEq, Repr

namespace Cursor

/-- A cursor at the start of a buffer. -/
def start (buffer : Bytes) : Cursor := ⟨buffer, 0⟩

/-- The number of bytes behind the cursor. -/
def remaining (c : Cursor) : Nat := c.buffer.length - c.position

/-- The bytes behind the cursor. -/
def rest (c : Cursor) : Bytes := c.buffer.drop c.position

/-- Takes so many bytes and moves behind them; the cursor stays where it is when they are not all there, or when their
end is no address. -/
def take (lastAddress : Nat) (c : Cursor) (count : Nat) : Except Fault Bytes × Cursor :=
  match addressSum? lastAddress c.position count with
  | none => (.error .endOfInput, c)
  | some back =>
    match slice? c.buffer c.position back with
    | none => (.error .endOfInput, c)
    | some taken => (.ok taken, { c with position := back })

/-- Answers a request, or leaves the cursor where it is. -/
def read (lastAddress : Nat) (c : Cursor) (r : Request) : Except Fault Value × Cursor :=
  let (taken, c') := c.take lastAddress r.size
  (taken.map r.value, c')

/-- The cursor after reads in a row, whether they succeed or not. -/
def after (lastAddress : Nat) (c : Cursor) (requests : List Request) : Cursor :=
  requests.foldl (fun c r => (c.read lastAddress r).2) c

/-- The values that reads in a row give, without those that fail. -/
def values (lastAddress : Nat) (c : Cursor) : List Request → List Value
  | [] => []
  | r :: requests =>
    match c.read lastAddress r with
    | (.ok v, c') => v :: values lastAddress c' requests
    | (.error _, c') => values lastAddress c' requests

/-- The place is in the buffer, and all places in the buffer are addresses. -/
structure Inside (lastAddress : Nat) (c : Cursor) : Prop where
  length_le : c.buffer.length ≤ lastAddress
  position_le : c.position ≤ c.buffer.length

section

variable {lastAddress : Nat} {c : Cursor}

/-- The bytes in front of the cursor and those behind it are the buffer. -/
lemma Inside.add_remaining (h : Inside lastAddress c) : c.position + c.remaining = c.buffer.length :=
  Nat.add_sub_cancel' h.position_le

/-- There are as many bytes to take as were asked for. -/
lemma length_take_rest {count : Nat} (h : count ≤ c.remaining) : (c.rest.take count).length = count := by
  rw [List.length_take_of_le]
  rwa [rest, List.length_drop]

/-- A read gives the next bytes and moves behind them, or fails where it stands. -/
lemma Inside.read_eq (h : Inside lastAddress c) (r : Request) :
    c.read lastAddress r = if r.size ≤ c.remaining
      then (.ok (r.value (c.rest.take r.size)), { c with position := c.position + r.size })
      else (.error .endOfInput, c) := by
  have hfits := h.length_le
  have htotal := h.add_remaining
  rw [read, take]
  by_cases hsum : c.position + r.size ≤ lastAddress
  · rw [addressSum?, if_pos hsum]
    by_cases henough : r.size ≤ c.remaining
    · have hslice : slice? c.buffer c.position (c.position + r.size) = some (c.rest.take r.size) := by
        rw [slice?, if_pos ⟨Nat.le_add_right _ _, by omega⟩, Nat.add_sub_cancel_left, rest]
      simp only [hslice, if_pos henough]
      rfl
    · have hslice : slice? c.buffer c.position (c.position + r.size) = none := by
        rw [slice?, if_neg (by omega)]
      simp only [hslice, if_neg henough]
      rfl
  · -- An end that is no address lies behind the buffer.
    rw [addressSum?, if_neg hsum, if_neg (by omega)]
    rfl

/-- A request for bytes that are there is answered from them, and the cursor moves behind them. -/
lemma Inside.read_of_le (h : Inside lastAddress c) {r : Request} (hsize : r.size ≤ c.remaining) :
    c.read lastAddress r = (.ok (r.value (c.rest.take r.size)), { c with position := c.position + r.size }) := by
  rw [h.read_eq, if_pos hsize]

/-- A request for more bytes than there are is an error that moves nothing. -/
lemma Inside.read_of_lt (h : Inside lastAddress c) {r : Request} (hsize : c.remaining < r.size) :
    c.read lastAddress r = (.error .endOfInput, c) := by
  rw [h.read_eq, if_neg (Nat.not_le.2 hsize)]

/-- The cursor stays inside when it moves behind bytes that are there. -/
lemma Inside.advance (h : Inside lastAddress c) {count : Nat} (hcount : count ≤ c.remaining) :
    Inside lastAddress { c with position := c.position + count } where
  length_le := h.length_le
  position_le := by
    have htotal := h.add_remaining
    show c.position + count ≤ c.buffer.length
    omega

/-- The readers of class files do with the remaining bytes what a read does. -/
lemma Inside.run_reader (h : Inside lastAddress c) (r : Request) :
    r.reader.run c.rest = (c.read lastAddress r).1.map (·, (c.read lastAddress r).2.rest) := by
  rw [r.reader_eq]
  rcases Nat.lt_or_ge c.remaining r.size with hshort | henough
  · have hlen : c.rest.length < r.size := by rwa [rest, List.length_drop]
    rw [h.read_of_lt hshort, StateT.run_bind, Reader.run_bytes_short hlen]
    rfl
  · have hrun := Reader.run_bytes_append (c.rest.take r.size) (c.rest.drop r.size)
    rw [length_take_rest henough, List.take_append_drop] at hrun
    rw [h.read_of_le henough, Reader.run_bind_of_ok hrun, rest, List.drop_drop]
    rfl

/-- Reads in a row stay in the buffer, and what they give goes behind what was in front of the cursor. -/
lemma Inside.after (h : Inside lastAddress c) (requests : List Request) :
    Inside lastAddress (c.after lastAddress requests) ∧ (c.after lastAddress requests).buffer = c.buffer ∧
      c.buffer.take (c.after lastAddress requests).position =
        c.buffer.take c.position ++ (c.values lastAddress requests).flatMap Value.encode := by
  induction requests generalizing c with
  | nil => exact ⟨h, rfl, (List.append_nil _).symm⟩
  | cons r requests ih =>
    rw [Cursor.after, List.foldl_cons, values]
    rcases Nat.lt_or_ge c.remaining r.size with hshort | henough
    · rw [h.read_of_lt hshort]
      exact ih h
    · obtain ⟨hinside, hbuffer, hfront⟩ := ih (h.advance henough)
      rw [h.read_of_le henough]
      refine ⟨hinside, hbuffer, ?_⟩
      rw [List.flatMap_cons, Request.encode_value (length_take_rest henough), ← List.append_assoc, rest, ← List.take_add]
      exact hfront

end

/-- Whatever is asked for and however often, a cursor that starts at the beginning of a buffer stays in it, so that its
remaining bytes can be counted. The values that were read are the bytes in front of it. The next read fails exactly when
it asks for more bytes than remain; then the fault is the end of the input and the cursor does not move. Otherwise it
moves by as many bytes. In both cases the readers of class files give the same on the bytes that remain. -/
theorem reads_take_the_front {lastAddress : Nat} {buffer : Bytes} (hfits : buffer.length ≤ lastAddress)
    (requests : List Request) :
    let c := (start buffer).after lastAddress requests
    c.buffer = buffer ∧ c.position ≤ buffer.length ∧ c.position + c.remaining = buffer.length ∧
      ((start buffer).values lastAddress requests).flatMap Value.encode = buffer.take c.position ∧
      ∀ r : Request,
        ((∃ e, (c.read lastAddress r).1 = .error e) ↔ c.remaining < r.size) ∧
        (c.remaining < r.size → c.read lastAddress r = (.error .endOfInput, c)) ∧
        (r.size ≤ c.remaining → (c.read lastAddress r).2 = { c with position := c.position + r.size }) ∧
        r.reader.run c.rest = (c.read lastAddress r).1.map (·, (c.read lastAddress r).2.rest) := by
  intro c
  have hstart : Inside lastAddress (start buffer) := ⟨hfits, Nat.zero_le _⟩
  obtain ⟨hinside, hbuffer, hfront⟩ : Inside lastAddress c ∧ c.buffer = buffer ∧ _ := hstart.after requests
  refine ⟨hbuffer, hbuffer ▸ hinside.position_le, hbuffer ▸ hinside.add_remaining, hfront.symm, fun r => ?_⟩
  refine ⟨?_, fun hshort => hinside.read_of_lt hshort, fun henough => ?_, hinside.run_reader r⟩
  · constructor
    · intro hfails
      by_contra henough
      rw [hinside.read_of_le (Nat.not_lt.1 henough)] at hfails
      obtain ⟨e, he⟩ := hfails
      cases he
    · intro hshort
      rw [hinside.read_of_lt hshort]
      exact ⟨_, rfl⟩
  · rw [hinside.read_of_le henough]

/-- The last address of a machine with addresses of eight bytes. -/
def lastWideAddress : Nat := 0xFFFFFFFFFFFFFFFF

/-- A byte, then more than there are addresses for behind it, then more than remain, then all that remain. -/
def mixedReads : List Request := [.u1, .bytes lastWideAddress, .u4, .u2]

/-- Three bytes are read as a number of one byte and one of two, and a number of four bytes is too much for the rest. -/
theorem mixedReads_take_the_front :
    [0xCA, 0xFE, 0xBA].length ≤ lastWideAddress ∧
      (start [0xCA, 0xFE, 0xBA]).after lastWideAddress mixedReads = ⟨[0xCA, 0xFE, 0xBA], 3⟩ ∧
      (start [0xCA, 0xFE, 0xBA]).values lastWideAddress mixedReads = [.u1 0xCA, .u2 0xFEBA] ∧
      ((start [0xCA, 0xFE, 0xBA]).values lastWideAddress mixedReads).flatMap Value.encode = [0xCA, 0xFE, 0xBA] ∧
      (start [0xCA, 0xFE, 0xBA]).read lastWideAddress .u4 = (.error .endOfInput, start [0xCA, 0xFE, 0xBA]) := by
  have hfits : ([0xCA, 0xFE, 0xBA] : Bytes).length ≤ lastWideAddress := by decide
  have hafter : (start [0xCA, 0xFE, 0xBA]).after lastWideAddress mixedReads = ⟨[0xCA, 0xFE, 0xBA], 3⟩ := by decide
  obtain ⟨-, -, -, hfront, -⟩ := reads_take_the_front hfits mixedReads
  obtain ⟨-, -, -, -, hnext⟩ := reads_take_the_front hfits []
  refine ⟨hfits, hafter, by decide, ?_, (hnext .u4).2.1 (by decide)⟩
  rw [hfront, hafter]
  rfl

end Cursor

end ClassStub.ClassFile
