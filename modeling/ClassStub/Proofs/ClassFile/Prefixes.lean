import Mathlib.Logic.Basic
import ClassStub.Proofs.ClassFile.Grammar

/-!
# Verdicts over prefixes

A reader is `Forward` when its verdict depends only on the bytes that it has taken: either every prefix of the
input is too short for it, or there is a first prefix at which it comes to a verdict, and then it has the same
verdict on every longer input. Taking bytes is forward, and readers that are made of forward readers are forward,
so the reader of class files is. The verdicts of the parser over all prefixes of its input follow: too short up to
a point, and from there on either one class file and trailing bytes, or one and the same fault.
-/

namespace ClassStub.ClassFile

/-- The fault is about what was read, not about where the input ends. -/
def Fault.Definite (e : Fault) : Prop := e ≠ .endOfInput ∧ ∀ n, e ≠ .trailing n

/-- The fault says that the input ends too early or too late. -/
def Fault.isAboutEnd : Fault → Bool
  | endOfInput => true
  | trailing _ => true
  | _ => false

/-- A fault is definite unless it is about the end of the input. -/
lemma Fault.definite_of_isAboutEnd {e : Fault} (h : e.isAboutEnd = false) : e.Definite := by
  constructor
  · intro he
    subst he
    cases h
  · intro n he
    subst he
    cases h

/-- Every fault of the computation is definite. -/
def Definite {α : Type} (v : Except Fault α) : Prop := ∀ e, v = .error e → e.Definite

namespace Reader

variable {α β : Type}

/-- The reader comes to the verdict `v` at the end of `used`: with more input it stays the same, and with less
the reader asks for more. -/
structure Settles (read : Reader α) (used : Bytes) (v : Except Fault α) : Prop where
  run_append (rest : Bytes) : read.run (used ++ rest) = v.map (·, rest)
  run_short {p : Bytes} : p <+: used → p ≠ used → read.run p = .error .endOfInput
  definite : Definite v

/-- Every prefix of the input is too short for the reader. -/
def Starves (read : Reader α) (input : Bytes) : Prop := ∀ p, p <+: input → read.run p = .error .endOfInput

/-- The reader's verdict depends only on the bytes that it has taken. -/
def Forward (read : Reader α) : Prop :=
  ∀ input, read.Starves input ∨ ∃ used v, used <+: input ∧ read.Settles used v

/-- A value that is no reading is forward when its faults are definite. -/
lemma Forward.liftM {v : Except Fault α} (hv : Definite v) : Forward (liftM v : Reader α) := by
  intro input
  refine .inr ⟨[], v, List.nil_prefix, ?_, ?_, hv⟩
  · intro rest
    exact run_liftM v rest
  · intro p hp hne
    exact absurd (List.prefix_nil.1 hp) hne

/-- A constant reader is forward: it settles at once. -/
lemma Forward.pure (a : α) : Forward (pure a : Reader α) :=
  Forward.liftM (v := .ok a) nofun

/-- Failing with a definite fault is forward. -/
lemma Forward.throw {e : Fault} (he : e.Definite) : Forward (throw e : Reader α) :=
  Forward.liftM (v := .error e) fun _ h => Except.error.inj h ▸ he

/-- Taking bytes settles behind them. -/
lemma Forward.bytes (n : Nat) : Forward (bytes n) := by
  intro input
  rcases Nat.lt_or_ge input.length n with hshort | hlong
  · refine .inl fun p hp => run_bytes_short ?_
    exact Nat.lt_of_le_of_lt hp.length_le hshort
  · have hlen : (input.take n).length = n := List.length_take_of_le hlong
    refine .inr ⟨input.take n, .ok (input.take n), List.take_prefix n input, ?_, ?_, nofun⟩
    · intro rest
      have h := run_bytes_append (input.take n) rest
      rw [hlen] at h
      exact h
    · intro p hp hne
      apply run_bytes_short
      rw [← hlen]
      exact Nat.lt_of_le_of_ne hp.length_le fun h => hne (hp.eq_of_length h)

/-- The fault of a first reader is that of both. -/
lemma run_bind_of_error {read : Reader α} {next : α → Reader β} {input e}
    (h : read.run input = .error e) : (read >>= next).run input = .error e := by
  rw [StateT.run_bind, h]
  rfl

/-- A prefix of two parts lies in the first or reaches into the second. -/
lemma prefix_append_cases {p front rest : Bytes} (h : p <+: front ++ rest) :
    (p <+: front ∧ p ≠ front) ∨ ∃ q, q <+: rest ∧ p = front ++ q := by
  have hfront := List.prefix_append front rest
  rcases Nat.lt_or_ge p.length front.length with hlt | hge
  · refine .inl ⟨List.prefix_of_prefix_length_le h hfront (Nat.le_of_lt hlt), ?_⟩
    rintro rfl
    exact Nat.lt_irrefl _ hlt
  · obtain ⟨q, rfl⟩ := List.prefix_of_prefix_length_le hfront h hge
    exact .inr ⟨q, (List.prefix_append_right_inj front).1 h, rfl⟩

/-- Two forward readers in a row are forward. -/
lemma Forward.bind {read : Reader α} {next : α → Reader β} (hread : Forward read)
    (hnext : ∀ a, Forward (next a)) : Forward (read >>= next) := by
  intro input
  rcases hread input with hstarves | ⟨used, v, ⟨rest, rfl⟩, hsettles⟩
  · exact .inl fun p hp => run_bind_of_error (hstarves p hp)
  · cases v with
    | error e =>
      refine .inr ⟨used, .error e, List.prefix_append _ _, ?_, ?_, fun _ h => hsettles.definite _ (by cases h; rfl)⟩
      · intro rest
        exact run_bind_of_run (hsettles.run_append rest)
      · intro p hp hne
        exact run_bind_of_error (hsettles.run_short hp hne)
    | ok a =>
      have hstep : ∀ rest, (read >>= next).run (used ++ rest) = (next a).run rest := fun rest =>
        run_bind_of_ok (hsettles.run_append rest)
      -- A prefix ends in the bytes of the first reader, or the second one runs on the rest of it.
      rcases hnext a rest with hstarves | ⟨used', w, hused', hsettles'⟩
      · refine .inl fun p hp => ?_
        rcases prefix_append_cases hp with ⟨hfront, hne⟩ | ⟨q, hq, rfl⟩
        · exact run_bind_of_error (hsettles.run_short hfront hne)
        · rw [hstep]
          exact hstarves q hq
      · refine .inr ⟨used ++ used', w, (List.prefix_append_right_inj used).2 hused', ?_, ?_, hsettles'.definite⟩
        · intro rest'
          rw [List.append_assoc, hstep]
          exact hsettles'.run_append rest'
        · intro p hp hne
          rcases prefix_append_cases hp with ⟨hfront, hne'⟩ | ⟨q, hq, rfl⟩
          · exact run_bind_of_error (hsettles.run_short hfront hne')
          · rw [hstep]
            exact hsettles'.run_short hq fun h => hne (h ▸ rfl)

/-- Reading a number is forward, since it is taking bytes. -/
lemma Forward.number (n : Nat) (f : Bytes → α) : Forward (do return f (← Reader.bytes n)) :=
  (Forward.bytes n).bind fun _ => Forward.pure _

/-- Reading so many times with a forward reader is forward. -/
lemma Forward.times {read : Reader α} (hread : Forward read) (n : Nat) : Forward (read.times n) := by
  induction n with
  | zero => exact Forward.pure []
  | succ n ih => exact hread.bind fun _ => ih.bind fun _ => Forward.pure _

/-- Reading a table with a forward reader is forward. -/
lemma Forward.counted {read : Reader α} (hread : Forward read) : Forward (Reader.counted read) :=
  (Forward.number 2 _).bind fun _ => hread.times _

end Reader

open Reader

/-- Looking an index up in a pool has a definite fault, if any. -/
lemma Pool.definite_get (pool : Pool) (i : UInt16) : Definite (pool.get i) := by
  intro e h
  rw [Pool.get] at h
  split at h
  · cases h
  · cases h
    exact Fault.definite_of_isAboutEnd rfl

/-- Two steps have definite faults when each of them has. -/
lemma Definite.bind {α β : Type} {v : Except Fault α} {f : α → Except Fault β} (hv : Definite v)
    (hf : ∀ a, Definite (f a)) : Definite (v >>= f) := by
  intro e h
  cases v with
  | error e' =>
    cases h
    exact hv e rfl
  | ok a => exact hf a e h

/-- Looking a text up has a definite fault, if any. -/
lemma Pool.definite_text (pool : Pool) (i : UInt16) : Definite (pool.text i) := by
  apply (pool.definite_get i).bind
  intro c e h
  cases c <;> cases h <;> exact Fault.definite_of_isAboutEnd rfl

/-- Looking a class name up has a definite fault, if any. -/
lemma Pool.definite_className (pool : Pool) (i : UInt16) : Definite (pool.className i) := by
  apply (pool.definite_get i).bind
  intro c
  cases c with
  | classRef name => exact pool.definite_text name
  | utf8 text =>
    intro e h
    cases h
    exact Fault.definite_of_isAboutEnd rfl
  | other k payload =>
    intro e h
    cases h
    exact Fault.definite_of_isAboutEnd rfl

/-- Reading a constant behind its tag is forward. -/
lemma Constant.forward_readBody (k : Kind) : Forward (readBody k) := by
  by_cases hu : k = .utf8
  · subst hu
    refine (Forward.number 2 _).bind fun _ => (Forward.bytes _).bind fun encoded => ?_
    cases Text.ModifiedUtf8.decode encoded with
    | some text => exact Forward.pure _
    | none => exact Forward.throw (Fault.definite_of_isAboutEnd rfl)
  · by_cases hc : k = .classRef
    · subst hc
      exact (Forward.number 2 _).bind fun _ => Forward.pure _
    · rw [readBody_other hu hc]
      exact (Forward.bytes _).bind fun _ => Forward.pure _

/-- Reading a constant is forward. -/
lemma Constant.forward_read : Forward Constant.read := by
  refine (Forward.number 1 _).bind fun tag => ?_
  split
  · exact forward_readBody _
  · exact Forward.throw (Fault.definite_of_isAboutEnd rfl)

/-- Filling the slots of a pool is forward. -/
lemma Pool.forward_readSlots (free : Nat) : Forward (readSlots free) := by
  induction free using Nat.strongRecOn with
  | _ free ih =>
    cases free with
    | zero => exact Forward.pure []
    | succ free =>
      rw [readSlots_succ]
      refine Constant.forward_read.bind fun c => ?_
      rcases Nat.lt_or_ge (free + 1) c.slots.length with hover | hfits
      · rw [fill_eq_throw hover]
        exact Forward.throw (Fault.definite_of_isAboutEnd rfl)
      · rw [fill_eq (Nat.add_sub_cancel' hfits)]
        refine (ih _ ?_).bind fun _ => Forward.pure _
        have hpos := c.slots_length_pos
        omega

/-- Reading a pool is forward. -/
lemma Pool.forward_read : Forward Pool.read := by
  refine (Forward.number 2 _).bind fun count => ?_
  split
  · exact Forward.throw (Fault.definite_of_isAboutEnd rfl)
  · exact (forward_readSlots _).bind fun _ => Forward.pure _

/-- Skipping attributes is forward. -/
lemma forward_skipAttributes : Forward skipAttributes := by
  have hskip : Forward skipAttribute :=
    (Forward.number 2 _).bind fun _ => (Forward.number 4 _).bind fun _ => (Forward.bytes _).bind fun _ => Forward.pure _
  exact hskip.counted.bind fun _ => Forward.pure _

/-- Reading a member is forward. -/
lemma forward_readMember (pool : Pool) : Forward (readMember pool) := by
  refine (Forward.number 2 _).bind fun _ => (Forward.number 2 _).bind fun i => ?_
  refine (Forward.liftM (pool.definite_text i)).bind fun _ => (Forward.number 2 _).bind fun j => ?_
  exact (Forward.liftM (pool.definite_text j)).bind fun _ => forward_skipAttributes.bind fun _ => Forward.pure _

/-- Reading a class name is forward. -/
lemma forward_readClassName (pool : Pool) : Forward (readClassName pool) :=
  (Forward.number 2 _).bind fun i => Forward.liftM (pool.definite_className i)

/-- Reading a superclass is forward. -/
lemma forward_readSuperclass (pool : Pool) : Forward (readSuperclass pool) := by
  refine (Forward.number 2 _).bind fun i => ?_
  split
  · exact Forward.pure none
  · exact (Forward.liftM (pool.definite_className i)).bind fun _ => Forward.pure _

/-- Reading a declaration is forward. -/
lemma forward_readDeclaration (pool : Pool) : Forward (readDeclaration pool) := by
  refine (Forward.number 2 _).bind fun _ => (forward_readClassName pool).bind fun _ => ?_
  refine (forward_readSuperclass pool).bind fun _ => (forward_readClassName pool).counted.bind fun _ => ?_
  refine (forward_readMember pool).counted.bind fun _ => (forward_readMember pool).counted.bind fun _ => ?_
  exact forward_skipAttributes.bind fun _ => Forward.pure _

/-- Class files are read forward. -/
lemma forward_readOpen : Forward readOpen := by
  refine (Forward.number 4 _).bind fun magic => ?_
  split
  · show Forward (throw (.magic magic) : Reader ClassFile)
    exact Forward.throw (Fault.definite_of_isAboutEnd rfl)
  · refine (Forward.number 2 _).bind fun minorVersion => (Forward.number 2 _).bind fun majorVersion => ?_
    split
    · show Forward (throw (.version majorVersion minorVersion) : Reader ClassFile)
      exact Forward.throw (Fault.definite_of_isAboutEnd rfl)
    · exact Pool.forward_read.bind fun pool => (forward_readDeclaration pool).bind fun _ => Forward.pure _

/-- A fault of the reader is that of the parser. -/
lemma parse_of_run_error {b : Bytes} {e : Fault} (h : readOpen.run b = .error e) : parse b = .error e := by
  rw [parse_eq, h]
  rfl

/-- A prefix of what is accepted is too short. -/
lemma parse_prefix_of_parse_ok {b p : Bytes} {file : ClassFile} (h : parse b = .ok file) (hp : p <+: b)
    (hne : p ≠ b) : parse p = .error .endOfInput := by
  rcases forward_readOpen b with hstarves | ⟨used, v, ⟨rest, rfl⟩, hsettles⟩
  · exact parse_of_run_error (hstarves p hp)
  · rw [parse_eq, hsettles.run_append] at h
    cases v with
    | error e => cases h
    | ok file' =>
      -- Nothing is left behind an accepted class file, so the prefix ends before the verdict.
      have hrest : rest = [] := by
        by_contra hrest
        simp only [Except.map, bind, Except.bind, hrest, if_false] at h
        cases h
      subst hrest
      rw [List.append_nil] at hp hne
      exact parse_of_run_error (hsettles.run_short hp hne)

/-- In front of a verdict a prefix is too short. -/
lemma parse_take_of_lt {used rest : Bytes} {v : Except Fault ClassFile} (h : readOpen.Settles used v) {i : Nat}
    (hi : i < used.length) : parse ((used ++ rest).take i) = .error .endOfInput := by
  apply parse_of_run_error
  rw [List.take_append_of_le_length (Nat.le_of_lt hi)]
  apply h.run_short (List.take_prefix i used)
  intro heq
  have hlen := congrArg List.length heq
  rw [List.length_take_of_le (Nat.le_of_lt hi)] at hlen
  omega

/-- From a verdict on, a prefix has the verdict, and a class file must end where the prefix does. -/
lemma parse_take_add {used rest : Bytes} {v : Except Fault ClassFile} (h : readOpen.Settles used v) (j : Nat) :
    parse ((used ++ rest).take (used.length + j)) = v >>= fun file =>
      if rest.take j = [] then .ok file else .error (.trailing (rest.take j).length) := by
  rw [List.take_length_add_append, parse_eq, h.run_append]
  cases v <;> rfl

/-- Behind an accepted class file every further byte of a prefix is trailing. -/
lemma parse_take_trailing {used rest : Bytes} {file : ClassFile} (h : readOpen.Settles used (.ok file)) {j : Nat}
    (hpos : 1 ≤ j) (hlen : used.length + j ≤ (used ++ rest).length) :
    parse ((used ++ rest).take (used.length + j)) = .error (.trailing j) := by
  have htake : (rest.take j).length = j := by
    rw [List.length_append] at hlen
    exact List.length_take_of_le (by omega)
  have hne : rest.take j ≠ [] := by
    intro hnil
    rw [hnil, List.length_nil] at htake
    omega
  rw [parse_take_add h j]
  show (if rest.take j = [] then _ else _) = _
  rw [if_neg hne, htake]

/-- Over the prefixes of any input there is one point from which on the parser has a verdict. In front of it every
prefix is too short. Either the class file ends there, and every byte behind it is counted as trailing, or there is
one fault about the content, on every prefix from there on. So an accepted class file has no accepted proper
prefix, each of its truncations is too short, and a fault that is not about the end is not repaired by more
bytes. -/
theorem parse_prefix_verdicts (b : Bytes) :
    (∃ k ≤ b.length + 1,
      (∀ i < k, parse (b.take i) = .error .endOfInput) ∧
      (k ≤ b.length →
        Xor (∃ file, parse (b.take k) = .ok file ∧
            ∀ j, 1 ≤ j → k + j ≤ b.length → parse (b.take (k + j)) = .error (.trailing j))
          (∃ e : Fault, e ≠ .endOfInput ∧ (∀ n, e ≠ .trailing n) ∧
            ∀ i, k ≤ i → i ≤ b.length → parse (b.take i) = .error e))) ∧
    (∀ file, parse b = .ok file → ∀ p, p <+: b → p ≠ b → parse p = .error .endOfInput) ∧
    (∀ e, parse b = .error e → e ≠ .endOfInput → ∀ t file, parse (b ++ t) ≠ .ok file) := by
  refine ⟨?_, fun file h p hp hne => parse_prefix_of_parse_ok h hp hne, ?_⟩
  · rcases forward_readOpen b with hstarves | ⟨used, v, ⟨rest, rfl⟩, hsettles⟩
    · refine ⟨b.length + 1, Nat.le_refl _, ?_, fun h => absurd h (by omega)⟩
      intro i _
      exact parse_of_run_error (hstarves _ (List.take_prefix i b))
    · have hused : used.length ≤ (used ++ rest).length := by simp
      refine ⟨used.length, Nat.le_succ_of_le hused, fun i hi => parse_take_of_lt hsettles hi, fun _ => ?_⟩
      have hpoint := @parse_take_add used rest v hsettles 0
      cases v with
      | ok file =>
        refine .inl ⟨⟨file, hpoint, fun j hj hlen => parse_take_trailing hsettles hj hlen⟩, ?_⟩
        intro h'
        obtain ⟨e, _, _, he⟩ := h'
        cases hpoint.symm.trans (he _ (Nat.le_refl _) hused)
      | error e =>
        obtain ⟨hend, htrailing⟩ := hsettles.definite e rfl
        refine .inr ⟨⟨e, hend, htrailing, ?_⟩, ?_⟩
        · intro i hi _
          obtain ⟨j, rfl⟩ := Nat.exists_eq_add_of_le hi
          exact parse_take_add hsettles j
        · intro h'
          obtain ⟨file, hfile, _⟩ := h'
          cases hpoint.symm.trans hfile
  · intro e he hne t file h
    rcases eq_or_ne b (b ++ t) with heq | hproper
    · rw [← heq, he] at h
      cases h
    · have hshort := parse_prefix_of_parse_ok h (List.prefix_append b t) hproper
      rw [he] at hshort
      exact hne (Except.error.inj hshort)

end ClassStub.ClassFile
