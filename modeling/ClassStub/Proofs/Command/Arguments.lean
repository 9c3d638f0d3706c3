import ClassStub.Command.Arguments
import ClassStub.Proofs.Results

/-!
# What command lines can ask for

No value on a command line is empty, so a directory for the stubs always has a name.
-/

namespace ClassStub.Command

/-- The directory for the stubs has a name, if it is given. -/
def Operands.IsOutNamed (o : Operands) : Prop := ∀ dir ∈ o.out, dir.text ≠ ""

/-- A value that is filled in is not empty. -/
lemma ne_empty_of_filled {text value : String} (h : filled text = .ok value) : value ≠ "" := by
  rw [filled] at h
  split at h
  · cases h
  · cases h
    assumption

/-- The value of an option is not empty. -/
lemma ne_empty_of_takeValue {joined : Option String} {rest rest' : List String} {value : String}
    (h : takeValue joined rest = .ok (value, rest')) : value ≠ "" := by
  rw [takeValue.eq_def] at h
  split at h
  · obtain ⟨value', hvalue, h⟩ := bind_eq_ok_iff.1 h
    cases h
    exact ne_empty_of_filled hvalue
  · obtain ⟨value', hvalue, h⟩ := bind_eq_ok_iff.1 h
    cases h
    rw [valueWord] at hvalue
    split at hvalue
    · exact ne_empty_of_filled hvalue
    · cases hvalue
  · cases h

section

variable {form : Form} {o o' : Operands}

/-- An input leaves the output directory as it is. -/
lemma Operands.out_addInput {text : String} (h : o.addInput form text = .ok o') : o'.out = o.out := by
  obtain ⟨text', -, h⟩ := bind_eq_ok_iff.1 h
  dsimp only at h
  split at h
  · split at h
    · cases h
      rfl
    · cases h
  · cases h
    rfl

/-- The flag for JSON leaves the output directory as it is. -/
lemma Operands.out_setJson {joined : Option String} (h : o.setJson joined = .ok o') : o'.out = o.out := by
  rw [setJson] at h
  split at h
  · cases h
  · cases h
    rfl

/-- An option that takes a value gives no empty name to the output directory. -/
lemma Operands.IsOutNamed.setValue {name : String} {joined : Option String} {rest rest' : List String}
    (ho : o.IsOutNamed) (h : o.setValue form name joined rest = .ok (o', rest')) : o'.IsOutNamed := by
  rw [Operands.setValue] at h
  split at h
  · obtain ⟨⟨value, rest''⟩, -, h⟩ := bind_eq_ok_iff.1 h
    obtain ⟨config, -, h⟩ := bind_eq_ok_iff.1 h
    cases h
    exact ho
  · split at h
    · obtain ⟨⟨value, rest''⟩, hvalue, h⟩ := bind_eq_ok_iff.1 h
      obtain ⟨out, hout, h⟩ := bind_eq_ok_iff.1 h
      cases h
      rw [setOnce] at hout
      split at hout
      · cases hout
      · cases hout
        intro dir hdir
        cases hdir
        exact ne_empty_of_takeValue hvalue
    · split at h <;> cases h

/-- Inputs leave the output directory as it is. -/
lemma Operands.out_foldlM {words : List String} (h : words.foldlM (Operands.addInput form) o = .ok o') :
    o'.out = o.out := by
  induction words generalizing o with
  | nil =>
    cases h
    rfl
  | cons word words ih =>
    rw [List.foldlM_cons] at h
    obtain ⟨mid, hmid, h⟩ := bind_eq_ok_iff.1 h
    rw [ih h, out_addInput hmid]

/-- Reading operands leaves the directory named. -/
lemma Operands.IsOutNamed.readOperands {fuel : Nat} {words : List String} (ho : o.IsOutNamed)
    (h : readOperands form fuel words o = .ok o') : o'.IsOutNamed := by
  induction fuel generalizing words o with
  | zero =>
    cases words with
    | nil =>
      cases h
      exact ho
    | cons word rest => cases h
  | succ fuel ih =>
    cases words with
    | nil =>
      cases h
      exact ho
    | cons word rest =>
      rw [Command.readOperands] at h
      split at h
      · rw [IsOutNamed, out_foldlM h]
        exact ho
      · obtain ⟨mid, hmid, h⟩ := bind_eq_ok_iff.1 h
        refine ih ?_ h
        rw [IsOutNamed, out_addInput hmid]
        exact ho
      · cases h
      · obtain ⟨mid, hmid, h⟩ := bind_eq_ok_iff.1 h
        refine ih ?_ h
        rw [IsOutNamed, out_setJson hmid]
        exact ho
      · obtain ⟨⟨mid, rest'⟩, hmid, h⟩ := bind_eq_ok_iff.1 h
        exact ih (ho.setValue hmid) h

end

section

variable {config config' : Option Path} {inputs : List Path} {dir : Path} {json : Bool}

/-- The arguments of a command give no empty name to the output directory. -/
lemma ne_empty_of_readCommand {name : String} {rest : List String}
    (h : readCommand config name rest = .ok ⟨config', .stub inputs (some dir) json⟩) : dir.text ≠ "" := by
  rw [readCommand.eq_def] at h
  split at h
  · obtain ⟨o, ho, h⟩ := bind_eq_ok_iff.1 h
    obtain ⟨task, htask, h⟩ := bind_eq_ok_iff.1 h
    cases h
    rw [stubTask] at htask
    split at htask
    · cases htask
    · obtain ⟨rfl, hout, rfl⟩ := Task.stub.inj (Except.ok.inj htask)
      have hnamed : Operands.IsOutNamed {} := nofun
      exact hnamed.readOperands ho dir hout
  · obtain ⟨o, ho, h⟩ := bind_eq_ok_iff.1 h
    obtain ⟨task, htask, h⟩ := bind_eq_ok_iff.1 h
    cases h
    rw [describeTask] at htask
    split at htask
    · cases htask
    · cases htask
  · split at h
    · cases h
    · cases h
    · cases h
  · cases h

/-- No command line gives an empty name to the output directory. -/
lemma ne_empty_of_readFront {fuel : Nat} {words : List String}
    (h : readFront fuel config words = .ok ⟨config', .stub inputs (some dir) json⟩) : dir.text ≠ "" := by
  induction fuel generalizing config words with
  | zero =>
    cases words with
    | nil => cases h
    | cons word rest => cases h
  | succ fuel ih =>
    cases words with
    | nil => cases h
    | cons word rest =>
      rw [readFront] at h
      split at h
      · cases h
      · exact ne_empty_of_readCommand h
      · cases h
      · obtain ⟨⟨value, rest'⟩, -, h⟩ := bind_eq_ok_iff.1 h
        obtain ⟨config'', -, h⟩ := bind_eq_ok_iff.1 h
        exact ih h
      · cases h
      · cases h
      · cases h

/-- The directory for the stubs has a name. -/
lemma Invocation.ne_empty_of_parse {args : List String}
    (h : Invocation.parse args = .ok ⟨config, .stub inputs (some dir) json⟩) : dir.text ≠ "" :=
  ne_empty_of_readFront h

end

end ClassStub.Command
