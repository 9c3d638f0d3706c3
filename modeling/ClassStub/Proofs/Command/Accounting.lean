import ClassStub.ClassFile.Layout
import ClassStub.Proofs.Archive.Kind
import ClassStub.Proofs.Command.Phases
import ClassStub.Proofs.Session

/-!
# What becomes of the classes in the inputs

The inputs have their turns one after the other, and `Turns` says which entries each of them had when its turn came.
Every entry is accounted for once: it counts as failed, it counts as skipped, or it has a record in the report, in the
order of the entries. The report decides how the run ends and what it prints.
-/

namespace ClassStub.Command

/-- The entries of an input, with the files from which they were listed. -/
structure Listing where
  archive : Archive
  files : FileTree
  entries : List Archive.Entry

/-- The bytes of an entry, with where they come from. -/
structure Found where
  origin : String
  bytes : Bytes

/-- The entries of an input with their origins. -/
def Listing.found (l : Listing) : List Found :=
  l.entries.map fun entry => ⟨l.archive.origin l.files entry.name, entry.bytes⟩

/-- The turns of inputs: each finds the files as the turns before have left them, and is listed from them. -/
inductive Turns (selection : Selection) (out : Option Path) :
    Session → List Path → List Listing → Session → Prop where
  | nil {s} : Turns selection out s [] [] s
  | cons {s t u input inputs entries outcomes listings} :
    (Archive.mk input).list s.files = .ok entries →
    (stubInput selection out input).run.run s = (.ok outcomes, t) →
    Turns selection out t inputs listings u →
    Turns selection out s (input :: inputs) (⟨⟨input⟩, s.files, entries⟩ :: listings) u

namespace Found

/-- The bytes are no class. -/
def fails (f : Found) : Bool :=
  match Stub.ofBytes f.bytes with
  | .ok _ => false
  | .error _ => true

/-- The bytes are a class that is not selected. -/
def isLeftOut (selection : Selection) (f : Found) : Bool :=
  match Stub.ofBytes f.bytes with
  | .ok (declaration, _) => !selection.allows declaration.name
  | .error _ => false

/-- The class in the bytes, with its stub, if it is selected. -/
def selected? (selection : Selection) (f : Found) : Option (Declaration × String) :=
  match Stub.ofBytes f.bytes with
  | .ok (declaration, text) => if selection.allows declaration.name then some (declaration, text) else none
  | .error _ => none

/-- The record of a selected class: where it comes from, its package, its simple name and its stub, and the file that
the stub is written to. -/
def record? (selection : Selection) (out : Option Path) (f : Found) : Option StubRecord :=
  (f.selected? selection).map fun (declaration, text) =>
    let source : SourceFile := ⟨declaration.packageName?.getD "", declaration.simpleName, text⟩
    { origin := f.origin, source, written := out.map fun dir => dir.join source.relativePath }

/-- What becomes of the bytes. -/
def outcome (selection : Selection) (out : Option Path) (f : Found) : Outcome :=
  match f.record? selection out with
  | some record => .stubbed record
  | none => if f.fails then .failed else .skipped

end Found

/-! ### One entry -/

section

variable {selection : Selection} {out : Option Path} {s : Session}

/-- From a session on, the run takes nothing away and leaves the surroundings alone, and its result has a property. -/
def Run.Quiet {α : Type} (s : Session) (run : Run α) (Done : α → Prop) : Prop :=
  Run.Triple s.Follows run (fun a t => Done a ∧ s.Follows t) fun _ _ => True

/-- Events take nothing away. -/
lemma quiet_emit (events : List Log.Event) : (Run.emit events).Quiet s fun _ => True :=
  Run.Triple.modify fun t ht => ⟨trivial, ht.trans (t.silent_emitAll events).toFollows⟩

/-- Quiet runs one after the other are quiet. -/
lemma Run.Quiet.bind {α β : Type} {run : Run β} {next : β → Run α} {Between : β → Prop} {Done : α → Prop}
    (hrun : run.Quiet s Between) (hnext : ∀ b, Between b → (next b).Quiet s Done) : (run >>= next).Quiet s Done :=
  Run.Triple.bind hrun fun b => Run.Triple.of_fact (hnext b)

/-- A run that only has a result is quiet. -/
lemma Run.Quiet.pure {α : Type} {a : α} {Done : α → Prop} (h : Done a) : (pure a : Run α).Quiet s Done :=
  Run.Triple.pure fun _ ht => ⟨h, ht⟩

/-- Writing a stub takes nothing away, and the result is the path of the stub. -/
lemma quiet_writeStub (dir : Path) (source : SourceFile) :
    (writeStub dir source).Quiet s fun path => path = dir.join source.relativePath := by
  refine (Run.triple_writeStub ?_ ?_).anyEnd
  · exact fun t parent ht => ht.trans (t.follows_makeDirectories parent)
  · exact fun t u ht hu => ⟨rfl, ht.trans (Session.follows_of_writeFile hu)⟩

/-- A stub that is written has its path below the directory, and one that is not has none. -/
lemma quiet_writeStub? (source : SourceFile) :
    (writeStub? out source).Quiet s fun written => written = out.map fun dir => dir.join source.relativePath := by
  cases out with
  | none => exact .pure rfl
  | some dir =>
    rw [writeStub?, map_eq_pure_bind]
    refine (quiet_writeStub dir source).bind ?_
    rintro path rfl
    exact .pure rfl

/-- What becomes of an entry depends on its bytes, and its origin on the files from which its input was listed. -/
lemma quiet_stubEntry (selection : Selection) (out : Option Path) {archive : Archive} {entries : List Archive.Entry}
    (h : archive.list s.files = .ok entries) (entry : Archive.Entry) :
    (stubEntry selection out archive entry).Quiet s fun outcome =>
      outcome = Found.outcome selection out ⟨archive.origin s.files entry.name, entry.bytes⟩ := by
  have hfiles : Run.files.Quiet s fun tree => archive.origin tree entry.name = archive.origin s.files entry.name :=
    Run.Triple.files fun t ht => ⟨Archive.origin_of_keeps (Archive.entries_of_list h) ht.files entry.name, ht⟩
  rw [stubEntry]
  refine hfiles.bind fun tree horigin => ?_
  dsimp only
  rw [horigin, Found.outcome, Found.record?, Found.selected?, Found.fails]
  cases Stub.ofBytes entry.bytes with
  | error fault => exact (quiet_emit _).bind fun _ _ => .pure rfl
  | ok made =>
    obtain ⟨declaration, text⟩ := made
    refine (quiet_emit _).bind fun _ _ => ?_
    dsimp only
    split
    · refine (quiet_writeStub? _).bind ?_
      rintro written rfl
      exact .pure rfl
    · exact (quiet_emit _).bind fun _ _ => .pure rfl

end

/-! ### All inputs -/

section

variable {selection : Selection} {out : Option Path} {s t : Session}

/-- Entries of an input that was listed have their outcomes one after the other. -/
lemma quiet_mapM_stubEntry (selection : Selection) (out : Option Path) {archive : Archive}
    {listed : List Archive.Entry} (h : archive.list s.files = .ok listed) (entries : List Archive.Entry) :
    (entries.mapM (stubEntry selection out archive)).Quiet s fun outcomes =>
      outcomes = (Listing.mk archive s.files entries).found.map (Found.outcome selection out) := by
  have hmap := Run.Triple.mapM fun entry (_ : entry ∈ entries) => quiet_stubEntry selection out h entry
  refine hmap.mono ?_
  rintro outcomes t ⟨houtcomes, hfollows⟩
  refine ⟨?_, hfollows⟩
  rw [Listing.found, List.map_map]
  have hforall := List.forall₂_map_left_iff.2 (houtcomes.imp fun _ _ heq => heq.symm)
  rw [List.forall₂_eq_eq_eq] at hforall
  exact hforall.symm

/-- The entries of an input are listed when its turn comes, and each of them has its outcome. -/
lemma exists_entries_of_stubInput {input : Path} {outcomes : List Outcome}
    (h : (stubInput selection out input).run.run s = (.ok outcomes, t)) :
    ∃ entries, (Archive.mk input).list s.files = .ok entries ∧
      outcomes = (Listing.mk ⟨input⟩ s.files entries).found.map (Found.outcome selection out) ∧ s.Follows t := by
  rw [stubInput, Run.run_bind_eq_ok_iff] at h
  obtain ⟨tree, s', hfiles, h⟩ := h
  cases hfiles
  obtain ⟨entries, s', hentries, h⟩ := Run.run_bind_eq_ok_iff.1 h
  obtain ⟨hlisted, rfl⟩ := Run.run_orFail_eq_ok_iff.1 hentries
  have hmap := quiet_mapM_stubEntry selection out hlisted entries
  obtain ⟨houtcomes, hfollows⟩ := ((quiet_emit _).bind fun _ _ => hmap).of_run h (.refl s)
  exact ⟨entries, hlisted, houtcomes, hfollows⟩

/-- The turns of the inputs lead to the outcomes of all their entries. -/
lemma exists_turns_of_mapM {inputs : List Path} {outcomes : List (List Outcome)}
    (h : (inputs.mapM (stubInput selection out)).run.run s = (.ok outcomes, t)) :
    ∃ listings, Turns selection out s inputs listings t ∧
      outcomes.flatten = (listings.flatMap Listing.found).map (Found.outcome selection out) ∧ s.Follows t := by
  induction inputs generalizing s outcomes with
  | nil =>
    cases h
    exact ⟨[], .nil, rfl, .refl _⟩
  | cons input inputs ih =>
    rw [List.mapM_cons, Run.run_bind_eq_ok_iff] at h
    obtain ⟨first, mid, hfirst, h⟩ := h
    obtain ⟨others, last, hothers, h⟩ := Run.run_bind_eq_ok_iff.1 h
    cases h
    obtain ⟨entries, hentries, rfl, hfollows⟩ := exists_entries_of_stubInput hfirst
    obtain ⟨listings, hturns, hflatten, hfollows'⟩ := ih hothers
    refine ⟨⟨⟨input⟩, s.files, entries⟩ :: listings, .cons hentries hfirst hturns, ?_, hfollows.trans hfollows'⟩
    rw [List.flatten_cons, hflatten, List.flatMap_cons, List.map_append]

/-- Generating stubs that comes to an end took the inputs in turn, and reports the outcomes of what was found in them.
-/
lemma exists_turns_of_stubInputs {inputs : List Path} {report : Report}
    (h : (stubInputs selection out inputs).run.run s = (.ok report, t)) :
    ∃ listings, Turns selection out s inputs listings t ∧
      report = Report.ofOutcomes ((listings.flatMap Listing.found).map (Found.outcome selection out)) ∧
      s.Follows t := by
  rw [stubInputs, Run.run_bind_eq_ok_iff] at h
  obtain ⟨outcomes, last, hmap, h⟩ := h
  cases h
  obtain ⟨listings, hturns, hflatten, hfollows⟩ := exists_turns_of_mapM hmap
  exact ⟨listings, hturns, by rw [hflatten], hfollows⟩

end

/-! ### Without files -/

section

variable {selection : Selection} {archive : Archive} {Invariant : Session → Prop}

/-- An entry whose stub is not written comes to its outcome, and what the log keeps is kept. -/
lemma triple_stubEntry (h : ∀ s events, Invariant s → Invariant (s.emitAll events)) (entry : Archive.Entry) :
    Run.Triple Invariant (stubEntry selection none archive entry) (fun _ => Invariant) fun _ _ => False := by
  have hemit : ∀ events, Run.Triple Invariant (Run.emit events) (fun _ => Invariant) fun _ _ => False :=
    fun events => .modify fun s hs => h s events hs
  have hfiles : Run.Triple Invariant Run.files (fun _ => Invariant) fun _ _ => False := .files fun _ hs => hs
  rw [stubEntry]
  refine hfiles.bind fun tree => ?_
  dsimp only
  cases Stub.ofBytes entry.bytes with
  | error fault => exact (hemit _).bind fun _ => .pure fun _ hs => hs
  | ok made =>
    refine (hemit _).bind fun _ => ?_
    split
    · exact .pure fun _ hs => hs
    · exact (hemit _).bind fun _ => .pure fun _ hs => hs

/-- Entries whose stubs are not written come to their outcomes, and what the log keeps is kept. -/
lemma triple_mapM_stubEntry (h : ∀ s events, Invariant s → Invariant (s.emitAll events))
    (entries : List Archive.Entry) :
    Run.Triple Invariant (entries.mapM (stubEntry selection none archive)) (fun _ => Invariant) fun _ _ => False := by
  have heach : ∀ entry ∈ entries, Run.Triple Invariant (stubEntry selection none archive entry)
      (fun _ t => True ∧ Invariant t) fun _ _ => False :=
    fun entry _ => (triple_stubEntry h entry).mono fun _ _ ht => ⟨trivial, ht⟩
  exact (Run.Triple.mapM heach).mono fun _ _ ht => ht.2

/-- A run that writes no stubs keeps what the log keeps, whether it comes to its end or not. -/
lemma triple_stubInputs (h : ∀ s events, Invariant s → Invariant (s.emitAll events)) (inputs : List Path) :
    Run.Triple Invariant (stubInputs selection none inputs) (fun _ => Invariant) fun _ => Invariant := by
  have heach : ∀ input ∈ inputs, Run.Triple Invariant (stubInput selection none input)
      (fun _ t => True ∧ Invariant t) fun _ => Invariant := by
    intro input _
    have hfiles : Run.Triple Invariant Run.files (fun _ => Invariant) fun _ => Invariant := .files fun _ hs => hs
    have hemit : ∀ events, Run.Triple Invariant (Run.emit events) (fun _ => Invariant) fun _ => Invariant :=
      fun events => .modify fun s hs => h s events hs
    rw [stubInput]
    refine hfiles.bind fun tree => ?_
    have hlisted : Run.Triple Invariant (Run.orFail (.classes input) ((Archive.mk input).list tree))
        (fun _ => Invariant) fun _ => Invariant := .orFail (fun _ _ _ hs => hs) fun _ _ _ hs => hs
    refine hlisted.bind fun entries => (hemit _).bind fun _ => ?_
    exact ((triple_mapM_stubEntry h entries).monoEnd fun _ _ => False.elim).mono fun _ _ ht => ⟨trivial, ht⟩
  rw [stubInputs]
  exact (Run.Triple.mapM heach).bind fun _ => .pure fun _ hs => hs.2

end

/-! ### The report -/

section

variable (selection : Selection) (out : Option Path)

/-- An entry has failed exactly if no stub can be made of it. -/
lemma Found.outcome_eq_failed_iff (f : Found) : f.outcome selection out = .failed ↔ f.fails = true := by
  rw [outcome, record?, selected?, fails]
  cases Stub.ofBytes f.bytes with
  | error fault => simp
  | ok made => cases hallows : selection.allows made.1.name <;> simp [hallows]

/-- An entry was skipped exactly if the selection leaves its class out. -/
lemma Found.outcome_eq_skipped_iff (f : Found) :
    f.outcome selection out = .skipped ↔ f.isLeftOut selection = true := by
  rw [outcome, record?, selected?, fails, isLeftOut]
  cases Stub.ofBytes f.bytes with
  | error fault => simp
  | ok made => cases hallows : selection.allows made.1.name <;> simp [hallows]

/-- The stub in the outcome of an entry is that of the entry. -/
lemma Found.record?_outcome (f : Found) : (f.outcome selection out).record? = f.record? selection out := by
  rw [outcome]
  split
  · rename_i record hrecord
    rw [hrecord]
    rfl
  · rename_i hnone
    rw [hnone]
    split <;> rfl

/-- The report of outcomes says of each entry what became of it. -/
lemma Report.ofOutcomes_found (found : List Found) :
    Report.ofOutcomes (found.map (Found.outcome selection out)) =
      { stubs := found.filterMap (Found.record? selection out)
        failed := found.countP Found.fails
        skipped := found.countP (Found.isLeftOut selection) } := by
  have hfailed : (found.map (Found.outcome selection out)).count .failed = found.countP Found.fails := by
    rw [List.count, List.countP_map]
    refine List.countP_congr fun f _ => ?_
    simp [Found.outcome_eq_failed_iff]
  have hskipped : (found.map (Found.outcome selection out)).count .skipped =
      found.countP (Found.isLeftOut selection) := by
    rw [List.count, List.countP_map]
    refine List.countP_congr fun f _ => ?_
    simp [Found.outcome_eq_skipped_iff]
  have hstubs : (found.map (Found.outcome selection out)).filterMap Outcome.record? =
      found.filterMap (Found.record? selection out) := by
    rw [List.filterMap_map]
    exact List.filterMap_congr fun f _ => Found.record?_outcome selection out f
  rw [Report.ofOutcomes, hfailed, hskipped, hstubs]

/-- Each entry fails, is left out or has a record. -/
lemma Found.length_eq (found : List Found) :
    (found.filterMap (Found.record? selection out)).length + found.countP Found.fails +
      found.countP (Found.isLeftOut selection) = found.length := by
  induction found with
  | nil => rfl
  | cons f found ih =>
    rw [List.filterMap_cons, List.countP_cons, List.countP_cons, List.length_cons, ← ih]
    rw [record?, selected?, fails, isLeftOut]
    cases Stub.ofBytes f.bytes with
    | error fault => simp; omega
    | ok made => cases hallows : selection.allows made.1.name <;> simp [hallows] <;> omega

end

/-! ### The whole run -/

/-- Loading the settings prints nothing but the log, if it is printed. -/
lemma stdout_prepare {config : Option Path} {start ready : Session} {settings : Settings}
    (h : (prepare config).run.run start = (.ok settings, ready)) (hlog : ¬ ready.PrintsLog) :
    ready.stdout = start.stdout := by
  obtain ⟨loaded, -, -, rfl⟩ := exists_loaded_of_prepare h
  have hsilent := (start.startLog loaded.settings.logging).silent_emitAll (settingsEvents loaded)
  rw [hsilent.stdout_eq fun hprints => hlog (hsilent.printsLog_iff.2 hprints), Session.stdout_startLog]

/-- Loading the settings leaves the environment and the outlets alone. -/
lemma surroundings_prepare {config : Option Path} {start ready : Session} {settings : Settings}
    (h : (prepare config).run.run start = (.ok settings, ready)) :
    ready.environment = start.environment ∧ ready.outlets = start.outlets := by
  obtain ⟨loaded, -, -, rfl⟩ := exists_loaded_of_prepare h
  obtain ⟨henvironment, houtlets⟩ := start.surroundings_startLog loaded.settings.logging
  have hsilent := (start.startLog loaded.settings.logging).silent_emitAll (settingsEvents loaded)
  exact ⟨hsilent.environment.trans henvironment, hsilent.outlets.trans houtlets⟩

/-- A report is printed in one piece, and behind it at most the log. -/
lemma exists_stdout_conclude (report : Report) (out : Option Path) (json : Bool) (s : Session) :
    ∃ printed, (report.conclude out json s).stdout =
        s.stdout ++ String.join ((report.lines out json).map (· ++ "\n")) ++ printed ∧
      (¬ s.PrintsLog → printed = "") :=
  (Session.silent_emitAll (s.print _) _).stdout

/-- A report that is printed without JSON and files consists of the stubs. -/
lemma Report.lines_of_plain (report : Report) : report.lines none false = report.texts := rfl

/-- A report has an exit code by its failures. -/
lemma Report.code_ending (report : Report) : report.ending.code = if 0 < report.failed then 1 else 0 := by
  rw [Report.ending]
  by_cases hfailed : report.failed = 0
  · simp [hfailed, Ending.code]
  · simp [hfailed, Ending.code, Nat.pos_iff_ne_zero]

/-- Without files, every stub can be shown as JSON. -/
lemma isText_of_no_files {selection : Selection} {found : List Found} {report : Report}
    (h : report.stubs = found.filterMap (Found.record? selection none)) (standIns : List String) :
    report.isText standIns = true := by
  rw [Report.isText, h, List.all_eq_true]
  intro record hrecord
  obtain ⟨f, -, hf⟩ := List.mem_filterMap.1 hrecord
  obtain ⟨made, -, rfl⟩ := Option.map_eq_some_iff.1 hf
  rfl

/-- A class with the name `p/A`. -/
def plainLayout : ClassFile.Layout where
  minorVersion := 0
  majorVersion := 52
  items := [.utf8 [112, 47, 65], .classRef 1]
  access := 0x0021
  thisClass := 2
  superclass := 0
  interfaces := []
  fields := []
  methods := []
  attributes := []

/-- A session with a class file and a file that is called so but is no class. -/
def mixedSession : Session where
  environment := {}
  files := { base := [], nodes := [(["X.class"], .file [1]), (["A.class"], .file plainLayout.encode)] }

-- The directory has a name that is no text.
example :
    (run ["stub", "--json", "--out", "?", "A.class"] { mixedSession with environment := { standIns := ["?"] } }).2 =
      .fatal := by
  decide +kernel

end ClassStub.Command
