import ClassStub.Proofs.ClassFile.Grammar
import ClassStub.Proofs.Command.Runs
import ClassStub.Proofs.SourceFile

/-!
# Where stubs are written

The source files that the command makes are those of the classes in its inputs, so all of them stay below the
directory that the stubs are written to. This holds of every stub in a report, and of the file or directory that a
run could not write and ended with.
-/

namespace ClassStub

namespace Command

/-- What a run could not write is the file of a source that stays below the directory, or the directory around it. -/
def Fatal.StaysBelow (out : Option Path) : Fatal → Prop
  | writeFile path _ => ∃ dir ∈ out, ∃ source : SourceFile, source.StaysBelow ∧ path = dir.join source.relativePath
  | createDirectory path _ =>
    ∃ dir ∈ out, ∃ source : SourceFile, source.StaysBelow ∧ (dir.join source.relativePath).parent? = some path
  | _ => True

/-- The source of a stub stays below, and the stub is written along its path if a directory was given. -/
def StubRecord.StaysBelow (out : Option Path) (record : StubRecord) : Prop :=
  record.source.StaysBelow ∧ record.written = out.map fun dir => dir.join record.source.relativePath

/-- The stub of the outcome stays below, if it has one. -/
def Outcome.StaysBelow (out : Option Path) (outcome : Outcome) : Prop :=
  ∀ record, outcome.record? = some record → record.StaysBelow out

/-- In any session, the run leads to a result with `Done` or to a fatal error that stays below. -/
def Run.Below {α : Type} (out : Option Path) (run : Run α) (Done : α → Prop) : Prop :=
  Run.Triple (fun _ => True) run (fun a _ => Done a) (fun fatal _ => fatal.StaysBelow out)

section

variable {out : Option Path} {α β : Type}

/-- Two runs in a row stay below when each of them does. -/
lemma Run.Below.bind {run : Run β} {next : β → Run α} {Between : β → Prop} {Done : α → Prop}
    (hrun : run.Below out Between) (hnext : ∀ b, Between b → (next b).Below out Done) :
    (run >>= next).Below out Done :=
  Run.Triple.bind hrun fun b => ⟨fun s hb => (hnext b hb).of_before s trivial⟩

/-- A result that is there already writes nothing. -/
lemma Run.Below.pure {a : α} {Done : α → Prop} (h : Done a) : (pure a : Run α).Below out Done :=
  Run.Triple.pure fun _ _ => h

/-- Looking at the files writes nothing. -/
lemma Run.below_files : Run.files.Below out fun _ => True :=
  Run.Triple.files fun _ _ => trivial

/-- Logging writes nothing below. -/
lemma Run.below_emit (events : List Log.Event) : (Run.emit events).Below out fun _ => True :=
  Run.Triple.modify fun _ _ => trivial

/-- A result stays below when no fatal error of it leads out. -/
lemma Run.below_orFail {ε : Type} {fatal : ε → Fatal} (h : ∀ e, (fatal e).StaysBelow out) (result : Except ε α) :
    (Run.orFail fatal result).Below out fun _ => True :=
  Run.Triple.orFail (fun _ _ _ _ => trivial) (fun e _ _ _ => h e)

/-- Directories are created, or the run ends with one of them. -/
lemma Run.below_makeDirectories {p : Path} (h : ∀ e, (Fatal.createDirectory p e).StaysBelow out) :
    (Run.makeDirectories p).Below out fun _ => True :=
  Run.Triple.makeDirectories (fun _ _ => trivial) fun _ e _ => h e

/-- A file is written, or the run ends with it. -/
lemma Run.below_writeFile {p : Path} {text : String} (h : ∀ e, (Fatal.writeFile p e).StaysBelow out) :
    (Run.writeFile p text).Below out fun _ => True :=
  Run.Triple.writeFile (fun _ _ _ _ => trivial) fun _ e _ => h e

/-- What holds of the result for each element holds of all results. -/
lemma Run.Below.mapM {xs : List β} {f : β → Run α} {Done : α → Prop} (h : ∀ x ∈ xs, (f x).Below out Done) :
    (xs.mapM f).Below out fun as => ∀ a ∈ as, Done a := by
  have hmap := Run.Triple.mapM fun x hx => (h x hx).mono fun a _ ha => ⟨(⟨ha, trivial⟩ : Done a ∧ True), trivial⟩
  refine hmap.mono ?_
  rintro as - ⟨has, -⟩
  exact (List.forall₂_and_left as xs).1 has.flip |>.1

/-- A function of the result changes nothing that is written. -/
lemma Run.Below.map {run : Run β} {g : β → α} {Between : β → Prop} {Done : α → Prop}
    (hrun : run.Below out Between) (hdone : ∀ b, Between b → Done (g b)) : (g <$> run).Below out Done := by
  rw [map_eq_pure_bind]
  exact hrun.bind fun b hb => Run.Below.pure (hdone b hb)

end

/-- Writing a stub of a source that stays below stays below. -/
lemma below_writeStub {dir : Path} {source : SourceFile} (h : source.StaysBelow) :
    (writeStub dir source).Below (some dir) fun path => path = dir.join source.relativePath := by
  have hwrite : ∀ e, (Fatal.writeFile (dir.join source.relativePath) e).StaysBelow (some dir) :=
    fun _ => ⟨dir, rfl, source, h, rfl⟩
  unfold writeStub
  dsimp only
  split
  · rename_i parent hparent
    have hcreate : ∀ e, (Fatal.createDirectory parent e).StaysBelow (some dir) :=
      fun _ => ⟨dir, rfl, source, h, hparent⟩
    refine (Run.below_makeDirectories hcreate).bind fun _ _ => ?_
    exact (Run.below_writeFile hwrite).bind fun _ _ => .pure rfl
  · exact (Run.below_writeFile hwrite).bind fun _ _ => .pure rfl

/-- Writing a stub only where a directory is given stays below. -/
lemma below_writeStub? {out : Option Path} {source : SourceFile} (h : source.StaysBelow) :
    (writeStub? out source).Below out fun written => written = out.map fun dir => dir.join source.relativePath := by
  cases out with
  | none => exact Run.Below.pure rfl
  | some dir => exact (below_writeStub h).map fun path hpath => congrArg some hpath

/-- Every class has a source that stays below, so whatever is in an entry, no stub leads out of the directory. -/
lemma below_stubEntry (selection : Selection) (out : Option Path) (archive : Archive) (entry : Archive.Entry) :
    (stubEntry selection out archive entry).Below out fun outcome => outcome.StaysBelow out := by
  rw [stubEntry]
  refine Run.below_files.bind fun tree _ => ?_
  cases Stub.ofBytes entry.bytes with
  | error fault =>
    refine (Run.below_emit _).bind fun _ _ => Run.Below.pure ?_
    rintro record ⟨⟩
  | ok made =>
    obtain ⟨declaration, text⟩ := made
    refine (Run.below_emit _).bind fun _ _ => ?_
    dsimp only
    split
    · have hsource := SourceFile.staysBelow_ofDeclaration declaration text
      refine (below_writeStub? hsource).bind fun written hwritten => Run.Below.pure ?_
      rintro record ⟨⟩
      exact ⟨hsource, hwritten⟩
    · refine (Run.below_emit _).bind fun _ _ => Run.Below.pure ?_
      rintro record ⟨⟩

/-- All stubs of an input stay below. -/
lemma below_stubInput (selection : Selection) (out : Option Path) (input : Path) :
    (stubInput selection out input).Below out fun outcomes => ∀ outcome ∈ outcomes, outcome.StaysBelow out := by
  rw [stubInput]
  refine Run.below_files.bind fun tree _ => ?_
  have hclasses : ∀ fault, (Fatal.classes input fault).StaysBelow out := fun _ => trivial
  refine (Run.below_orFail hclasses _).bind fun entries _ => ?_
  refine (Run.below_emit _).bind fun _ _ => ?_
  exact Run.Below.mapM fun entry _ => below_stubEntry selection out ⟨input⟩ entry

/-- All stubs of a run stay below. -/
lemma below_stubInputs (selection : Selection) (out : Option Path) (inputs : List Path) :
    (stubInputs selection out inputs).Below out fun report => ∀ record ∈ report.stubs, record.StaysBelow out := by
  rw [stubInputs]
  have hinputs := Run.Below.mapM fun input (_ : input ∈ inputs) => below_stubInput selection out input
  refine hinputs.bind fun outcomes houtcomes => Run.Below.pure ?_
  intro record hrecord
  obtain ⟨outcome, houtcome, hmade⟩ := List.mem_filterMap.1 hrecord
  obtain ⟨ofInput, hofInput, hmem⟩ := List.mem_flatten.1 houtcome
  exact houtcomes ofInput hofInput outcome hmem record hmade

/-- No stub leads out of the directory that it is written to. Whatever class bytes are accepted, they have a source
file that stays below any directory; and so does every stub that a run makes, entry by entry and in its report, and
what a run could not write. -/
theorem sources_stay_below :
    (∀ bytes file, ClassFile.parse bytes = .ok file →
      ∃ source, SourceFile.ofBytes? bytes = some source ∧ source.StaysBelow) ∧
    (∀ selection out archive entry,
      (stubEntry selection out archive entry).Below out fun outcome => outcome.StaysBelow out) ∧
    (∀ selection out inputs,
      (stubInputs selection out inputs).Below out fun report => ∀ record ∈ report.stubs, record.StaysBelow out) := by
  refine ⟨?_, below_stubEntry, below_stubInputs⟩
  intro bytes file hparse
  refine ⟨SourceFile.ofDeclaration file.declaration file.declaration.render, ?_,
    SourceFile.staysBelow_ofDeclaration _ _⟩
  rw [SourceFile.ofBytes?, Stub.generate, Stub.ofBytes, hparse]
  rfl

/-- A class with the name `/../a//..`. -/
def climbingLayout : ClassFile.Layout where
  minorVersion := 0
  majorVersion := 52
  items := [.utf8 [47, 46, 46, 47, 97, 47, 47, 46, 46], .classRef 1]
  access := 0x0021
  thisClass := 2
  superclass := 0
  interfaces := []
  fields := []
  methods := []
  attributes := []

/-- The source file of the class with the climbing name stays below, in a package that keeps one of its names. -/
theorem climbingLayout_source_stays_below :
    ∃ source, SourceFile.ofBytes? climbingLayout.encode = some source ∧ source.StaysBelow ∧
      source.relativePath.text = "a/...java" := by
  have hparse : ClassFile.parse climbingLayout.encode =
      .ok ⟨0, 52, ⟨"/../a//..", ⟨0x0021⟩, none, [], [], []⟩⟩ :=
    ClassFile.parse_eq_ok_iff_resolve.2 ⟨climbingLayout, by decide, rfl, rfl⟩
  obtain ⟨source, hsource, hbelow⟩ := sources_stay_below.1 _ _ hparse
  refine ⟨source, hsource, hbelow, ?_⟩
  rw [SourceFile.ofBytes?, Stub.generate, Stub.ofBytes, hparse] at hsource
  obtain rfl := Option.some.inj hsource
  decide

end Command

end ClassStub
