import ClassStub.Proofs.Command.Runs

/-!
# Records along a run

A run that makes stubs below a directory does three things to a session: it tells events to the log, it creates
directories, and it writes stubs, each with a record in the report. What is said of a session and the records so far is
carried along the whole run once it stands up to these three (`Tracks`): after each part of the run it is said of the
records of that part too (`Run.Adds`).
-/

namespace ClassStub.Command

/-- Whatever was made before, the run adds what belongs to its result. -/
def Run.Adds {α γ : Type} (Made : List γ → Session → Prop) (run : Run α) (parts : α → List γ) : Prop :=
  ∀ made, Run.Triple (Made made) run (fun a t => Made (made ++ parts a) t) fun _ _ => True

section

variable {α β γ : Type} {Made : List γ → Session → Prop} {parts : α → List γ}

/-- A result without parts adds nothing. -/
lemma Run.Adds.pure {a : α} (h : parts a = []) : Run.Adds Made (pure a) parts := by
  intro made
  refine Run.Triple.pure fun s hs => ?_
  rwa [h, List.append_nil]

/-- A run behind one that adds nothing adds what it adds alone. -/
lemma Run.Adds.after {run : Run β} {next : β → Run α} (hrun : Run.Adds Made run fun _ => [])
    (hnext : ∀ b, Run.Adds Made (next b) parts) : Run.Adds Made (run >>= next) parts := by
  intro made
  refine (hrun made).bind fun b => ?_
  rw [List.append_nil]
  exact hnext b made

/-- A result that is only given another form adds the same. -/
lemma Run.Adds.map {run : Run β} {g : β → α} {parts' : β → List γ} (hrun : Run.Adds Made run parts')
    (h : ∀ b, parts (g b) = parts' b) : Run.Adds Made (run >>= fun b => Pure.pure (g b)) parts := by
  intro made
  refine (hrun made).bind fun b => Run.Triple.pure fun s hs => ?_
  rwa [h]

/-- Runs on a list add what each of them adds, in order. -/
lemma Run.Adds.mapM {xs : List β} {f : β → Run α} (h : ∀ x ∈ xs, Run.Adds Made (f x) parts) :
    Run.Adds Made (xs.mapM f) fun as => as.flatMap parts :=
  fun made => Run.Triple.mapM_append h made

/-- A look at the files adds nothing. -/
lemma Run.adds_files : Run.Adds Made Run.files fun _ => [] :=
  fun made => Run.Triple.files fun _ hs => by rwa [List.append_nil]

/-- A result that is checked adds nothing. -/
lemma Run.adds_orFail {ε : Type} {fatal : ε → Fatal} {result : Except ε α} :
    Run.Adds Made (Run.orFail fatal result) fun _ => [] :=
  fun made => Run.Triple.orFail (fun _ _ _ hs => by rwa [List.append_nil]) fun _ _ _ _ => trivial

end

/-- What is said of the records so far stands while the log is told events and directories are created, and each stub
that is written adds its record. -/
structure Tracks (dir : Path) (Made : List StubRecord → Session → Prop) : Prop where
  emitAll : ∀ {records s} (events : List Log.Event), Made records s → Made records (s.emitAll events)
  makeDirectories : ∀ {records s} (path : Path), Made records s →
    Made records { s with files := (s.files.makeDirectories path).2 }
  writeFile : ∀ {records s declaration text t} (origin : String), Made records s →
    s.writeFile (dir.join (SourceFile.ofDeclaration declaration text).relativePath) text = .ok t →
    Made (records ++ [⟨origin, .ofDeclaration declaration text,
      some (dir.join (SourceFile.ofDeclaration declaration text).relativePath)⟩]) t

section

variable {dir : Path} {Made : List StubRecord → Session → Prop}

/-- Events add no record. -/
lemma Tracks.adds_emit (h : Tracks dir Made) (events : List Log.Event) :
    Run.Adds Made (Run.emit events) fun _ => [] :=
  fun records => Run.Triple.modify fun _ hs => by
    rw [List.append_nil]
    exact h.emitAll events hs

/-- A stub that is written adds its record, and one that cannot be written adds none. -/
lemma Tracks.triple_writeStub (h : Tracks dir Made) (declaration : Declaration) (text origin : String)
    (records : List StubRecord) :
    Run.Triple (Made records) (writeStub dir (.ofDeclaration declaration text))
      (fun path t => Made (records ++ [⟨origin, .ofDeclaration declaration text, some path⟩]) t)
      fun _ t => Made records t := by
  refine Run.triple_writeStub ?_ ?_
  · exact fun s parent hs => h.makeDirectories parent hs
  · exact fun s t hs ht => h.writeFile origin hs ht

/-- A stub that is written adds its record. -/
lemma Tracks.adds_writeStub (h : Tracks dir Made) (declaration : Declaration) (text origin : String) :
    Run.Adds Made (writeStub dir (.ofDeclaration declaration text))
      fun path => [⟨origin, .ofDeclaration declaration text, some path⟩] := by
  intro records
  exact (h.triple_writeStub declaration text origin records).anyEnd

/-- An entry with a record has its stub written, any other entry writes none. -/
lemma Tracks.adds_stubEntry (h : Tracks dir Made) (selection : Selection) (archive : Archive)
    (entry : Archive.Entry) :
    Run.Adds Made (stubEntry selection (some dir) archive entry) fun outcome => outcome.record?.toList := by
  rw [stubEntry]
  refine Run.adds_files.after fun tree => ?_
  cases Stub.ofBytes entry.bytes with
  | error fault => exact (h.adds_emit _).after fun _ => .pure rfl
  | ok made =>
    obtain ⟨declaration, text⟩ := made
    refine (h.adds_emit _).after fun _ => ?_
    dsimp only
    split
    · rw [writeStub?, bind_map_left]
      exact (h.adds_writeStub _ _ _).map fun path => rfl
    · exact (h.adds_emit _).after fun _ => .pure rfl

/-- The entries of an input add the records of their outcomes. -/
lemma Tracks.adds_stubEntries (h : Tracks dir Made) (selection : Selection) (archive : Archive)
    (entries : List Archive.Entry) :
    Run.Adds Made (entries.mapM (stubEntry selection (some dir) archive))
      fun outcomes => outcomes.flatMap fun outcome => outcome.record?.toList :=
  .mapM fun entry _ => h.adds_stubEntry selection archive entry

/-- The turn of an input adds the records of its entries. -/
lemma Tracks.adds_stubInput (h : Tracks dir Made) (selection : Selection) (input : Path) :
    Run.Adds Made (stubInput selection (some dir) input)
      fun outcomes => outcomes.flatMap fun outcome => outcome.record?.toList := by
  rw [stubInput]
  refine Run.adds_files.after fun tree => Run.adds_orFail.after fun entries => ?_
  exact (h.adds_emit _).after fun _ => h.adds_stubEntries selection ⟨input⟩ entries

/-- The turns of inputs add the records of all outcomes. -/
lemma Tracks.adds_turns (h : Tracks dir Made) (selection : Selection) (inputs : List Path) :
    Run.Adds Made (inputs.mapM (stubInput selection (some dir)))
      fun outcomes => outcomes.flatten.flatMap fun outcome => outcome.record?.toList := by
  have hinputs : Run.Adds Made (inputs.mapM (stubInput selection (some dir)))
      fun outcomes => outcomes.flatMap fun ofInput => ofInput.flatMap fun outcome => outcome.record?.toList :=
    .mapM fun input _ => h.adds_stubInput selection input
  intro records
  refine (hinputs records).mono fun outcomes t ht => ?_
  dsimp only
  rw [← List.flatMap_id, List.flatMap_assoc]
  exact ht

/-- The turns of the inputs add the records of the report. -/
lemma Tracks.adds_stubInputs (h : Tracks dir Made) (selection : Selection) (inputs : List Path) :
    Run.Adds Made (stubInputs selection (some dir) inputs) Report.stubs := by
  rw [stubInputs]
  refine (h.adds_turns selection inputs).map fun outcomes => ?_
  rw [Report.ofOutcomes, List.filterMap_eq_flatMap_toList]

/-- An entry that a run ends with is a selected class, and it adds no record. -/
lemma Tracks.of_stubEntry_error (h : Tracks dir Made) {selection : Selection} {archive : Archive}
    {entry : Archive.Entry} {fatal : Fatal} {records : List StubRecord} {s t : Session}
    (hrun : (stubEntry selection (some dir) archive entry).run.run s = (.error fatal, t)) (hs : Made records s) :
    Made records t ∧ ∃ declaration text, Stub.ofBytes entry.bytes = .ok (declaration, text) ∧
      selection.allows declaration.name = true := by
  rw [stubEntry] at hrun
  rcases Run.run_bind_eq_error_iff.1 hrun with hrun | ⟨tree, s', hfiles, hrun⟩
  · cases hrun
  cases hfiles
  cases hbytes : Stub.ofBytes entry.bytes with
  | error fault =>
    rw [hbytes] at hrun
    cases hrun
  | ok made =>
    obtain ⟨declaration, text⟩ := made
    rw [hbytes] at hrun
    rcases Run.run_bind_eq_error_iff.1 hrun with hrun | ⟨_, s', hemit, hrun⟩
    · cases hrun
    cases hemit
    dsimp only at hrun
    split at hrun
    · rename_i hallows
      rw [writeStub?, bind_map_left] at hrun
      rcases Run.run_bind_eq_error_iff.1 hrun with hrun | ⟨path, t', -, hrun⟩
      · have hwrite := h.triple_writeStub declaration text "" records
        exact ⟨hwrite.of_run_error hrun (h.emitAll declaration.renderEvents hs), declaration, text, rfl, hallows⟩
      · cases hrun
    · cases hrun

end

end ClassStub.Command
