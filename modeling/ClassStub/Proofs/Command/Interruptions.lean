import ClassStub.Proofs.Archive.Listing
import ClassStub.Proofs.Command.OutputFiles

/-!
# Runs that end early

A fatal error ends a run where it happens. `Fails` lists the places: the settings cannot be loaded, a pattern in them is
none, the file to describe cannot be read, the inputs do not come to the end of their turns, or the report cannot be
printed. No report is printed before any of these, and stubs are written in the last two only. There the work is cut
short (`CutShort`) by an input that cannot be listed, by an entry whose stub cannot be written, or behind the last
entry. What was written by then (`Wrote`) are the stubs of the entries in front of that point; those whose file is the
standard output are all that was printed.
-/

namespace ClassStub.Command

open FileTree (lastWrite)

/-! ### Where a run can end -/

/-- The ways in which a run ends with a fatal error, with the session by then. -/
inductive Fails (invocation : Invocation) (start : Session) : Fatal → Session → Prop where
  | settings {fatal} :
    findSettings invocation.config start = .error fatal →
    Fails invocation start fatal start
  | pattern {settings ready inputs out json bad} :
    (prepare invocation.config).run.run start = (.ok settings, ready) →
    invocation.task = .stub inputs out json →
    settings.stubs.selection = .error bad →
    Fails invocation start (.pattern bad) ready
  | describing {settings ready file json fatal} :
    (prepare invocation.config).run.run start = (.ok settings, ready) →
    invocation.task = .describe file json →
    Fails invocation start fatal ready
  | stubbing {settings ready inputs out json selection fatal last} :
    (prepare invocation.config).run.run start = (.ok settings, ready) →
    invocation.task = .stub inputs out json →
    settings.stubs.selection = .ok selection →
    (stubInputs selection out inputs).run.run ready = (.error fatal, last) →
    Fails invocation start fatal last
  | printing {ready made settings inputs out json selection report} :
    invocation.task = .stub inputs out json →
    StubRun invocation.config inputs out start ready made settings selection report →
    ¬ report.CanPrint json made →
    Fails invocation start .json made

section

variable {invocation : Invocation} {start last : Session} {fatal : Fatal}

/-- Loading the settings ends a run before anything happens. -/
lemma findSettings_of_prepare_error {config : Option Path}
    (h : (prepare config).run.run start = (.error fatal, last)) :
    findSettings config start = .error fatal ∧ last = start := by
  rw [prepare] at h
  rcases Run.run_bind_eq_error_iff.1 h with h | ⟨s, s', hget, h⟩
  · cases h
  cases hget
  rcases Run.run_bind_eq_error_iff.1 h with h | ⟨loaded, s', -, h⟩
  · obtain ⟨e, he, rfl, rfl⟩ := Run.run_orFail_eq_error_iff.1 h
    exact ⟨he, rfl⟩
  · cases h

/-- Describing a class ends early before anything is printed or told to the log. -/
lemma eq_of_describe_error {file : Path} {json : Bool} {s : Session}
    (h : (describe file json).run.run s = (.error fatal, last)) : last = s := by
  rw [describe] at h
  rcases Run.run_bind_eq_error_iff.1 h with h | ⟨tree, s', hfiles, h⟩
  · cases h
  cases hfiles
  rcases Run.run_bind_eq_error_iff.1 h with h | ⟨bytes, s', hread, h⟩
  · obtain ⟨-, -, -, rfl⟩ := Run.run_orFail_eq_error_iff.1 h
    rfl
  obtain ⟨-, rfl⟩ := Run.run_orFail_eq_ok_iff.1 hread
  rcases Run.run_bind_eq_error_iff.1 h with h | ⟨made, s', -, h⟩
  · obtain ⟨-, -, -, rfl⟩ := Run.run_orFail_eq_error_iff.1 h
    rfl
  · cases h

/-- A task that ends early does so in one of the ways. -/
lemma fails_of_perform (h : (perform invocation).run.run start = (.error fatal, last)) :
    Fails invocation start fatal last := by
  rw [perform] at h
  rcases Run.run_bind_eq_error_iff.1 h with h | ⟨settings, ready, hprepared, h⟩
  · obtain ⟨he, rfl⟩ := findSettings_of_prepare_error h
    exact .settings he
  cases htask : invocation.task with
  | describe file json =>
    rw [htask] at h
    obtain rfl := eq_of_describe_error h
    exact .describing hprepared htask
  | stub inputs out json =>
    rw [htask] at h
    dsimp only at h
    rw [stub] at h
    rcases Run.run_bind_eq_error_iff.1 h with h | ⟨selection, ready', hselection, h⟩
    · obtain ⟨bad, hbad, rfl, rfl⟩ := Run.run_orFail_eq_error_iff.1 h
      exact .pattern hprepared htask hbad
    obtain ⟨hselected, rfl⟩ := Run.run_orFail_eq_ok_iff.1 hselection
    rcases Run.run_bind_eq_error_iff.1 h with h | ⟨report, made, hstubbed, h⟩
    · exact .stubbing hprepared htask hselected h
    · by_cases hprint : report.CanPrint json made
      · rw [run_bind_of_ok (run_print_of_canPrint hprint)] at h
        cases h
      · rcases Run.run_bind_eq_error_iff.1 h with h | ⟨_, printed, h, -⟩
        · cases h.symm.trans (run_print_of_not_canPrint hprint)
          exact .printing htask ⟨hprepared, hselected, hstubbed⟩ hprint
        · cases h.symm.trans (run_print_of_not_canPrint hprint)

/-- A task that comes to its end has an exit code below two. -/
lemma code_lt_two_of_perform {ending : Ending} (h : (perform invocation).run.run start = (.ok ending, last)) :
    ending.code < 2 := by
  obtain ⟨config, task⟩ := invocation
  cases task with
  | describe file json =>
    rw [perform] at h
    obtain ⟨settings, ready, -, h⟩ := Run.run_bind_eq_ok_iff.1 h
    dsimp only at h
    rw [describe] at h
    obtain ⟨tree, s, -, h⟩ := Run.run_bind_eq_ok_iff.1 h
    obtain ⟨bytes, s, -, h⟩ := Run.run_bind_eq_ok_iff.1 h
    obtain ⟨made, s, -, h⟩ := Run.run_bind_eq_ok_iff.1 h
    cases h
    decide
  | stub inputs out json =>
    obtain ⟨ready, made, settings, selection, report, -, -, -, rfl⟩ := exists_stubRun_of_perform h
    rw [Report.code_ending]
    split <;> decide

/-- A run with exit code two has a fatal error, if the command line was accepted. -/
lemma exists_fails_of_run {args : List String} {finish : Session} {ending : Ending}
    (hparse : Invocation.parse args = .ok invocation) (hrun : run args start = (finish, ending))
    (hending : ending.code = 2) :
    ∃ fatal last, Fails invocation start fatal last ∧ finish = last.complain (fatal.message ++ "\n") := by
  rw [run, hparse] at hrun
  dsimp only at hrun
  rcases hperform : (perform invocation).run.run start with ⟨result, last⟩
  rw [hperform] at hrun
  cases result with
  | ok ending' =>
    cases hrun
    have hcode := code_lt_two_of_perform hperform
    omega
  | error fatal =>
    cases hrun
    exact ⟨fatal, last, fails_of_perform hperform, rfl⟩

end

/-! ### What is written by then -/

/-- The texts of the stubs whose file is the standard output, one after the other. -/
def textsAt (outlets : List Location) (stored : List (StubRecord × Location)) : String :=
  String.join ((stored.filter fun entry => outlets.contains entry.2).map fun entry => entry.1.source.text)

/-- The stubs were written below the directory, each to its place. Apart from the file of the log no place has changed
but by these writes and by new directories, and apart from the log nothing was printed but by these writes. -/
structure Wrote (start : Session) (dir : Path) (log : Option Location) (stored : List (StubRecord × Location))
    (s : Session) : Prop where
  logFile : s.logFile = log
  outlets : s.outlets = start.outlets
  storedAt : ∀ entry ∈ stored, entry.1.StoredAt s.files dir entry.2
  change : ∀ location, log ≠ some location →
    FileTree.Change (start.files.get? location) (lastWrite (stored.map fun entry => entry.1.write entry.2) location)
      (s.files.get? location)
  stdout : ¬ s.PrintsLog → s.stdout = start.stdout ++ textsAt start.outlets stored

section

variable {start : Session} {dir : Path} {log : Option Location} {stored : List (StubRecord × Location)} {s : Session}

/-- Telling events to the log writes no stub. -/
lemma Wrote.emitAll (h : Wrote start dir log stored s) (events : List Log.Event) :
    Wrote start dir log stored (s.emitAll events) := by
  have hsilent := s.silent_emitAll events
  refine ⟨hsilent.logFile.trans h.logFile, hsilent.outlets.trans h.outlets, ?_, ?_, ?_⟩
  · exact fun entry hentry => (h.storedAt entry hentry).keeps hsilent.files
  · intro location hlocation
    rw [s.agreesApartFromLog_emitAll events location (by rwa [hsilent.logFile, h.logFile])]
    exact h.change location hlocation
  · intro hlog
    have hlog' : ¬ s.PrintsLog := fun hprints => hlog (hsilent.printsLog_iff.2 hprints)
    rw [hsilent.stdout_eq hlog', h.stdout hlog']

/-- Creating directories writes no stub. -/
lemma Wrote.makeDirectories (h : Wrote start dir log stored s) (path : Path) :
    Wrote start dir log stored { s with files := (s.files.makeDirectories path).2 } := by
  have hmore := FileTree.changed_makeDirectories s.files path
  refine ⟨h.logFile, h.outlets, fun entry hentry => (h.storedAt entry hentry).keeps hmore.keeps, ?_, h.stdout⟩
  exact fun location hlocation => (h.change location hlocation).trans (hmore.change location)

/-- A stub more adds its text to what was printed, if its file is the standard output. -/
lemma textsAt_append (outlets : List Location) (stored : List (StubRecord × Location)) (record : StubRecord)
    (location : Location) :
    textsAt outlets (stored ++ [(record, location)]) =
      textsAt outlets stored ++ if location ∈ outlets then record.source.text else "" := by
  rw [textsAt, textsAt, List.filter_append, List.map_append, String.join_append]
  by_cases hmem : location ∈ outlets
  · simp [hmem]
  · simp [hmem]

/-- A stub that is written goes behind the others. -/
lemma Wrote.writeFile {declaration : Declaration} {text : String} {t : Session} (h : Wrote start dir log stored s)
    (ht : s.writeFile (dir.join (SourceFile.ofDeclaration declaration text).relativePath) text = .ok t)
    (origin : String) :
    ∃ location, Wrote start dir log (stored ++ [(⟨origin, .ofDeclaration declaration text,
      some (dir.join (SourceFile.ofDeclaration declaration text).relativePath)⟩, location)]) t := by
  obtain ⟨location, hwrite, -, houtlets, hlogger, hstdout⟩ := Session.exists_of_writeFile ht
  obtain ⟨hmore, hfind⟩ := FileTree.changed_of_write hwrite
  have hfollows := Session.follows_of_writeFile ht
  refine ⟨location, hfollows.logFile.trans h.logFile, houtlets.trans h.outlets, ?_, ?_, ?_⟩
  · intro entry hentry
    rcases List.mem_append.1 hentry with hbefore | hlast
    · exact (h.storedAt entry hbefore).keeps hmore.keeps
    · obtain rfl := List.mem_singleton.1 hlast
      exact ⟨rfl, ⟨_, hfind⟩, declaration, rfl⟩
  · intro place hplace
    rw [List.map_append, FileTree.lastWrite_append]
    exact (h.change place hplace).trans (hmore.change place)
  · intro hlog
    rw [hstdout, h.stdout fun hprints => hlog (hfollows.printsLog_iff.2 hprints), h.outlets, textsAt_append,
      String.append_assoc]
    rfl

/-- What was written stands up to everything that a run does. -/
lemma tracks_wrote (start : Session) (dir : Path) (log : Option Location) :
    Tracks dir fun records s => ∃ stored, stored.map Prod.fst = records ∧ Wrote start dir log stored s where
  emitAll := by
    rintro records s events ⟨stored, hrecords, h⟩
    exact ⟨stored, hrecords, h.emitAll events⟩
  makeDirectories := by
    rintro records s path ⟨stored, hrecords, h⟩
    exact ⟨stored, hrecords, h.makeDirectories path⟩
  writeFile := by
    rintro records s declaration text t origin ⟨stored, rfl, h⟩ ht
    obtain ⟨location, hmore⟩ := h.writeFile ht origin
    exact ⟨_, List.map_append, hmore⟩

end

/-- Loading the settings and setting up the log writes no stub. -/
lemma agreesApartFromLog_prepare {config : Option Path} {start ready : Session} {settings : Settings}
    (h : (prepare config).run.run start = (.ok settings, ready)) : start.AgreesApartFromLog ready := by
  obtain ⟨loaded, -, -, rfl⟩ := exists_loaded_of_prepare h
  exact (start.agreesApartFromLog_startLog _).trans (Session.agreesApartFromLog_emitAll _ _)
    (Session.silent_emitAll _ (settingsEvents loaded)).logFile

/-- Before the inputs have their turns, no stub was written. -/
lemma wrote_of_prepare {config : Option Path} {start ready : Session} {settings : Settings} (dir : Path)
    (h : (prepare config).run.run start = (.ok settings, ready)) : Wrote start dir ready.logFile [] ready := by
  refine ⟨rfl, (surroundings_prepare h).2, nofun, ?_, ?_⟩
  · intro location hlocation
    rw [agreesApartFromLog_prepare h location hlocation]
    exact .same _
  · intro hlog
    rw [stdout_prepare h hlog]
    exact String.append_empty.symm

/-! ### Where the work is cut short -/

/-- The inputs do not come to the end of their turns, or the report behind them is not printed. Given are the listings so
far, the entries whose turn is over, and those of the last listing whose turn is not. -/
inductive CutShort (selection : Selection) (dir : Path) (s : Session) :
    List Path → List Listing → List Found → List Found → Prop where
  /-- An input cannot be listed, so none of its entries has a turn. -/
  | unlisted {front input back listings t fault} :
    Turns selection (some dir) s front listings t →
    (Archive.mk input).list t.files = .error fault →
    CutShort selection dir s (front ++ input :: back) listings (listings.flatMap Listing.found) []
  /-- The stub of an entry cannot be written. -/
  | unwritten {front input back listings t entries done found rest} :
    Turns selection (some dir) s front listings t →
    (Archive.mk input).list t.files = .ok entries →
    (Listing.mk ⟨input⟩ t.files entries).found = done ++ found :: rest →
    (found.selected? selection).isSome →
    CutShort selection dir s (front ++ input :: back) (listings ++ [⟨⟨input⟩, t.files, entries⟩])
      (listings.flatMap Listing.found ++ done) (found :: rest)
  /-- All stubs were written, but JSON cannot show the path of one. -/
  | unprinted {inputs listings t record} :
    Turns selection (some dir) s inputs listings t →
    record ∈ (listings.flatMap Listing.found).filterMap (Found.record? selection (some dir)) →
    record.hasTextPath s.environment.standIns = false →
    CutShort selection dir s inputs listings (listings.flatMap Listing.found) []

section

variable {selection : Selection} {dir : Path} {inputs : List Path} {listings : List Listing} {done pending : List Found}
  {s t : Session}

/-- The listed entries are those whose turn is over and those whose turn is not. -/
lemma CutShort.found_eq (h : CutShort selection dir s inputs listings done pending) :
    listings.flatMap Listing.found = done ++ pending := by
  cases h with
  | unlisted => rw [List.append_nil]
  | unwritten _ _ hfound _ =>
    rw [List.flatMap_append, List.flatMap_singleton, hfound, List.append_assoc]
  | unprinted => rw [List.append_nil]

/-- Each input that had its turn has a listing. -/
lemma Turns.archives_eq {out : Option Path} (h : Turns selection out s inputs listings t) :
    listings.map Listing.archive = inputs.map Archive.mk := by
  induction h with
  | nil => rfl
  | cons _ _ _ ih => rw [List.map_cons, List.map_cons, ih]

/-- The listings are those of the first inputs. -/
lemma CutShort.archives_prefix (h : CutShort selection dir s inputs listings done pending) :
    listings.map Listing.archive <+: inputs.map Archive.mk := by
  cases h with
  | unlisted hturns _ =>
    rw [hturns.archives_eq, List.map_append]
    exact List.prefix_append _ _
  | @unwritten front input back _ _ _ _ _ _ hturns =>
    rw [List.map_append, hturns.archives_eq, List.map_append, List.prefix_append_right_inj]
    exact ⟨back.map Archive.mk, rfl⟩
  | unprinted hturns _ _ => exact hturns.archives_eq ▸ List.prefix_rfl

/-- The entries of a listing are those of its input, in the order of their names. -/
def Listing.IsInOrder (l : Listing) : Prop :=
  l.archive.list l.files = .ok l.entries ∧ l.entries.Pairwise fun entry entry' => entry.name ≤ entry'.name

/-- What is listed is sorted by name. -/
lemma Listing.isInOrder_of_list {l : Listing} (h : l.archive.list l.files = .ok l.entries) : l.IsInOrder := by
  refine ⟨h, ?_⟩
  obtain ⟨found, -, hsorted⟩ := bind_eq_ok_iff.1 (Archive.entries_of_list h)
  rw [← Except.ok.inj hsorted]
  exact Archive.pairwise_sortEntries _

/-- The listings of inputs that had their turns are in order. -/
lemma Turns.isInOrder {out : Option Path} (h : Turns selection out s inputs listings t) :
    ∀ listing ∈ listings, listing.IsInOrder := by
  induction h with
  | nil => nofun
  | cons hentries _ _ ih => exact List.forall_mem_cons.2 ⟨Listing.isInOrder_of_list hentries, ih⟩

/-- The listings so far are in order. -/
lemma CutShort.isInOrder (h : CutShort selection dir s inputs listings done pending) :
    ∀ listing ∈ listings, listing.IsInOrder := by
  cases h with
  | unlisted hturns _ => exact hturns.isInOrder
  | unwritten hturns hentries _ _ =>
    refine List.forall_mem_append.2 ⟨hturns.isInOrder, ?_⟩
    exact List.forall_mem_singleton.2 (Listing.isInOrder_of_list hentries)
  | unprinted hturns _ _ => exact hturns.isInOrder

end

section

variable {selection : Selection} {dir : Path} {inputs : List Path} {Made : List StubRecord → Session → Prop}
  {fatal : Fatal} {s t : Session}

/-- The records of outcomes are those of the entries that they belong to. -/
lemma records_of_outcomes (found : List Found) (out : Option Path) :
    (found.map (Found.outcome selection out)).flatMap (fun outcome => outcome.record?.toList) =
      found.filterMap (Found.record? selection out) := by
  rw [← List.filterMap_eq_flatMap_toList, List.filterMap_map]
  exact List.filterMap_congr fun f _ => Found.record?_outcome selection out f

/-- An input ends a run when it cannot be listed, or at the entry whose stub cannot be written. -/
lemma Tracks.exists_of_stubInput_error (h : Tracks dir Made) {input : Path} {records : List StubRecord}
    (hrun : (stubInput selection (some dir) input).run.run s = (.error fatal, t)) (hs : Made records s) :
    (∃ fault, (Archive.mk input).list s.files = .error fault ∧ Made records t) ∨
      ∃ entries done found rest, (Archive.mk input).list s.files = .ok entries ∧
        (Listing.mk ⟨input⟩ s.files entries).found = done ++ found :: rest ∧ (found.selected? selection).isSome ∧
        Made (records ++ done.filterMap (Found.record? selection (some dir))) t := by
  rw [stubInput] at hrun
  rcases Run.run_bind_eq_error_iff.1 hrun with hrun | ⟨tree, s', hfiles, hrun⟩
  · cases hrun
  cases hfiles
  rcases Run.run_bind_eq_error_iff.1 hrun with hrun | ⟨entries, s', hentries, hrun⟩
  · obtain ⟨fault, hfault, -, rfl⟩ := Run.run_orFail_eq_error_iff.1 hrun
    exact .inl ⟨fault, hfault, hs⟩
  obtain ⟨hlisted, rfl⟩ := Run.run_orFail_eq_ok_iff.1 hentries
  rcases Run.run_bind_eq_error_iff.1 hrun with hrun | ⟨_, s', hemit, hrun⟩
  · cases hrun
  cases hemit
  obtain ⟨front, entry, back, outcomes, mid, rfl, hfront, hentry⟩ := Run.exists_of_run_mapM_eq_error hrun
  -- The entries in front have their outcomes, and so their records.
  have hsilent := s.silent_emitAll [(Archive.mk input).listedEvent (front ++ entry :: back).length]
  obtain ⟨rfl, -⟩ := (quiet_mapM_stubEntry selection (some dir) hlisted front).of_run hfront hsilent.toFollows
  have hmid := (h.adds_stubEntries selection ⟨input⟩ front records).of_run hfront (h.emitAll _ hs)
  dsimp only at hmid
  rw [records_of_outcomes] at hmid
  obtain ⟨ht, declaration, text, hbytes, hallows⟩ := h.of_stubEntry_error hentry hmid
  let found : Found := ⟨(Archive.mk input).origin s.files entry.name, entry.bytes⟩
  have hselected : (found.selected? selection).isSome := by
    rw [Found.selected?, hbytes]
    simp [hallows]
  refine .inr ⟨_, _, found, (Listing.mk ⟨input⟩ s.files back).found, hlisted, ?_, hselected, ht⟩
  rw [Listing.found, List.map_append, List.map_cons]
  rfl

/-- Where the turns of the inputs are cut short, the records are those of the entries whose turn is over. -/
lemma Tracks.exists_cutShort (h : Tracks dir Made)
    (hrun : (stubInputs selection (some dir) inputs).run.run s = (.error fatal, t)) (hs : Made [] s) :
    ∃ listings done pending, CutShort selection dir s inputs listings done pending ∧
      Made (done.filterMap (Found.record? selection (some dir))) t := by
  rw [stubInputs] at hrun
  rcases Run.run_bind_eq_error_iff.1 hrun with hrun | ⟨outcomes, s', -, hrun⟩
  swap
  · cases hrun
  obtain ⟨front, input, back, outcomes, mid, rfl, hfront, hinput⟩ := Run.exists_of_run_mapM_eq_error hrun
  obtain ⟨listings, hturns, hflatten, -⟩ := exists_turns_of_mapM hfront
  have hmid := (h.adds_turns selection front []).of_run hfront hs
  dsimp only at hmid
  rw [List.nil_append, hflatten, records_of_outcomes] at hmid
  rcases h.exists_of_stubInput_error hinput hmid with
    ⟨fault, hfault, ht⟩ | ⟨entries, done, found, rest, hentries, hfound, hselected, ht⟩
  · exact ⟨listings, _, [], .unlisted hturns hfault, ht⟩
  · refine ⟨_, _, _, .unwritten hturns hentries hfound hselected, ?_⟩
    rwa [List.filterMap_append]

end

/-! ### The whole run -/

/-- The settings cannot be loaded, or a pattern in them is none. -/
def HasBadSettings (invocation : Invocation) (start : Session) : Prop :=
  (∃ e, findSettings invocation.config start = .error e) ∨
    ∃ loaded bad, findSettings invocation.config start = .ok loaded ∧
      loaded.settings.stubs.selection = .error bad

/-- The second session differs from the first one by the log at most. -/
structure OnlyLogged (start s : Session) : Prop where
  agrees : start.AgreesApartFromLog s
  stdout : ¬ s.PrintsLog → s.stdout = start.stdout

/-- Events are for the log only. -/
lemma OnlyLogged.emitAll {start s : Session} (h : OnlyLogged start s) (events : List Log.Event) :
    OnlyLogged start (s.emitAll events) := by
  have hsilent := s.silent_emitAll events
  refine ⟨h.agrees.trans (s.agreesApartFromLog_emitAll events) hsilent.logFile, fun hlog => ?_⟩
  have hlog' : ¬ s.PrintsLog := fun hprints => hlog (hsilent.printsLog_iff.2 hprints)
  rw [hsilent.stdout_eq hlog', h.stdout hlog']

/-- Loading the settings is for the log only. -/
lemma onlyLogged_prepare {config : Option Path} {start ready : Session} {settings : Settings}
    (h : (prepare config).run.run start = (.ok settings, ready)) : OnlyLogged start ready :=
  ⟨agreesApartFromLog_prepare h, stdout_prepare h⟩

section

variable {invocation : Invocation} {start ready : Session} {settings : Settings} {selection : Selection}

/-- With bad settings the inputs have no turns. -/
lemma not_hasBadSettings (hprepared : (prepare invocation.config).run.run start = (.ok settings, ready))
    (hselected : settings.stubs.selection = .ok selection) : ¬ HasBadSettings invocation start := by
  obtain ⟨loaded, hloaded, rfl, -⟩ := exists_loaded_of_prepare hprepared
  rintro (⟨e, he⟩ | ⟨loaded', bad, hloaded', hpattern⟩)
  · cases hloaded.symm.trans he
  · cases hloaded.symm.trans hloaded'
    cases hselected.symm.trans hpattern

/-- A run that does not come to write stubs ends with nothing but the log. -/
lemma Fails.onlyLogged {last : Session} {fatal : Fatal} (h : Fails invocation start fatal last)
    (hnone : HasBadSettings invocation start ∨ ∀ inputs dir json, invocation.task ≠ .stub inputs (some dir) json) :
    OnlyLogged start last := by
  have hturns : ∀ inputs selection, Run.Triple (OnlyLogged start) (stubInputs selection none inputs)
      (fun _ => OnlyLogged start) fun _ => OnlyLogged start :=
    fun inputs selection => triple_stubInputs (fun _ events hs => hs.emitAll events) inputs
  cases h with
  | settings _ => exact ⟨fun _ _ => rfl, fun _ => rfl⟩
  | pattern hprepared _ _ => exact onlyLogged_prepare hprepared
  | describing hprepared _ => exact onlyLogged_prepare hprepared
  | @stubbing _ _ _ out _ _ _ _ hprepared htask hselected hrun =>
    cases out with
    | none => exact (hturns _ _).of_run_error hrun (onlyLogged_prepare hprepared)
    | some dir => exact absurd htask ((hnone.resolve_left (not_hasBadSettings hprepared hselected)) _ _ _)
  | @printing _ _ _ _ out _ _ _ htask hstubRun _ =>
    cases out with
    | none => exact (hturns _ _).of_run hstubRun.stubbed (onlyLogged_prepare hstubRun.prepared)
    | some dir =>
      exact absurd htask ((hnone.resolve_left (not_hasBadSettings hstubRun.prepared hstubRun.selected)) _ _ _)

/-- A run that comes to write stubs and ends with a fatal error is cut short, and it has written the stubs of the entries
whose turn is over. -/
lemma Fails.exists_cutShort {last : Session} {fatal : Fatal} {inputs : List Path} {dir : Path} {json : Bool}
    (h : Fails invocation start fatal last) (hgood : ¬ HasBadSettings invocation start)
    (htask : invocation.task = .stub inputs (some dir) json) :
    ∃ ready settings selection listings done pending stored,
      (prepare invocation.config).run.run start = (.ok settings, ready) ∧ settings.stubs.selection = .ok selection ∧
      CutShort selection dir ready inputs listings done pending ∧
      stored.map Prod.fst = done.filterMap (Found.record? selection (some dir)) ∧
      Wrote start dir last.logFile stored last := by
  cases h with
  | settings he => exact absurd (.inl ⟨_, he⟩) hgood
  | pattern hprepared _ hbad =>
    obtain ⟨loaded, hloaded, rfl, -⟩ := exists_loaded_of_prepare hprepared
    exact absurd (.inr ⟨loaded, _, hloaded, hbad⟩) hgood
  | describing _ htask' => cases htask.symm.trans htask'
  | @stubbing _ ready _ _ _ _ _ _ hprepared htask' hselected hrun =>
    cases htask.symm.trans htask'
    obtain ⟨listings, done, pending, hcut, stored, hstored, hwrote⟩ :=
      (tracks_wrote start dir ready.logFile).exists_cutShort hrun ⟨[], rfl, wrote_of_prepare dir hprepared⟩
    exact ⟨_, _, _, listings, done, pending, stored, hprepared, hselected, hcut, hstored, hwrote.logFile ▸ hwrote⟩
  | @printing ready _ _ _ _ _ selection report htask' hstubRun hprint =>
    cases htask.symm.trans htask'
    obtain ⟨listings, hturns, hreport, hfollows⟩ := exists_turns_of_stubInputs hstubRun.stubbed
    obtain ⟨stored, hstored, hwrote⟩ :=
      ((tracks_wrote start dir ready.logFile).adds_stubInputs _ inputs []).of_run hstubRun.stubbed
        ⟨[], rfl, wrote_of_prepare dir hstubRun.prepared⟩
    rw [Report.ofOutcomes_found] at hreport
    have hstubs : report.stubs = (listings.flatMap Listing.found).filterMap (Found.record? selection (some dir)) := by
      rw [hreport]
    -- A report that cannot be printed has a path that is no text.
    obtain ⟨record, hrecord, hhidden⟩ : ∃ record ∈ report.stubs,
        record.hasTextPath ready.environment.standIns = false := by
      rw [Report.CanPrint, Classical.not_imp, Bool.not_eq_true, Report.isText, List.all_eq_false,
        hfollows.environment] at hprint
      simpa using hprint.2
    rw [hstubs] at hrecord
    rw [List.nil_append, hstubs] at hstored
    exact ⟨_, _, _, listings, _, [], stored, hstubRun.prepared, hstubRun.selected, .unprinted hturns hrecord hhidden,
      hstored, hwrote.logFile ▸ hwrote⟩

end

/-- A session with a class file, and without the zip file that the run asks for behind it. -/
def brokenSession : Session where
  environment := {}
  files := { base := [], nodes := [(["A.class"], .file plainLayout.encode)] }

/-- The same session, in which a link leads from the file of the stub to the standard output. -/
def outletSession : Session :=
  .start {} {
    base := []
    nodes := [(["A.class"], .file plainLayout.encode), (["o"], .directory), (["o", "p"], .directory),
      (["o", "p", "A.java"], .link (FileTree.pathOf Session.standardOutlet))] }

end ClassStub.Command
