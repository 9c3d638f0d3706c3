import Mathlib.Data.List.Nodup
import ClassStub.Proofs.Command.Accounting
import ClassStub.Proofs.Command.Arguments
import ClassStub.Proofs.Command.Records
import ClassStub.Proofs.SourceFile

/-!
# What a run leaves in the files

A run that makes stubs below a directory writes one file for each record of its report, one after the other, and
creates directories for them. `Made` holds along the run: it ties the records so far to the writes so far. When there
are no links below the directory, two records are written to the same place only if they have the same path. So the
file at each path holds the text of the last record with that path, and all other files are as they were.
-/

namespace ClassStub.Command

open FileTree (lastWrite)

/-- The stub of a record was written below the directory, and its path leads to the place where it is. -/
structure StubRecord.StoredAt (tree : FileTree) (dir : Path) (record : StubRecord) (location : Location) : Prop where
  written : record.written = some (dir.join record.source.relativePath)
  found : ∃ content, tree.find (dir.join record.source.relativePath) = .ok (location, .file content)
  declared : ∃ declaration, record.source = .ofDeclaration declaration record.source.text

/-- What was written at the place of a record. -/
def StubRecord.write (record : StubRecord) (location : Location) : Location × Bytes :=
  (location, Text.Utf8.encode record.source.text)

/-- In the session the records are stored below the directory, and besides their writes no file has changed. -/
structure Made (old : FileTree) (dir : Path) (records : List StubRecord) (s : Session) : Prop where
  logsToNoFile : s.LogsToNoFile
  stored : ∃ stored : List (StubRecord × Location), stored.map Prod.fst = records ∧
    (∀ entry ∈ stored, entry.1.StoredAt s.files dir entry.2) ∧
    old.Changed (stored.map fun entry => entry.1.write entry.2) s.files

section

variable {old : FileTree} {dir : Path} {records : List StubRecord} {s : Session}

/-- A stub stays stored while nothing is gone. -/
lemma StubRecord.StoredAt.keeps {before after : FileTree} {record : StubRecord} {location : Location}
    (h : record.StoredAt before dir location) (hkeeps : before.Keeps after) :
    record.StoredAt after dir location := by
  obtain ⟨content, hfound⟩ := h.found
  obtain ⟨node, hfound', halike⟩ := hkeeps.find hfound
  cases halike with
  | file _ new => exact ⟨h.written, ⟨new, hfound'⟩, h.declared⟩

/-- New directories are no writes, so the row of writes stays as it is. -/
lemma Made.makeDirectories (path : Path) (h : Made old dir records s) :
    Made old dir records { s with files := (s.files.makeDirectories path).2 } := by
  obtain ⟨stored, hrecords, hstored, hchanged⟩ := h.stored
  have hmore := FileTree.changed_makeDirectories s.files path
  refine ⟨h.logsToNoFile, stored, hrecords, fun entry hentry => (hstored entry hentry).keeps hmore.keeps, ?_⟩
  simpa using hchanged.trans hmore

/-- A stub that is written goes behind the others. Those stay stored: at worst the write hits the file of one of them. -/
lemma Made.writeFile {declaration : Declaration} {text : String} {t : Session} (origin : String)
    (h : Made old dir records s)
    (ht : s.writeFile (dir.join (SourceFile.ofDeclaration declaration text).relativePath) text = .ok t) :
    Made old dir (records ++ [⟨origin, .ofDeclaration declaration text,
      some (dir.join (SourceFile.ofDeclaration declaration text).relativePath)⟩]) t := by
  obtain ⟨stored, rfl, hstored, hchanged⟩ := h.stored
  obtain ⟨location, hwrite, -, -, hlogger, -⟩ := Session.exists_of_writeFile ht
  obtain ⟨hmore, hfind⟩ := FileTree.changed_of_write hwrite
  have hlogs : t.LogsToNoFile := by
    rw [Session.LogsToNoFile, hlogger]
    exact h.logsToNoFile
  refine ⟨hlogs, stored ++ [(_, location)], List.map_append, ?_, ?_⟩
  · intro entry hentry
    rcases List.mem_append.1 hentry with hbefore | hlast
    · exact (hstored entry hbefore).keeps hmore.keeps
    · obtain rfl := List.mem_singleton.1 hlast
      exact ⟨rfl, ⟨_, hfind⟩, declaration, rfl⟩
  · rw [List.map_append]
    exact hchanged.trans hmore

/-- Events to a log without a file leave the stubs as they are. -/
lemma Made.emitAll (h : Made old dir records s) (events : List Log.Event) :
    Made old dir records (s.emitAll events) := by
  obtain ⟨hlogs, hfiles⟩ := h.logsToNoFile.emitAll events
  exact ⟨hlogs, hfiles.symm ▸ h.stored⟩

end

/-- What is stored stands up to everything that a run does. -/
lemma tracks_made (old : FileTree) (dir : Path) : Tracks dir (Made old dir) where
  emitAll events h := h.emitAll events
  makeDirectories path h := h.makeDirectories path
  writeFile origin h ht := h.writeFile origin ht

/-- The turns of the inputs store the stubs of the report. -/
lemma adds_stubInputs_made (old : FileTree) (dir : Path) (selection : Selection) (inputs : List Path) :
    Run.Adds (Made old dir) (stubInputs selection (some dir) inputs) Report.stubs :=
  (tracks_made old dir).adds_stubInputs selection inputs

/-! ### After the run -/

section

variable {tree : FileTree} {dir : Path}

/-- What was written last at a place is the text of the last record there. -/
lemma lastWrite_eq {stored : List (StubRecord × Location)} {location : Location} {path : Path}
    (h : ∀ entry ∈ stored, entry.2 = location ↔ entry.1.written = some path) :
    lastWrite (stored.map fun entry => entry.1.write entry.2) location =
      (((stored.map Prod.fst).filter fun record => record.written = some path).getLast?).map
        fun last => Text.Utf8.encode last.source.text := by
  induction stored with
  | nil => rfl
  | cons entry stored ih =>
    obtain ⟨record, place⟩ := entry
    rw [List.forall_mem_cons] at h
    rw [List.map_cons, ← List.singleton_append, FileTree.lastWrite_append, ih h.2, List.map_cons, List.filter_cons]
    dsimp only at h ⊢
    -- A later write at the place counts before this one, as a later record with the path does.
    by_cases hpath : record.written = some path
    · obtain rfl := h.1.2 hpath
      rw [if_pos (by simpa using hpath), List.getLast?_cons, StubRecord.write, lastWrite, List.reverse_singleton,
        List.lookup_cons_self]
      cases ((stored.map Prod.fst).filter fun record => record.written = some path).getLast? with
      | none => rfl
      | some last => rfl
    · have hne : (location == place) = false := by simpa using fun heq => hpath (h.1.1 heq.symm)
      rw [if_neg (by simpa using hpath), StubRecord.write, lastWrite, List.reverse_singleton, List.lookup_cons, hne]
      simp

/-- Behind a directory without links, a stub is stored where its names say. -/
lemma StubRecord.StoredAt.location_eq {record : StubRecord} {location : Location} (hdir : dir.text ≠ "")
    (hfree : tree.LinkFreeBelow dir) (h : record.StoredAt tree dir location) :
    ∃ middle, tree.find dir = .ok (middle, .directory) ∧ location = middle ++ record.source.names ∧
      record.source.relativePath = Path.ofNames record.source.names := by
  obtain ⟨content, hfound⟩ := h.found
  obtain ⟨declaration, hdeclared⟩ := h.declared
  rw [hdeclared] at hfound ⊢
  obtain ⟨hpath, hnames⟩ := SourceFile.relativePath_ofDeclaration declaration record.source.text
  rw [hpath] at hfound
  obtain ⟨middle, hmiddle, hlocation⟩ := hfree.location_eq hdir hnames (by simp [SourceFile.names]) hfound
  exact ⟨middle, hmiddle, hlocation, hpath⟩

/-- Two stubs are stored at one place exactly if they were written along one path. -/
lemma StubRecord.StoredAt.location_eq_iff {first second : StubRecord} {location location' : Location}
    (hdir : dir.text ≠ "") (hfree : tree.LinkFreeBelow dir) (hfirst : first.StoredAt tree dir location)
    (hsecond : second.StoredAt tree dir location') : location = location' ↔ first.written = second.written := by
  rw [hfirst.written, hsecond.written, Option.some.injEq]
  constructor
  · intro heq
    obtain ⟨middle, hmiddle, hplace, hpath⟩ := hfirst.location_eq hdir hfree
    obtain ⟨middle', hmiddle', hplace', hpath'⟩ := hsecond.location_eq hdir hfree
    cases hmiddle.symm.trans hmiddle'
    have hnames := List.append_cancel_left (hplace.symm.trans (heq.trans hplace'))
    rw [hpath, hpath', hnames]
  · intro heq
    obtain ⟨content, hfound⟩ := hfirst.found
    obtain ⟨content', hfound'⟩ := hsecond.found
    rw [heq, hfound'] at hfound
    cases hfound
    rfl

end

/-- What the files hold after records were stored below a directory. -/
structure Leaves (dir : Path) (records : List StubRecord) (before after : FileTree) : Prop where
  /-- Each stub has its path below the directory. -/
  written : ∀ record ∈ records, record.written = some (dir.join record.source.relativePath)
  /-- The file at each path holds the text of the last stub with that path. -/
  holds : ∀ path last, (records.filter fun record => record.written = some path).getLast? = some last →
    after.read path = .ok (Text.Utf8.encode last.source.text)
  /-- A file that no such path leads to is as it was, and none is new. -/
  others : ∀ location, (∀ record ∈ records, ∀ path, record.written = some path →
      ∀ content, after.find path ≠ .ok (location, .file content)) →
    ∀ content, after.get? location = some (.file content) ↔ before.get? location = some (.file content)
  /-- Links are as they were. -/
  links : ∀ location target, after.get? location = some (.link target) ↔ before.get? location = some (.link target)

section

variable {old : FileTree} {dir : Path} {records : List StubRecord} {s : Session}

/-- Where records were made in a directory without links, their files are left there. -/
lemma Made.leaves (h : Made old dir records s) (hdir : dir.text ≠ "") (hfree : s.files.LinkFreeBelow dir) :
    Leaves dir records old s.files := by
  obtain ⟨stored, rfl, hstored, hchanged⟩ := h.stored
  refine ⟨?_, ?_, ?_, fun location target => hchanged.get?_link_iff target⟩
  · intro record hrecord
    obtain ⟨entry, hentry, rfl⟩ := List.mem_map.1 hrecord
    exact (hstored entry hentry).written
  · intro path last hlast
    obtain ⟨hmem, hwritten⟩ := List.mem_filter.1 (List.mem_of_getLast? hlast)
    obtain ⟨⟨_, location⟩, hentry, rfl⟩ := List.mem_map.1 hmem
    have hat := hstored _ hentry
    have hpath : some (dir.join _) = some path := hat.written.symm.trans (by simpa using hwritten)
    have hplaces : ∀ entry ∈ stored, entry.2 = location ↔ entry.1.written = some path := by
      intro entry hentry'
      rw [← hpath, ← hat.written]
      exact (hstored entry hentry').location_eq_iff hdir hfree hat
    -- The path leads to the place of the last record with it, and there is what was written last.
    have hget := hchanged.get?_of_lastWrite ((lastWrite_eq hplaces).trans (congrArg _ hlast))
    obtain ⟨found, hfound⟩ := hat.found
    cases (FileTree.get?_of_find hfound).symm.trans hget
    rw [← Option.some.inj hpath]
    exact FileTree.read_eq_ok_iff.2 ⟨location, hfound⟩
  · intro location hnone content
    refine hchanged.get?_file_iff ?_ content
    -- Every write is at a place that the path of its record leads to.
    rw [lastWrite, List.lookup_eq_none_iff]
    intro write hwrite
    obtain ⟨entry, hentry, rfl⟩ := List.mem_map.1 (List.mem_reverse.1 hwrite)
    have hat := hstored entry hentry
    obtain ⟨found, hfound⟩ := hat.found
    have hne : location ≠ entry.2 := by
      rintro rfl
      exact hnone entry.1 (List.mem_map_of_mem hentry) _ hat.written found hfound
    simpa [StubRecord.write] using hne

/-- Stubs with different paths do not get in each other's way. -/
lemma Leaves.read_of_nodup {before after : FileTree} (h : Leaves dir records before after)
    (hnodup : (records.map StubRecord.written).Nodup) {record : StubRecord} (hrecord : record ∈ records) :
    after.read (dir.join record.source.relativePath) = .ok (Text.Utf8.encode record.source.text) := by
  have hwritten := h.written record hrecord
  have hmem : record ∈ records.filter fun other => other.written = some (dir.join record.source.relativePath) :=
    List.mem_filter.2 ⟨hrecord, by simpa using hwritten⟩
  obtain ⟨last, hlast⟩ := Option.isSome_iff_exists.1 (List.getLast?_isSome.2 (List.ne_nil_of_mem hmem))
  obtain ⟨hmem', hwritten'⟩ := List.mem_filter.1 (List.mem_of_getLast? hlast)
  have hsame : last.written = record.written := by
    rw [hwritten]
    simpa using hwritten'
  obtain rfl := List.inj_on_of_nodup_map hnodup hmem' hrecord hsame
  exact h.holds _ last hlast

end

/-! ### Classes with plain names -/

section

variable {selection : Selection} {dir : Path} {found : List Found}

/-- The internal name of a selected class. -/
def Found.name? (selection : Selection) (f : Found) : Option String :=
  (f.selected? selection).map fun (declaration, _) => declaration.name

/-- A plain name is the path of the stub. -/
lemma written_of_isPlain
    (hplain : ∀ name ∈ found.filterMap (Found.name? selection), SourceFile.IsPlain name) :
    (found.filterMap (Found.record? selection (some dir))).map StubRecord.written =
      (found.filterMap (Found.name? selection)).map fun name => some (dir.join ⟨name ++ ".java"⟩) := by
  rw [List.map_filterMap, List.map_filterMap]
  refine List.filterMap_congr fun f hf => ?_
  rw [Found.record?, Found.name?, Option.map_map, Option.map_map]
  refine Option.map_congr ?_
  rintro ⟨declaration, text⟩ hselected
  have hname : declaration.name ∈ found.filterMap (Found.name? selection) :=
    List.mem_filterMap.2 ⟨f, hf, Option.map_eq_some_iff.2 ⟨_, hselected, rfl⟩⟩
  exact congrArg (fun path => some (dir.join path)) (SourceFile.relativePath_of_isPlain (hplain _ hname) text)

/-- Different plain names have different paths. -/
lemma nodup_written (hnodup : (found.filterMap (Found.name? selection)).Nodup)
    (hplain : ∀ name ∈ found.filterMap (Found.name? selection), SourceFile.IsPlain name) :
    ((found.filterMap (Found.record? selection (some dir))).map StubRecord.written).Nodup := by
  have htext : ∀ name ∈ found.filterMap (Found.name? selection),
      (dir.join ⟨name ++ ".java"⟩).text = dir.text ++ dir.separator ++ (name ++ ".java") := by
    intro name hname
    refine Path.text_join ?_
    obtain ⟨f, -, hf⟩ := List.mem_filterMap.1 hname
    obtain ⟨⟨declaration, text⟩, -, rfl⟩ := Option.map_eq_some_iff.1 hf
    rw [← SourceFile.relativePath_of_isPlain (hplain _ hname) text]
    obtain ⟨hpath, hnames⟩ := SourceFile.relativePath_ofDeclaration declaration text
    rw [hpath]
    exact Path.isAbsolute_ofNames hnames
  rw [written_of_isPlain hplain]
  refine hnodup.map_on ?_
  intro name hname name' hname' heq
  have hjoined := congrArg Path.text (Option.some.inj heq)
  rw [htext name hname, htext name' hname'] at hjoined
  simpa using hjoined

end

/-! ### The whole run -/

/-- Without a log file, neither before nor in the settings, preparing a run leaves the files as they are. -/
lemma prepare_of_no_file {config : Option Path} {start ready : Session} {settings : Settings}
    (h : (prepare config).run.run start = (.ok settings, ready)) (hlogs : start.LogsToNoFile)
    (hfile : ∀ loaded, findSettings config start = .ok loaded → loaded.settings.logging.file = none) :
    ready.LogsToNoFile ∧ ready.files = start.files := by
  obtain ⟨loaded, hfound, -, rfl⟩ := exists_loaded_of_prepare h
  obtain ⟨hstarted, hfiles⟩ := hlogs.startLog (hfile loaded hfound)
  obtain ⟨htold, hfiles'⟩ := hstarted.emitAll (settingsEvents loaded)
  exact ⟨htold, hfiles'.trans hfiles⟩

/-- Without a log file, the end of a run leaves the files as they are. -/
lemma files_conclude {report : Report} {out : Option Path} {json : Bool} {s : Session} (h : s.LogsToNoFile) :
    (report.conclude out json s).files = s.files := by
  have hprinted : (s.print (String.join ((report.lines out json).map (· ++ "\n")))).LogsToNoFile := h
  exact (hprinted.emitAll [report.event]).2

/-- What a run leaves in the files when stubs are written below a directory, nothing is logged to a file and there are
no links below the directory (a run places none and removes none). Each record of the report has its path below the
directory, the file at each path holds the text of the last record with that path, and no other file was created or
changed. If the selected classes have plain names and no two have the same, no two records have the same path, and the
file of each record holds its own text. -/
theorem files_after_run {args : List String} {config : Option Path} {inputs : List Path} {dir : Path} {json : Bool}
    {start finish : Session} {ending : Ending}
    (hparse : Invocation.parse args = .ok ⟨config, .stub inputs (some dir) json⟩)
    (hrun : run args start = (finish, ending)) (hending : ending.code = 0 ∨ ending.code = 1)
    (hlogs : start.LogsToNoFile)
    (hfile : ∀ loaded, findSettings config start = .ok loaded → loaded.settings.logging.file = none)
    (hfree : finish.files.LinkFreeBelow dir) :
    ∃ ready made settings selection report listings found,
      StubRun config inputs (some dir) start ready made settings selection report ∧
      Turns selection (some dir) ready inputs listings made ∧ found = listings.flatMap Listing.found ∧
      report.stubs = found.filterMap (Found.record? selection (some dir)) ∧
      Leaves dir report.stubs start.files finish.files ∧
      ((found.filterMap (Found.name? selection)).Nodup →
        (∀ name ∈ found.filterMap (Found.name? selection), SourceFile.IsPlain name) →
        (report.stubs.map StubRecord.written).Nodup ∧
        ∀ record ∈ report.stubs, finish.files.read (dir.join record.source.relativePath) =
          .ok (Text.Utf8.encode record.source.text)) := by
  obtain ⟨ready, made, settings, selection, report, hstubRun, rfl, rfl⟩ := exists_stubRun hparse hrun (by omega)
  -- Nothing was written before the inputs had their turns, and nothing is written after them.
  obtain ⟨hready, hfiles⟩ := prepare_of_no_file hstubRun.prepared hlogs hfile
  have hmade : Made ready.files dir ([] ++ report.stubs) made :=
    (adds_stubInputs_made _ dir selection inputs []).of_run hstubRun.stubbed ⟨hready, [], rfl, nofun, .refl _⟩
  rw [List.nil_append, hfiles] at hmade
  rw [files_conclude hmade.logsToNoFile] at hfree ⊢
  have hleaves := hmade.leaves (Invocation.ne_empty_of_parse hparse) hfree
  obtain ⟨listings, hturns, hreport, -⟩ := exists_turns_of_stubInputs hstubRun.stubbed
  have hstubs : report.stubs = (listings.flatMap Listing.found).filterMap (Found.record? selection (some dir)) := by
    rw [hreport, Report.ofOutcomes_found]
  refine ⟨ready, made, settings, selection, report, listings, _, hstubRun, hturns, rfl, hstubs, hleaves, ?_⟩
  intro hnodup hplain
  have hdistinct : (report.stubs.map StubRecord.written).Nodup := hstubs ▸ nodup_written hnodup hplain
  exact ⟨hdistinct, fun record hrecord => hleaves.read_of_nodup hdistinct hrecord⟩

/-- A session with two files that hold classes of the same name, one of them final. -/
def clashingSession : Session where
  environment := {}
  files := {
    base := []
    nodes := [(["A.class"], .file plainLayout.encode),
      (["B.class"], .file { plainLayout with access := 0x0031 }.encode)] }

/-- The two classes have the same path, and the file there holds the stub of the second one. -/
theorem clashingSession_files :
    ∃ finish ending, ∃ report : Report, ∃ last : StubRecord,
      run ["stub", "--out", "o", "A.class", "B.class"] clashingSession = (finish, ending) ∧ ending.code = 0 ∧
        report.stubs.map StubRecord.written = [some ⟨"o/p/A.java"⟩, some ⟨"o/p/A.java"⟩] ∧
        report.stubs.getLast? = some last ∧
        finish.files.read ⟨"o/p/A.java"⟩ = .ok (Text.Utf8.encode last.source.text) := by
  have hcode : (run ["stub", "--out", "o", "A.class", "B.class"] clashingSession).2.code = 0 := by decide +kernel
  have hlinks : (run ["stub", "--out", "o", "A.class", "B.class"] clashingSession).1.files.nodes.all
      (fun entry => match entry.2 with | .link _ => false | _ => true) = true := by decide +kernel
  have hpaths : (match ((stubInputs ⟨true, []⟩ (some ⟨"o"⟩) [⟨"A.class"⟩, ⟨"B.class"⟩]).run.run
      (clashingSession.startLog {})).1 with
      | .ok report => decide (report.stubs.map StubRecord.written = [some ⟨"o/p/A.java"⟩, some ⟨"o/p/A.java"⟩])
      | .error _ => false) = true := by decide +kernel
  rcases hrun : run ["stub", "--out", "o", "A.class", "B.class"] clashingSession with ⟨finish, ending⟩
  rw [hrun] at hcode hlinks
  have hfree : finish.files.LinkFreeBelow ⟨"o"⟩ := by
    refine FileTree.linkFreeBelow_of_nodes ?_
    rintro ⟨location, node⟩ hentry target rfl
    cases List.all_eq_true.1 hlinks _ hentry
  have hlogs : clashingSession.LogsToNoFile := by
    rintro logger ⟨⟩
  have hfile : ∀ loaded, findSettings none clashingSession = .ok loaded → loaded.settings.logging.file = none := by
    rintro loaded ⟨⟩
    rfl
  obtain ⟨_, made, _, _, report, _, _, hstubRun, _, _, _, hleaves, _⟩ :=
    files_after_run rfl hrun (.inl hcode) hlogs hfile hfree
  cases hstubRun.prepared
  cases hstubRun.selected
  have hstubbed : (stubInputs ⟨true, []⟩ (some ⟨"o"⟩) [⟨"A.class"⟩, ⟨"B.class"⟩]).run.run
      (clashingSession.startLog {}) = (.ok report, made) := hstubRun.stubbed
  rw [hstubbed] at hpaths
  have hwritten := of_decide_eq_true hpaths
  have hsame : (report.stubs.filter fun record => record.written = some ⟨"o/p/A.java"⟩) = report.stubs := by
    refine List.filter_eq_self.2 fun record hrecord => ?_
    have hmem := List.mem_map_of_mem (f := StubRecord.written) hrecord
    rw [hwritten] at hmem
    simpa using hmem
  have hne : report.stubs ≠ [] := by
    intro hempty
    rw [hempty] at hwritten
    cases hwritten
  obtain ⟨last, hlast⟩ := Option.isSome_iff_exists.1 (List.getLast?_isSome.2 hne)
  exact ⟨finish, ending, report, last, rfl, hcode, hwritten, hlast, hleaves.holds _ last (hsame.symm ▸ hlast)⟩

end ClassStub.Command
