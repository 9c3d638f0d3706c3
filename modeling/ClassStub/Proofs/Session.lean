import ClassStub.Session
import ClassStub.Proofs.FileTree.Writes

/-!
# What logging leaves alone

Telling an event to the log touches only the file of the log, and prints only when that file is the standard output
(`PrintsLog`). `Follows` says of two sessions one after the other that nothing is gone from the files and that the
surroundings are the same, `Silent` that nothing was printed besides, and `AgreesApartFromLog` that the file of the log
is the only one that may differ; when nothing is logged to a file, the files stay as they are.
-/

namespace ClassStub.Session

/-- No file is logged to. -/
def LogsToNoFile (s : Session) : Prop := ∀ logger ∈ s.logger, logger.file = none

/-- The file that is logged to. -/
def logFile (s : Session) : Option Location := s.logger.bind Log.Logger.file

/-- The file of the log is the standard output. -/
def PrintsLog (s : Session) : Prop := ∃ location ∈ s.outlets, s.logFile = some location

/-- In the second session the surroundings and the file of the log are the same, and nothing is gone from the files. -/
structure Follows (s t : Session) : Prop where
  environment : t.environment = s.environment
  outlets : t.outlets = s.outlets
  logFile : t.logFile = s.logFile
  files : s.files.Keeps t.files

/-- Besides, nothing was printed but the log, if it is. -/
structure Silent (s t : Session) : Prop extends Follows s t where
  stdout : ∃ printed, t.stdout = s.stdout ++ printed ∧ (¬ s.PrintsLog → printed = "")

section

variable {s t u : Session}

/-- A session follows itself. -/
lemma Follows.refl (s : Session) : s.Follows s := ⟨rfl, rfl, rfl, .refl s.files⟩

/-- What follows on a session that follows another one follows that one. -/
lemma Follows.trans (hst : s.Follows t) (htu : t.Follows u) : s.Follows u where
  environment := htu.environment.trans hst.environment
  outlets := htu.outlets.trans hst.outlets
  logFile := htu.logFile.trans hst.logFile
  files := hst.files.trans htu.files

/-- The log stays printed, or not. -/
lemma Follows.printsLog_iff (h : s.Follows t) : t.PrintsLog ↔ s.PrintsLog := by
  rw [PrintsLog, PrintsLog, h.outlets, h.logFile]

/-- Nothing is printed between a session and itself. -/
lemma Silent.refl (s : Session) : s.Silent s := ⟨.refl s, "", String.append_empty.symm, fun _ => rfl⟩

/-- What is silent in two parts is silent as a whole. -/
lemma Silent.trans (hst : s.Silent t) (htu : t.Silent u) : s.Silent u where
  toFollows := hst.toFollows.trans htu.toFollows
  stdout := by
    obtain ⟨first, hfirst, hnone⟩ := hst.stdout
    obtain ⟨second, hsecond, hnone'⟩ := htu.stdout
    refine ⟨first ++ second, by rw [hsecond, hfirst, String.append_assoc], fun h => ?_⟩
    rw [hnone h, hnone' fun h' => h (hst.printsLog_iff.1 h'), String.append_empty]

/-- Without a log that is printed, nothing was printed. -/
lemma Silent.stdout_eq (hst : s.Silent t) (h : ¬ s.PrintsLog) : t.stdout = s.stdout := by
  obtain ⟨printed, hprinted, hnone⟩ := hst.stdout
  rw [hprinted, hnone h, String.append_empty]

end

/-! ### Printing at a place -/

section

variable (s : Session) (location : Location) (text : String)

/-- Printing leaves the files alone. -/
@[simp]
lemma files_printAt : (s.printAt location text).files = s.files := by
  rw [printAt]
  split <;> rfl

/-- Printing leaves the environment alone. -/
@[simp]
lemma environment_printAt : (s.printAt location text).environment = s.environment := by
  rw [printAt]
  split <;> rfl

/-- Printing leaves the outlets alone. -/
@[simp]
lemma outlets_printAt : (s.printAt location text).outlets = s.outlets := by
  rw [printAt]
  split <;> rfl

/-- Printing leaves the log alone. -/
@[simp]
lemma logger_printAt : (s.printAt location text).logger = s.logger := by
  rw [printAt]
  split <;> rfl

/-- What is written to a file is printed if the file is the standard output. -/
lemma stdout_printAt :
    (s.printAt location text).stdout = s.stdout ++ if location ∈ s.outlets then text else "" := by
  rw [printAt]
  split
  · rfl
  · exact String.append_empty.symm

end

/-! ### One record of the log -/

section

variable (s : Session) (logger : Log.Logger) (line : String)

/-- A record leaves the environment alone. -/
@[simp]
lemma environment_record : (s.record logger line).environment = s.environment := by
  rw [record, appendLog.eq_def]
  split <;> split <;> simp [complain]

/-- A record leaves the outlets alone. -/
@[simp]
lemma outlets_record : (s.record logger line).outlets = s.outlets := by
  rw [record, appendLog.eq_def]
  split <;> split <;> simp [complain]

/-- After a record the logger is the one whose buffer has its lines. -/
@[simp]
lemma logger_record : (s.record logger line).logger = some (logger.buffered line) := by
  rw [record, appendLog.eq_def]
  split <;> split <;> simp [complain]

/-- A record is appended to the file of its logger. -/
lemma files_record :
    (s.record logger line).files =
      match logger.file with
      | some location => s.files.append location (Text.Utf8.encode line)
      | none => s.files := by
  rw [record]
  cases logger.file with
  | none =>
    dsimp only [appendLog]
    split <;> rfl
  | some location =>
    dsimp only [appendLog]
    rw [files_printAt]
    split <;> rfl

/-- A record is printed only if the file of its logger is an outlet. -/
lemma exists_stdout_record :
    ∃ printed, (s.record logger line).stdout = s.stdout ++ printed ∧
      ((∀ location ∈ logger.file, location ∉ s.outlets) → printed = "") := by
  rw [record]
  cases hfile : logger.file with
  | none =>
    refine ⟨"", ?_, fun _ => rfl⟩
    dsimp only [appendLog]
    split <;> exact String.append_empty.symm
  | some location =>
    refine ⟨if location ∈ s.outlets then line else "", ?_, fun h => if_neg (h location rfl)⟩
    dsimp only [appendLog]
    rw [stdout_printAt]
    split <;> rfl

end

section

variable {s : Session} {logger : Log.Logger}

/-- The logger of a session has the file that is logged to. -/
lemma logFile_of_logger (hlogger : s.logger = some logger) : s.logFile = logger.file := by
  rw [logFile, hlogger]
  rfl

/-- A record takes nothing away, and it is printed only if the log is. -/
lemma silent_record (hlogger : s.logger = some logger) (line : String) : s.Silent (s.record logger line) := by
  have hlog := logFile_of_logger hlogger
  refine ⟨⟨environment_record .., outlets_record .., ?_, ?_⟩, ?_⟩
  · exact (logFile_of_logger (logger_record s logger line)).trans hlog.symm
  · rw [files_record]
    split
    · exact FileTree.keeps_append _ _
    · exact .refl _
  · obtain ⟨printed, hprinted, hnone⟩ := exists_stdout_record s logger line
    refine ⟨printed, hprinted, fun hprints => hnone fun location hfile houtlet => ?_⟩
    exact hprints ⟨location, houtlet, hlog.trans hfile⟩

end

/-- An event takes nothing away, and it is printed only if the log is. -/
lemma silent_emit (s : Session) (e : Log.Event) : s.Silent (s.emit e) := by
  rw [emit]
  split
  · rename_i logger hlogger
    split
    · exact silent_record hlogger _
    · exact .refl s
  · exact .refl s

/-- Events take nothing away, and they are printed only if the log is. -/
lemma silent_emitAll (s : Session) (es : List Log.Event) : s.Silent (s.emitAll es) := by
  induction es generalizing s with
  | nil => exact .refl s
  | cons e es ih => exact (silent_emit s e).trans (ih (s.emit e))

/-! ### Without a log file -/

/-- A session that logs to no file does not print the log. -/
lemma LogsToNoFile.not_printsLog {s : Session} (h : s.LogsToNoFile) : ¬ s.PrintsLog := by
  rintro ⟨location, -, hlog⟩
  obtain ⟨logger, hlogger, hfile⟩ := Option.bind_eq_some_iff.1 hlog
  cases (h logger hlogger).symm.trans hfile

/-- Without a log file, an event leaves the files alone. -/
lemma LogsToNoFile.emit {s : Session} (h : s.LogsToNoFile) (e : Log.Event) :
    (s.emit e).LogsToNoFile ∧ (s.emit e).files = s.files := by
  rw [Session.emit]
  split
  · rename_i logger hlogger
    have hfile : logger.file = none := h logger hlogger
    split
    · refine ⟨?_, ?_⟩
      · intro logger' hlogger'
        rw [logger_record] at hlogger'
        cases hlogger'
        exact hfile
      · rw [files_record, hfile]
    · exact ⟨h, rfl⟩
  · exact ⟨h, rfl⟩

/-- Without a log file, events leave the files alone. -/
lemma LogsToNoFile.emitAll {s : Session} (h : s.LogsToNoFile) (es : List Log.Event) :
    (s.emitAll es).LogsToNoFile ∧ (s.emitAll es).files = s.files := by
  induction es generalizing s with
  | nil => exact ⟨h, rfl⟩
  | cons e es ih =>
    obtain ⟨hemit, hfiles⟩ := h.emit e
    obtain ⟨hall, hfiles'⟩ := ih hemit
    exact ⟨hall, hfiles'.trans hfiles⟩

/-! ### Setting up the log -/

/-- Setting up the log prints nothing: the only event told on the way is for a log without a file. -/
lemma stdout_startLog (s : Session) (settings : LogSettings) : (s.startLog settings).stdout = s.stdout := by
  rw [startLog]
  split
  · rfl
  · rfl
  · split
    · rfl
    · refine (silent_emit _ _).stdout_eq (LogsToNoFile.not_printsLog ?_)
      rintro logger ⟨⟩
      rfl

/-- Setting up the log leaves the environment and the outlets alone. -/
lemma surroundings_startLog (s : Session) (settings : LogSettings) :
    (s.startLog settings).environment = s.environment ∧ (s.startLog settings).outlets = s.outlets := by
  rw [startLog]
  split
  · exact ⟨rfl, rfl⟩
  · exact ⟨rfl, rfl⟩
  · split
    · exact ⟨rfl, rfl⟩
    · exact ⟨(silent_emit _ _).environment, (silent_emit _ _).outlets⟩

/-- Setting up the log without a file leaves the files alone. -/
lemma LogsToNoFile.startLog {s : Session} {settings : LogSettings} (h : s.LogsToNoFile)
    (hsettings : settings.file = none) :
    (s.startLog settings).LogsToNoFile ∧ (s.startLog settings).files = s.files := by
  rw [Session.startLog, hsettings]
  split
  · exact ⟨h, rfl⟩
  · refine ⟨?_, rfl⟩
    intro logger hlogger
    cases hlogger
    rfl
  · contradiction

/-! ### The file of the log -/

/-- Apart from the file that the second session logs to, all places are as they are in the first one. -/
def AgreesApartFromLog (s t : Session) : Prop :=
  ∀ location, t.logFile ≠ some location → t.files.get? location = s.files.get? location

/-- Agreement goes on from session to session while the log keeps its file. -/
lemma AgreesApartFromLog.trans {s t u : Session} (hst : s.AgreesApartFromLog t) (htu : t.AgreesApartFromLog u)
    (h : u.logFile = t.logFile) : s.AgreesApartFromLog u := by
  intro location hlocation
  rw [htu location hlocation, hst location (h ▸ hlocation)]

/-- A record is appended to the file of the logger and changes nothing else. -/
lemma agreesApartFromLog_record {s : Session} {logger : Log.Logger} (hlogger : s.logger = some logger)
    (line : String) : s.AgreesApartFromLog (s.record logger line) := by
  intro location hlocation
  rw [(silent_record hlogger line).logFile, logFile_of_logger hlogger] at hlocation
  rw [files_record]
  split
  · rename_i place hfile
    have hother : location ≠ place := fun heq => hlocation (by rw [hfile, heq])
    rw [FileTree.append]
    split
    · rename_i old hget
      rw [FileTree.get?_put (FileTree.ne_nil_of_get?_file hget), if_neg hother]
    · rfl
  · rfl

/-- An event changes the file of the log only. -/
lemma agreesApartFromLog_emit (s : Session) (e : Log.Event) : s.AgreesApartFromLog (s.emit e) := by
  rw [emit]
  split
  · rename_i logger hlogger
    split
    · exact agreesApartFromLog_record hlogger (logger.line e)
    · exact fun _ _ => rfl
  · exact fun _ _ => rfl

/-- Telling events to the log changes the file of the log only. -/
lemma agreesApartFromLog_emitAll (s : Session) (es : List Log.Event) : s.AgreesApartFromLog (s.emitAll es) := by
  induction es generalizing s with
  | nil => exact fun _ _ => rfl
  | cons e es ih => exact (agreesApartFromLog_emit s e).trans (ih (s.emit e)) (silent_emitAll _ es).logFile

/-- Setting up the log creates its file at most. -/
lemma agreesApartFromLog_startLog (s : Session) (settings : LogSettings) :
    s.AgreesApartFromLog (s.startLog settings) := by
  rw [startLog]
  split
  · exact fun _ _ => rfl
  · exact fun _ _ => rfl
  · split
    · rename_i place files hopen
      obtain ⟨-, hopen⟩ := FileTree.unlessRefused_eq_ok_iff.1 hopen
      obtain ⟨place', hwritable, hopen⟩ := bind_eq_ok_iff.1 hopen
      intro location hlocation
      have hother : location ≠ place := fun heq => hlocation (by rw [heq]; rfl)
      split at hopen
      · cases hopen
        rfl
      · rename_i hget
        cases hopen
        have hroot : place ≠ [] := by
          rintro rfl
          cases hget
        exact (FileTree.get?_put hroot location).trans (if_neg hother)
    · -- The event finds a logger without a file.
      exact agreesApartFromLog_emit _ _

/-! ### Writing a file -/

/-- Writing a file leaves the surroundings and the log alone, changes the tree as `FileTree.write` does, and prints the
text if the file is the standard output. -/
lemma exists_of_writeFile {s t : Session} {p : Path} {text : String} (h : s.writeFile p text = .ok t) :
    ∃ location, s.files.write p (Text.Utf8.encode text) = .ok (location, t.files) ∧
      t.environment = s.environment ∧ t.outlets = s.outlets ∧ t.logger = s.logger ∧
      t.stdout = s.stdout ++ if location ∈ s.outlets then text else "" := by
  obtain ⟨⟨location, files⟩, hwrite, h⟩ := bind_eq_ok_iff.1 h
  cases h
  refine ⟨location, ?_, environment_printAt .., outlets_printAt .., logger_printAt .., stdout_printAt ..⟩
  rw [files_printAt]
  exact hwrite

/-- Nothing is gone after directories were created. -/
lemma follows_makeDirectories (s : Session) (p : Path) :
    s.Follows { s with files := (s.files.makeDirectories p).2 } :=
  ⟨rfl, rfl, rfl, (FileTree.changed_makeDirectories s.files p).keeps⟩

/-- Nothing is gone after a file was written. -/
lemma follows_of_writeFile {s t : Session} {p : Path} {text : String} (h : s.writeFile p text = .ok t) :
    s.Follows t := by
  obtain ⟨location, hwrite, henvironment, houtlets, hlogger, -⟩ := exists_of_writeFile h
  exact ⟨henvironment, houtlets, by rw [logFile, logFile, hlogger], (FileTree.changed_of_write hwrite).1.keeps⟩

end ClassStub.Session
