import ClassStub.Proofs.Command.Runs

/-!
# The parts of a run that makes stubs

A command line that asks for stubs is carried out in three parts: the settings are loaded, the inputs have their turns,
and the report is printed and told to the log. `StubRun` holds what the first two lead to. When they come to their end
and the report can be printed (`Report.CanPrint`), so does the run (`run_of_stubRun`), and a run that ends with an exit
code below two went through all of them (`exists_stubRun`).
-/

namespace ClassStub.Command

/-- The settings were loaded and the inputs had their turns, with the sessions in between. -/
structure StubRun (config : Option Path) (inputs : List Path) (out : Option Path) (start ready made : Session)
    (settings : Settings) (selection : Selection) (report : Report) : Prop where
  prepared : (prepare config).run.run start = (.ok settings, ready)
  selected : settings.stubs.selection = .ok selection
  stubbed : (stubInputs selection out inputs).run.run ready = (.ok report, made)

/-- The settings were found, and the log was set up by them and told about them. -/
lemma exists_loaded_of_prepare {config : Option Path} {start ready : Session} {settings : Settings}
    (h : (prepare config).run.run start = (.ok settings, ready)) :
    ∃ loaded, findSettings config start = .ok loaded ∧ loaded.settings = settings ∧
      ready = (start.startLog loaded.settings.logging).emitAll (settingsEvents loaded) := by
  rw [prepare, Run.run_bind_eq_ok_iff] at h
  obtain ⟨s, s', hget, h⟩ := h
  cases hget
  obtain ⟨loaded, s', hloaded, h⟩ := Run.run_bind_eq_ok_iff.1 h
  obtain ⟨hfound, rfl⟩ := Run.run_orFail_eq_ok_iff.1 hloaded
  cases h
  exact ⟨loaded, hfound, rfl, rfl⟩

/-- The report can be printed: as JSON only when the paths of all files in it are texts. -/
def Report.CanPrint (r : Report) (json : Bool) (s : Session) : Prop :=
  json = true → r.isText s.environment.standIns = true

/-- The session after a report was printed and told to the log. -/
def Report.conclude (r : Report) (out : Option Path) (json : Bool) (s : Session) : Session :=
  (s.print (String.join ((r.lines out json).map (· ++ "\n")))).emitAll [r.event]

section

variable {args : List String} {config : Option Path} {inputs : List Path} {out : Option Path} {json : Bool}
  {start : Session}

/-- After a run that comes to its end the next one goes on. -/
lemma run_bind_of_ok {α β : Type} {run : Run β} {next : β → Run α} {b : β} {s t : Session}
    (h : run.run.run s = (.ok b, t)) : (run >>= next).run.run s = (next b).run.run t := by
  rw [ExceptT.run_bind, StateT.run_bind, h]
  rfl

/-- A report that can be printed is printed. -/
lemma run_print_of_canPrint {report : Report} {s : Session} (h : report.CanPrint json s) :
    (report.print out json).run.run s =
      (.ok (), s.print (String.join ((report.lines out json).map (· ++ "\n")))) := by
  have hshown : (json && !report.isText s.environment.standIns) = false := by
    cases json with
    | false => rfl
    | true => simp [h rfl]
  rw [Report.print, run_bind_of_ok (show (get : Run Session).run.run s = (.ok s, s) from rfl), hshown]
  rfl

/-- A report that cannot be printed ends the run, and nothing of it is printed. -/
lemma run_print_of_not_canPrint {report : Report} {s : Session} (h : ¬ report.CanPrint json s) :
    (report.print out json).run.run s = (.error .json, s) := by
  have hhidden : (json && !report.isText s.environment.standIns) = true := by
    simpa [Report.CanPrint] using h
  rw [Report.print, run_bind_of_ok (show (get : Run Session).run.run s = (.ok s, s) from rfl), hhidden]
  rfl

section

variable {ready made : Session} {settings : Settings} {selection : Selection} {report : Report}

/-- Once the inputs had their turns, the report is left. -/
lemma perform_of_stubRun (h : StubRun config inputs out start ready made settings selection report) :
    (perform ⟨config, .stub inputs out json⟩).run.run start =
      (do
        report.print out json
        Run.emit [report.event]
        return report.ending : Run Ending).run.run made := by
  have hselected : (Run.orFail .pattern settings.stubs.selection).run.run ready = (.ok selection, ready) :=
    Run.run_orFail_eq_ok_iff.2 ⟨h.selected, rfl⟩
  rw [perform, run_bind_of_ok h.prepared]
  dsimp only
  rw [stub, run_bind_of_ok hselected, run_bind_of_ok h.stubbed]

/-- With its parts the whole run comes to its end. -/
lemma run_of_stubRun (hparse : Invocation.parse args = .ok ⟨config, .stub inputs out json⟩)
    (h : StubRun config inputs out start ready made settings selection report) (hprint : report.CanPrint json made) :
    run args start = (report.conclude out json made, report.ending) := by
  rw [run, hparse]
  dsimp only
  rw [perform_of_stubRun h, run_bind_of_ok (run_print_of_canPrint hprint)]
  rfl

/-- When the report cannot be printed, the run ends as it is, with a fatal error. -/
lemma run_of_not_canPrint (hparse : Invocation.parse args = .ok ⟨config, .stub inputs out json⟩)
    (h : StubRun config inputs out start ready made settings selection report) (hprint : ¬ report.CanPrint json made) :
    run args start = (made.complain (Fatal.json.message ++ "\n"), .fatal) := by
  have hended : (perform ⟨config, .stub inputs out json⟩).run.run start = (.error .json, made) := by
    rw [perform_of_stubRun h]
    exact Run.run_bind_eq_error_iff.2 (.inl (run_print_of_not_canPrint hprint))
  rw [run, hparse]
  dsimp only
  rw [hended]

end

/-- A task of making stubs that comes to its end went through its parts. -/
lemma exists_stubRun_of_perform {finish : Session} {ending : Ending}
    (hperform : (perform ⟨config, .stub inputs out json⟩).run.run start = (.ok ending, finish)) :
    ∃ ready made settings selection report,
      StubRun config inputs out start ready made settings selection report ∧ report.CanPrint json made ∧
        finish = report.conclude out json made ∧ ending = report.ending := by
  rw [perform, Run.run_bind_eq_ok_iff] at hperform
  obtain ⟨settings, ready, hprepared, hstub⟩ := hperform
  dsimp only at hstub
  rw [stub, Run.run_bind_eq_ok_iff] at hstub
  obtain ⟨selection, ready', hselection, hstub⟩ := hstub
  obtain ⟨hselected, rfl⟩ := Run.run_orFail_eq_ok_iff.1 hselection
  obtain ⟨report, made, hstubbed, hstub⟩ := Run.run_bind_eq_ok_iff.1 hstub
  refine ⟨ready, made, settings, selection, report, ⟨hprepared, hselected, hstubbed⟩, ?_⟩
  by_cases hprint : report.CanPrint json made
  · rw [run_bind_of_ok (run_print_of_canPrint hprint)] at hstub
    cases hstub
    exact ⟨hprint, rfl, rfl⟩
  · rw [Run.run_bind_eq_error_iff.2 (.inl (run_print_of_not_canPrint hprint))] at hstub
    cases hstub

/-- A run that comes to its end went through its parts. -/
lemma exists_stubRun {finish : Session} {ending : Ending}
    (hparse : Invocation.parse args = .ok ⟨config, .stub inputs out json⟩)
    (hrun : run args start = (finish, ending)) (hending : ending.code < 2) :
    ∃ ready made settings selection report,
      StubRun config inputs out start ready made settings selection report ∧
        finish = report.conclude out json made ∧ ending = report.ending := by
  rw [run, hparse] at hrun
  dsimp only at hrun
  rcases hperform : (perform ⟨config, .stub inputs out json⟩).run.run start with ⟨result, last⟩
  rw [hperform] at hrun
  cases result with
  | error fatal =>
    cases hrun
    exact absurd hending (by decide)
  | ok ending' =>
    cases hrun
    obtain ⟨ready, made, settings, selection, report, hstubRun, -, hfinish, hending'⟩ :=
      exists_stubRun_of_perform hperform
    exact ⟨ready, made, settings, selection, report, hstubRun, hfinish, hending'⟩

end

end ClassStub.Command
