import ClassStub.Proofs.Command.OutputFiles
import ClassStub.Proofs.Selection

/-!
# Runs that leave out more

Two runs on the same inputs, of which the second one leaves out more classes. Without a directory to write to, a run
only tells events to the log while the inputs have their turns, so that an input cannot fail but where it is listed. As long as the inputs hold the same when their turns come (`Undisturbed`), the result is then a
function of what they hold and of the selection (`result_stubInputs`), and the selection decides only which of the
classes have a stub and which are left out (`restricts_ofOutcomes`).
-/

namespace ClassStub.Command

/-! ### What the inputs hold -/

/-- The entries that an input holds, with their origins. -/
def foundIn (tree : FileTree) (input : Path) : Except Fatal (List Found) :=
  match (Archive.mk input).list tree with
  | .ok entries => .ok (Listing.mk ⟨input⟩ tree entries).found
  | .error fault => .error (.classes input fault)

/-- Each of the inputs holds the same as in the tree when its turn comes, as it does where no file changes. -/
def Undisturbed (selection : Selection) (tree : FileTree) : List Path → Session → Prop
  | [], _ => True
  | input :: inputs, s =>
    foundIn s.files input = foundIn tree input ∧
      ∀ outcomes t, (stubInput selection none input).run.run s = (.ok outcomes, t) →
        Undisturbed selection tree inputs t

section

variable {selection : Selection} {s t : Session}

/-- With a log that goes to no file, the files are the same when the next turn comes. -/
lemma files_of_stubInput {input : Path} {outcomes : List Outcome}
    (h : (stubInput selection none input).run.run s = (.ok outcomes, t)) (hlogs : s.LogsToNoFile) :
    t.LogsToNoFile ∧ t.files = s.files := by
  have hkept : ∀ (u : Session) (events : List Log.Event), u.LogsToNoFile ∧ u.files = s.files →
      (u.emitAll events).LogsToNoFile ∧ (u.emitAll events).files = s.files := by
    intro u events hu
    obtain ⟨hlogs', hfiles⟩ := hu.1.emitAll events
    exact ⟨hlogs', hfiles.trans hu.2⟩
  rw [stubInput, Run.run_bind_eq_ok_iff] at h
  obtain ⟨tree, s', hfiles, h⟩ := h
  cases hfiles
  obtain ⟨entries, s', hentries, h⟩ := Run.run_bind_eq_ok_iff.1 h
  obtain ⟨-, rfl⟩ := Run.run_orFail_eq_ok_iff.1 hentries
  obtain ⟨_, s', hemit, h⟩ := Run.run_bind_eq_ok_iff.1 h
  cases hemit
  exact (triple_mapM_stubEntry hkept entries).of_run h (hkept s _ ⟨hlogs, rfl⟩)

/-- Without a log file, generating stubs without an output directory leaves its inputs undisturbed. -/
lemma undisturbed_of_logsToNoFile (h : s.LogsToNoFile) (inputs : List Path) :
    Undisturbed selection s.files inputs s := by
  suffices hall : ∀ tree, s.files = tree → Undisturbed selection tree inputs s from hall s.files rfl
  intro tree htree
  induction inputs generalizing s with
  | nil => trivial
  | cons input inputs ih =>
    refine ⟨by rw [htree], ?_⟩
    intro outcomes t hrun
    obtain ⟨hlogs, hfiles⟩ := files_of_stubInput hrun h
    exact ih hlogs (hfiles.trans htree)

end

/-! ### The result of the turns -/

section

variable {selection : Selection} {s : Session}

/-- What becomes of an input depends on what it holds. -/
lemma result_stubInput (selection : Selection) (input : Path) (s : Session) :
    ((stubInput selection none input).run.run s).1 =
      (foundIn s.files input).map (List.map (Found.outcome selection none)) := by
  rcases hrun : (stubInput selection none input).run.run s with ⟨result, t⟩
  cases result with
  | ok outcomes =>
    obtain ⟨entries, hentries, rfl, -⟩ := exists_entries_of_stubInput hrun
    rw [foundIn, hentries]
    rfl
  | error fatal =>
    rw [stubInput] at hrun
    rcases Run.run_bind_eq_error_iff.1 hrun with hrun | ⟨tree, s', hfiles, hrun⟩
    · cases hrun
    cases hfiles
    rcases Run.run_bind_eq_error_iff.1 hrun with hrun | ⟨entries, s', hentries, hrun⟩
    · obtain ⟨fault, hfault, rfl, -⟩ := Run.run_orFail_eq_error_iff.1 hrun
      rw [foundIn, hfault]
      rfl
    · -- Once the input is listed, nothing can end the run.
      rcases Run.run_bind_eq_error_iff.1 hrun with hrun | ⟨_, s', -, hrun⟩
      · cases hrun
      · have hnever : Run.Triple (fun _ => True) (entries.mapM (stubEntry selection none ⟨input⟩)) (fun _ _ => True)
            fun _ _ => False := triple_mapM_stubEntry (fun _ _ _ => trivial) entries
        exact (hnever.of_run_error hrun trivial).elim

/-- A first run that ends with a fatal error ends both. -/
lemma result_bind_of_error {α β : Type} {run : Run β} {next : β → Run α} {fatal : Fatal}
    (h : (run.run.run s).1 = .error fatal) : ((run >>= next).run.run s).1 = .error fatal := by
  rcases hrun : run.run.run s with ⟨result, t⟩
  rw [hrun] at h
  cases h
  rw [Run.run_bind_eq_error_iff.2 (.inl hrun)]

/-- The turns of inputs lead to the outcomes of what they hold, or to the fault of the first one that cannot be
listed. -/
lemma result_mapM_stubInput {tree : FileTree} {inputs : List Path} (h : Undisturbed selection tree inputs s) :
    ((inputs.mapM (stubInput selection none)).run.run s).1 =
      (inputs.mapM (foundIn tree)).map (List.map (List.map (Found.outcome selection none))) := by
  induction inputs generalizing s with
  | nil => rfl
  | cons input inputs ih =>
    have hfirst := result_stubInput selection input s
    rw [h.1] at hfirst
    rw [List.mapM_cons, List.mapM_cons]
    cases hfound : foundIn tree input with
    | error fatal =>
      rw [hfound] at hfirst
      exact result_bind_of_error hfirst
    | ok found =>
      rw [hfound] at hfirst
      rcases hrun : (stubInput selection none input).run.run s with ⟨result, t⟩
      rw [hrun] at hfirst
      cases hfirst
      have hothers := ih (h.2 _ _ hrun)
      rw [run_bind_of_ok hrun]
      cases hheld : inputs.mapM (foundIn tree) with
      | error fatal =>
        rw [hheld] at hothers
        exact result_bind_of_error hothers
      | ok held =>
        rw [hheld] at hothers
        rcases hlast : (inputs.mapM (stubInput selection none)).run.run t with ⟨result, u⟩
        rw [hlast] at hothers
        cases hothers
        rw [run_bind_of_ok hlast]
        rfl

/-- What is reported of undisturbed inputs is what is found in them, input by input. -/
lemma result_stubInputs {tree : FileTree} {inputs : List Path} (h : Undisturbed selection tree inputs s) :
    ((stubInputs selection none inputs).run.run s).1 =
      (inputs.mapM (foundIn tree)).map fun held =>
        Report.ofOutcomes (held.flatten.map (Found.outcome selection none)) := by
  have hturns := result_mapM_stubInput h
  rw [stubInputs]
  cases hheld : inputs.mapM (foundIn tree) with
  | error fatal =>
    rw [hheld] at hturns
    exact result_bind_of_error hturns
  | ok held =>
    rw [hheld] at hturns
    rcases hrun : (inputs.mapM (stubInput selection none)).run.run s with ⟨result, t⟩
    rw [hrun] at hturns
    cases hturns
    rw [run_bind_of_ok hrun, ← List.map_flatten]
    rfl

end

/-! ### Two selections -/

/-- The second result reports some of the stubs of the first one, in the same order, and counts the others as left out.
As many classes have failed. A fatal error is the same. -/
inductive Restricts : Except Fatal Report → Except Fatal Report → Prop where
  | reported {lax strict : Report} :
    strict.stubs.Sublist lax.stubs →
    strict.failed = lax.failed →
    strict.stubs.length + strict.skipped = lax.stubs.length + lax.skipped →
    Restricts (.ok lax) (.ok strict)
  | fatal (fatal : Fatal) : Restricts (.error fatal) (.error fatal)

/-- A function with fewer values has fewer values on a list, in the same order. -/
lemma filterMap_sublist_filterMap {α β : Type} {f g : α → Option β} (h : ∀ x y, g x = some y → f x = some y)
    (xs : List α) : (xs.filterMap g).Sublist (xs.filterMap f) := by
  induction xs with
  | nil => exact .slnil
  | cons x xs ih =>
    cases hg : g x with
    | some y =>
      rw [List.filterMap_cons_some hg, List.filterMap_cons_some (h x y hg)]
      exact ih.cons_cons y
    | none =>
      rw [List.filterMap_cons_none hg]
      cases hf : f x with
      | some y =>
        rw [List.filterMap_cons_some hf]
        exact ih.cons y
      | none => rwa [List.filterMap_cons_none hf]

section

variable {lax strict : Selection} (h : ∀ name, strict.allows name = true → lax.allows name = true)

include h

/-- A class that is selected by the stricter selection has the same record by the other one. -/
lemma Found.record?_of_allows {out : Option Path} {f : Found} {record : StubRecord}
    (hrecord : f.record? strict out = some record) : f.record? lax out = some record := by
  rw [record?, selected?] at hrecord ⊢
  cases hmade : Stub.ofBytes f.bytes with
  | error fault =>
    rw [hmade] at hrecord
    cases hrecord
  | ok made =>
    rw [hmade] at hrecord
    dsimp only at hrecord ⊢
    split at hrecord
    · rename_i hallows
      rwa [if_pos (h _ hallows)]
    · cases hrecord

/-- A stricter selection reports fewer stubs of what was found, and the same failures. -/
lemma restricts_ofOutcomes (found : List Found) :
    Restricts (.ok (Report.ofOutcomes (found.map (Found.outcome lax none))))
      (.ok (Report.ofOutcomes (found.map (Found.outcome strict none)))) := by
  have hlax := Found.length_eq lax none found
  have hstrict := Found.length_eq strict none found
  rw [Report.ofOutcomes_found, Report.ofOutcomes_found]
  refine .reported ?_ rfl ?_
  · exact filterMap_sublist_filterMap (fun f record => Found.record?_of_allows h) found
  · dsimp only
    omega

/-- The selection decides only which of the classes have a stub and which are left out. -/
lemma restricts_stubInputs {tree : FileTree} {inputs : List Path} {s t : Session}
    (hs : Undisturbed lax tree inputs s) (ht : Undisturbed strict tree inputs t) :
    Restricts ((stubInputs lax none inputs).run.run s).1 ((stubInputs strict none inputs).run.run t).1 := by
  rw [result_stubInputs hs, result_stubInputs ht]
  cases inputs.mapM (foundIn tree) with
  | error fatal => exact .fatal fatal
  | ok held => exact restricts_ofOutcomes h held.flatten

end

/-- A run sees of a selection only which names it allows. -/
lemma stubInputs_congr {a b : Selection} (h : a.allows = b.allows) : stubInputs a = stubInputs b := by
  have hentry : stubEntry a = stubEntry b := by
    funext out archive entry
    rw [stubEntry, stubEntry, h]
  have hinput : stubInput a = stubInput b := by
    funext out input
    rw [stubInput, stubInput, hentry]
  funext out inputs
  rw [stubInputs, stubInputs, hinput]

/-! ### The whole run -/

/-- The command line asks for the stubs of inputs, and not for files. Given are its settings for stubs and the session
in which the turns of the inputs start. -/
def ComesToInputs (args : List String) (start : Session) (inputs : List Path) (stubs : StubSettings)
    (ready : Session) : Prop :=
  ∃ config json settings, Invocation.parse args = .ok ⟨config, .stub inputs none json⟩ ∧
    (prepare config).run.run start = (.ok settings, ready) ∧ settings.stubs = stubs

/-- The exit code by the result of the turns. -/
def exitCode : Except Fatal Report → Nat
  | .ok report => report.ending.code
  | .error _ => Ending.fatal.code

/-- Runs of which one restricts the other have the same exit code. -/
lemma Restricts.exitCode_eq {lax strict : Except Fatal Report} (h : Restricts lax strict) :
    exitCode lax = exitCode strict := by
  cases h with
  | reported _ hfailed _ =>
    rw [exitCode, exitCode, Report.code_ending, Report.code_ending, hfailed]
  | fatal fatal => rfl

/-- The result of the turns decides how the whole run ends. -/
lemma ComesToInputs.code_run {args : List String} {start ready : Session} {inputs : List Path} {stubs : StubSettings}
    {selection : Selection} (h : ComesToInputs args start inputs stubs ready)
    (hselection : stubs.selection = .ok selection) :
    (run args start).2.code = exitCode ((stubInputs selection none inputs).run.run ready).1 := by
  obtain ⟨config, json, settings, hparse, hprepared, rfl⟩ := h
  rcases hstubbed : (stubInputs selection none inputs).run.run ready with ⟨result, made⟩
  cases result with
  | ok report =>
    obtain ⟨listings, -, hreport, -⟩ := exists_turns_of_stubInputs hstubbed
    have hprint : report.CanPrint json made := by
      intro _
      rw [hreport, Report.ofOutcomes_found]
      exact isText_of_no_files rfl _
    rw [run_of_stubRun hparse ⟨hprepared, hselection, hstubbed⟩ hprint]
    rfl
  | error fatal =>
    have hselected : (Run.orFail .pattern settings.stubs.selection).run.run ready = (.ok selection, ready) :=
      Run.run_orFail_eq_ok_iff.2 ⟨hselection, rfl⟩
    have hperform : (perform ⟨config, .stub inputs none json⟩).run.run start = (.error fatal, made) := by
      rw [perform, run_bind_of_ok hprepared]
      dsimp only
      rw [stub, run_bind_of_ok hselected]
      exact Run.run_bind_eq_error_iff.2 (.inl hstubbed)
    rw [run, hparse]
    dsimp only
    rw [hperform]
    rfl

/-- Rules for the selection of classes only take stubs away, and the set of the patterns is all that counts. Let two
settings have selections, where the second one has all patterns of the first and includes nested classes only if the
first does, and let inputs hold the same in both runs, without a directory to write to. Then the second run reports some
of the stubs of the first one in the same order, as many classes have failed, and the other stubs are counted as left
out; a fatal error is the same, and so is the exit code of whole runs. Settings with the same patterns in any order and
number do the same in all respects. There is no selection exactly when one of the patterns is none, and then the first
such pattern is reported. -/
theorem selection_only_removes_stubs :
    (∀ (a b : StubSettings) (lax strict : Selection), a.selection = .ok lax → b.selection = .ok strict →
      a.exclude ⊆ b.exclude → (b.includeNested = true → a.includeNested = true) →
      ∀ (inputs : List Path) (tree : FileTree) (s t : Session),
        Undisturbed lax tree inputs s → Undisturbed strict tree inputs t →
        Restricts ((stubInputs lax none inputs).run.run s).1 ((stubInputs strict none inputs).run.run t).1 ∧
        ∀ args args' start start', ComesToInputs args start inputs a s → ComesToInputs args' start' inputs b t →
          (run args start).2.code = (run args' start').2.code) ∧
    (∀ (a b : StubSettings) (selection : Selection), a.selection = .ok selection →
      (∀ pattern, pattern ∈ b.exclude ↔ pattern ∈ a.exclude) → b.includeNested = a.includeNested →
      (∃ selection', b.selection = .ok selection') ∧
      ∀ logging inputs out json, stub ⟨logging, b⟩ inputs out json = stub ⟨logging, a⟩ inputs out json) ∧
    (∀ a : StubSettings,
      ((∃ bad, a.selection = .error bad) ↔ ∃ pattern ∈ a.exclude, ∃ fault, Glob.compile pattern = .error fault) ∧
      ∀ bad, a.selection = .error bad →
        ∃ before after, a.exclude = before ++ bad.pattern :: after ∧
          (∀ pattern ∈ before, ∃ glob, Glob.compile pattern = .ok glob) ∧
          Glob.compile bad.pattern = .error bad.fault) := by
  refine ⟨?_, ?_, ?_⟩
  · intro a b lax strict ha hb hexclude hnested inputs tree s t hs ht
    have hrestricts := restricts_stubInputs (fun name => StubSettings.allows_of_subset ha hb hexclude hnested) hs ht
    refine ⟨hrestricts, ?_⟩
    intro args args' start start' hargs hargs'
    rw [hargs.code_run ha, hargs'.code_run hb]
    exact hrestricts.exitCode_eq
  · intro a b selection ha hexclude hnested
    obtain ⟨selection', hb, hallows⟩ := StubSettings.exists_selection_of_same_patterns ha hexclude hnested
    refine ⟨⟨selection', hb⟩, ?_⟩
    intro logging inputs out json
    rw [stub, stub, ha, hb]
    dsimp only [Run.orFail]
    rw [pure_bind, pure_bind, stubInputs_congr hallows]
  · intro a
    exact ⟨StubSettings.exists_selection_eq_error_iff, fun bad h => StubSettings.selection_eq_error_iff.1 h⟩

/-- A session with a class file, a file that is called so but is no class, and settings in another file. -/
def ruledSession : Session where
  environment := {}
  files := {
    base := []
    nodes := [(["X.class"], .file [1]), (["A.class"], .file plainLayout.encode),
      (["b.toml"], .file (Text.Utf8.encode "[stubs]\nexclude = ['p/*']\n"))] }

/-- The session with rules prepares the run with the patterns in its settings. -/
lemma ruledSession_prepared :
    ∃ ready, (prepare (some ⟨"b.toml"⟩)).run.run ruledSession = (.ok { stubs := { exclude := ["p/*"] } }, ready) ∧
      ready.LogsToNoFile ∧ ready.files = ruledSession.files := by
  have hsettings : (match ((prepare (some ⟨"b.toml"⟩)).run.run ruledSession).1 with
      | .ok settings => decide (settings = { stubs := { exclude := ["p/*"] } })
      | .error _ => false) = true := by decide +kernel
  rcases hprepared : (prepare (some ⟨"b.toml"⟩)).run.run ruledSession with ⟨result, ready⟩
  rw [hprepared] at hsettings
  cases result with
  | error fatal => cases hsettings
  | ok settings =>
    obtain rfl := of_decide_eq_true hsettings
    obtain ⟨loaded, hfound, hloaded, -⟩ := exists_loaded_of_prepare hprepared
    refine ⟨ready, rfl, prepare_of_no_file hprepared nofun ?_⟩
    intro loaded' hfound'
    cases hfound.symm.trans hfound'
    rw [hloaded]

/-- The settings in the file restrict a run that ends with exit code one, and a pattern in them can stand twice. One
that is no pattern is reported. -/
theorem ruledSession_restricted :
    (∃ strict ready, StubSettings.selection { exclude := ["p/*"] } = .ok strict ∧
      Restricts ((stubInputs ⟨true, []⟩ none [⟨"X.class"⟩, ⟨"A.class"⟩]).run.run (ruledSession.startLog {})).1
        ((stubInputs strict none [⟨"X.class"⟩, ⟨"A.class"⟩]).run.run ready).1 ∧
      (run ["--config", "b.toml", "stub", "X.class", "A.class"] ruledSession).2.code = 1) ∧
    (∀ inputs out json, stub ⟨{}, { exclude := ["p/*", "p/*"] }⟩ inputs out json =
      stub ⟨{}, { exclude := ["p/*"] }⟩ inputs out json) ∧
    ∃ bad before after, StubSettings.selection { exclude := ["p/*", "["] } = .error bad ∧
      ["p/*", "["] = before ++ bad.pattern :: after := by
  obtain ⟨hremoves, hsame, hfails⟩ := selection_only_removes_stubs
  have hcompiled : error? (StubSettings.selection { exclude := ["p/*"] }) = none := by decide +kernel
  obtain ⟨strict, hstrict⟩ := error?_eq_none_iff.1 hcompiled
  refine ⟨?_, ?_, ?_⟩
  · obtain ⟨ready, hready, hlogs, hfiles⟩ := ruledSession_prepared
    have hnofile : ruledSession.LogsToNoFile := nofun
    have hstarted : (ruledSession.startLog {}).LogsToNoFile := (hnofile.startLog rfl).1
    obtain ⟨hrestricts, hcodes⟩ := hremoves {} { exclude := ["p/*"] } ⟨true, []⟩ strict rfl hstrict (by simp) id
      [⟨"X.class"⟩, ⟨"A.class"⟩] ruledSession.files (ruledSession.startLog {}) ready
      (undisturbed_of_logsToNoFile hstarted _) (hfiles ▸ undisturbed_of_logsToNoFile hlogs _)
    have hends := hcodes ["stub", "X.class", "A.class"] ["--config", "b.toml", "stub", "X.class", "A.class"]
      ruledSession ruledSession ⟨none, false, {}, rfl, rfl, rfl⟩ ⟨_, _, _, rfl, hready, rfl⟩
    have hcode : (run ["stub", "X.class", "A.class"] ruledSession).2.code = 1 := by decide +kernel
    exact ⟨strict, ready, hstrict, hrestricts, hends.symm.trans hcode⟩
  · exact (hsame { exclude := ["p/*"] } { exclude := ["p/*", "p/*"] } strict hstrict (by simp) rfl).2 {}
  · have hfault : error? (Glob.compile "[") = some .unclosedSet := by decide +kernel
    obtain ⟨bad, hbad⟩ := (hfails { exclude := ["p/*", "["] }).1.2
      ⟨"[", by simp, _, error?_eq_some_iff.1 hfault⟩
    obtain ⟨before, after, hpatterns, -, -⟩ := (hfails { exclude := ["p/*", "["] }).2 bad hbad
    exact ⟨bad, before, after, hbad, hpatterns⟩

end ClassStub.Command
