import ClassStub.Settings.Basic
import ClassStub.Proofs.Results

/-!
# Selections by patterns

The patterns of a selection are compiled one after the other, so that the first one that is no pattern is reported
(`StubSettings.selection_eq_error_iff`). A selection that could be compiled holds a glob for each of its patterns and no
other (`StubSettings.mem_excluded_iff`). Two facts about a set of patterns carry all the rest: it matches a name exactly
if one of its patterns does (`Selection.excludes_iff`), and it can be made of any patterns that can be compiled one by
one (`StubSettings.exists_selection_iff`). So more patterns let fewer classes through, and so does leaving out nested
classes (`Selection.allows_of_allows`); the order of patterns and their number play no part.
-/

namespace ClassStub

namespace Selection

variable {pattern : String}

/-- A pattern is compiled to its glob. -/
lemma compilePattern_eq_ok_iff {glob : Glob} : compilePattern pattern = .ok glob ↔ Glob.compile pattern = .ok glob := by
  rw [compilePattern]
  cases Glob.compile pattern with
  | ok found => simp only [Except.ok.injEq]
  | error fault => exact ⟨nofun, nofun⟩

/-- A pattern that cannot be compiled is reported with its text. -/
lemma compilePattern_eq_error_iff {bad : BadPattern} :
    compilePattern pattern = .error bad ↔ Glob.compile pattern = .error bad.fault ∧ pattern = bad.pattern := by
  rw [compilePattern]
  cases Glob.compile pattern with
  | ok found => exact ⟨nofun, fun h => nomatch h.1⟩
  | error fault =>
    constructor
    · intro h
      cases h
      exact ⟨rfl, rfl⟩
    · intro ⟨hfault, hpattern⟩
      cases hfault
      rw [hpattern]

section

variable {s : Selection} {name : String}

/-- A set of patterns matches a name exactly if one of the patterns does. -/
lemma excludes_iff : s.excludes name = true ↔ ∃ glob ∈ s.excluded, glob.accepts name = true := by
  rw [excludes, List.any_eq_true]

/-- A class is let through if no pattern matches its name, and it is not nested where nested classes are left out. -/
lemma allows_iff :
    s.allows name = true ↔ (isNested name = true → s.includeNested = true) ∧ ¬ s.excludes name = true := by
  rw [allows]
  cases s.includeNested <;> cases isNested name <;> simp

end

/-- A selection with fewer globs, which leaves out nested classes only if the other one does, lets more through. -/
lemma allows_of_allows {lax strict : Selection} (hexcluded : lax.excluded ⊆ strict.excluded)
    (hnested : strict.includeNested = true → lax.includeNested = true) {name : String}
    (h : strict.allows name = true) : lax.allows name = true := by
  obtain ⟨hkept, hunmatched⟩ := allows_iff.1 h
  refine allows_iff.2 ⟨fun hname => hnested (hkept hname), ?_⟩
  intro hexcludes
  obtain ⟨glob, hglob, haccepts⟩ := excludes_iff.1 hexcludes
  exact hunmatched (excludes_iff.2 ⟨glob, hexcluded hglob, haccepts⟩)

end Selection

namespace StubSettings

variable {s : StubSettings} {selection : Selection}

/-- A selection that could be compiled is made of the globs of its patterns. -/
lemma exists_globs_of_selection (h : s.selection = .ok selection) :
    ∃ globs, s.exclude.mapM Selection.compilePattern = .ok globs ∧ selection = ⟨s.includeNested, globs⟩ := by
  obtain ⟨globs, hglobs, hselection⟩ := bind_eq_ok_iff.1 h
  exact ⟨globs, hglobs, (Except.ok.inj hselection).symm⟩

/-- Compiling keeps whether nested classes are left out. -/
lemma includeNested_of_selection (h : s.selection = .ok selection) : selection.includeNested = s.includeNested := by
  obtain ⟨globs, -, rfl⟩ := exists_globs_of_selection h
  rfl

/-- The globs of a selection are those of its patterns. -/
lemma mem_excluded_iff (h : s.selection = .ok selection) {glob : Glob} :
    glob ∈ selection.excluded ↔ ∃ pattern ∈ s.exclude, Glob.compile pattern = .ok glob := by
  obtain ⟨globs, hglobs, rfl⟩ := exists_globs_of_selection h
  simp only [mem_iff_of_mapM hglobs, Selection.compilePattern_eq_ok_iff]

/-- A selection can be compiled exactly when each of its patterns can. -/
lemma exists_selection_iff :
    (∃ selection, s.selection = .ok selection) ↔ ∀ pattern ∈ s.exclude, ∃ glob, Glob.compile pattern = .ok glob := by
  simp only [← Selection.compilePattern_eq_ok_iff, ← exists_mapM_eq_ok_iff]
  constructor
  · intro ⟨selection, h⟩
    obtain ⟨globs, hglobs, -⟩ := exists_globs_of_selection h
    exact ⟨globs, hglobs⟩
  · intro ⟨globs, hglobs⟩
    exact ⟨_, bind_eq_ok_iff.2 ⟨globs, hglobs, rfl⟩⟩

/-- Otherwise the first pattern that cannot be compiled is reported, with its fault. -/
lemma selection_eq_error_iff {bad : BadPattern} :
    s.selection = .error bad ↔
      ∃ before after, s.exclude = before ++ bad.pattern :: after ∧
        (∀ pattern ∈ before, ∃ glob, Glob.compile pattern = .ok glob) ∧
        Glob.compile bad.pattern = .error bad.fault := by
  rw [← error?_eq_some_iff, selection, Selection.ofPatterns, error?_bind_pure, error?_eq_some_iff, mapM_eq_error_iff]
  simp only [Selection.compilePattern_eq_ok_iff, Selection.compilePattern_eq_error_iff]
  constructor
  · intro ⟨before, pattern, after, hpatterns, ⟨hfault, hpattern⟩, hbefore⟩
    subst hpattern
    exact ⟨before, after, hpatterns, hbefore, hfault⟩
  · intro ⟨before, after, hpatterns, hbefore, hfault⟩
    exact ⟨before, bad.pattern, after, hpatterns, ⟨hfault, rfl⟩, hbefore⟩

/-- A selection cannot be compiled exactly when one of its patterns cannot. -/
lemma exists_selection_eq_error_iff :
    (∃ bad, s.selection = .error bad) ↔ ∃ pattern ∈ s.exclude, ∃ fault, Glob.compile pattern = .error fault := by
  constructor
  · intro ⟨bad, h⟩
    obtain ⟨before, after, hpatterns, -, hfault⟩ := selection_eq_error_iff.1 h
    refine ⟨bad.pattern, ?_, bad.fault, hfault⟩
    simp [hpatterns]
  · intro ⟨pattern, hpattern, fault, hfault⟩
    cases hselection : s.selection with
    | error bad => exact ⟨bad, rfl⟩
    | ok selection =>
      obtain ⟨glob, hglob⟩ := exists_selection_iff.1 ⟨selection, hselection⟩ pattern hpattern
      cases hfault.symm.trans hglob

section

variable {a b : StubSettings} {lax strict : Selection}

/-- Settings with more patterns, or without nested classes, let no class through that others leave out. -/
lemma allows_of_subset (ha : a.selection = .ok lax) (hb : b.selection = .ok strict) (hexclude : a.exclude ⊆ b.exclude)
    (hnested : b.includeNested = true → a.includeNested = true) {name : String} (h : strict.allows name = true) :
    lax.allows name = true := by
  refine Selection.allows_of_allows ?_ ?_ h
  · intro glob hglob
    obtain ⟨pattern, hpattern, hcompile⟩ := (mem_excluded_iff ha).1 hglob
    exact (mem_excluded_iff hb).2 ⟨pattern, hexclude hpattern, hcompile⟩
  · rwa [includeNested_of_selection ha, includeNested_of_selection hb]

/-- The order of patterns and their number have no influence. -/
lemma exists_selection_of_same_patterns (ha : a.selection = .ok lax)
    (hexclude : ∀ pattern, pattern ∈ b.exclude ↔ pattern ∈ a.exclude) (hnested : b.includeNested = a.includeNested) :
    ∃ strict, b.selection = .ok strict ∧ strict.allows = lax.allows := by
  have hpatterns : ∀ pattern ∈ b.exclude, ∃ glob, Glob.compile pattern = .ok glob := by
    intro pattern hpattern
    exact exists_selection_iff.1 ⟨lax, ha⟩ pattern ((hexclude pattern).1 hpattern)
  obtain ⟨strict, hb⟩ := exists_selection_iff.2 hpatterns
  refine ⟨strict, hb, funext fun name => Bool.eq_iff_iff.2 ⟨?_, ?_⟩⟩
  · exact allows_of_subset ha hb (fun pattern hpattern => (hexclude pattern).2 hpattern) (by rw [hnested]; exact id)
  · exact allows_of_subset hb ha (fun pattern hpattern => (hexclude pattern).1 hpattern) (by rw [hnested]; exact id)

end

end StubSettings

end ClassStub
