import Mathlib
import ClassStub.Settings.Load

/-!
# Where log directives come from

Directives come from the level that is set and from the environment. Of reading a filter only one thing is used: a text
is a filter exactly when each of its parts between commas is a directive, and the filter has these directives in order
(`Filter.parse?_eq_some_iff`). So two texts with a comma between them are a filter exactly when each of them is one
(`Filter.isFilter_join`), and the directives of the first are then followed by those of the second
(`Filter.ofText_join`). A source that is no filter therefore takes nothing away from the other one.
-/

namespace ClassStub

/-- A whole list has values exactly when each of its elements has one, and then has just these. -/
lemma mapM_eq_some_iff {α β : Type} {f : α → Option β} {xs : List α} {ys : List β} :
    xs.mapM f = some ys ↔ (∀ x ∈ xs, ∃ y, f x = some y) ∧ xs.filterMap f = ys := by
  induction xs generalizing ys with
  | nil => simp
  | cons x xs ih =>
    rw [List.mapM_cons, List.forall_mem_cons, List.filterMap_cons]
    cases hx : f x with
    | none => simp
    | some y =>
      constructor
      · intro h
        obtain ⟨_, hfirst, hrest⟩ := Option.bind_eq_some_iff.1 h
        obtain ⟨others, hothers, hys⟩ := Option.bind_eq_some_iff.1 hrest
        obtain rfl := Option.some.inj hfirst
        obtain ⟨hvalues, rfl⟩ := ih.1 hothers
        exact ⟨⟨⟨y, rfl⟩, hvalues⟩, Option.some.inj hys⟩
      · rintro ⟨⟨-, hvalues⟩, rfl⟩
        rw [ih.2 ⟨hvalues, rfl⟩]
        rfl

namespace Log.Filter

/-- The parts of a text between its commas, without empty ones. -/
def parts (text : String) : List (List Char) := (text.toList.splitOn ',').filter (· ≠ [])

/-- Every part of the text is a directive. -/
def IsFilter (text : String) : Prop := ∀ part ∈ parts text, ∃ d, Directive.parse? part = some d

/-- The filter of the directives in a text. -/
def ofText (text : String) : Filter := ⟨(parts text).filterMap Directive.parse?⟩

/-- The filter with the directives of another one behind its own. -/
def followedBy (f g : Filter) : Filter := ⟨f.directives ++ g.directives⟩

/-- A text is read as a filter exactly when each of its parts that is not empty is a directive; the filter then has
these directives in order. -/
lemma parse?_eq_some_iff {text : String} {f : Filter} : parse? text = some f ↔ IsFilter text ∧ ofText text = f := by
  show ((parts text).mapM Directive.parse? >>= fun directives => some ⟨directives⟩) = some f ↔ _
  constructor
  · intro h
    obtain ⟨directives, hdirectives, hf⟩ := Option.bind_eq_some_iff.1 h
    obtain ⟨hfilter, hread⟩ := mapM_eq_some_iff.1 hdirectives
    refine ⟨hfilter, ?_⟩
    rw [ofText, hread, Option.some.inj hf]
  · rintro ⟨hfilter, rfl⟩
    exact Option.bind_eq_some_iff.2 ⟨_, mapM_eq_some_iff.2 ⟨hfilter, rfl⟩, rfl⟩

/-- A text of directives is read as their filter. -/
lemma parse?_of_isFilter {text : String} (h : IsFilter text) : parse? text = some (ofText text) :=
  parse?_eq_some_iff.2 ⟨h, rfl⟩

/-- A text with a part that is no directive is no filter. -/
lemma parse?_of_not_isFilter {text : String} (h : ¬ IsFilter text) : parse? text = none :=
  Option.eq_none_iff_forall_ne_some.2 fun _ hf => h (parse?_eq_some_iff.1 hf).1

/-- The parts of two texts with a comma between them are those of the first and those of the second. -/
lemma parts_join (a b : String) : parts (a ++ "," ++ b) = parts a ++ parts b := by
  have hchars : (a ++ "," ++ b).toList = a.toList ++ ',' :: b.toList := by simp
  rw [parts, hchars, List.splitOn_append_cons_self, List.filter_append]
  rfl

/-- Two texts with a comma between them are a filter exactly when each of them is one. -/
lemma isFilter_join (a b : String) : IsFilter (a ++ "," ++ b) ↔ IsFilter a ∧ IsFilter b := by
  simp only [IsFilter, parts_join, List.forall_mem_append]

/-- The directives of the second text stand behind those of the first. -/
lemma ofText_join (a b : String) : ofText (a ++ "," ++ b) = (ofText a).followedBy (ofText b) := by
  rw [ofText, parts_join, List.filterMap_append]
  rfl

end Log.Filter

open Log

namespace LogSettings

/-- A text without the blanks around it. -/
def trimmed (text : String) : String := String.ofList (Text.trim text.toList)

section

variable {s : LogSettings} {d : String}

/-- The level has a filter of its own exactly when its usual form is one. -/
lemma levelFilter?_isSome_iff : s.levelFilter?.isSome = true ↔ Filter.IsFilter (normalLevel s.level) := by
  rw [levelFilter?]
  by_cases h : Filter.IsFilter (normalLevel s.level)
  · simp [Filter.parse?_of_isFilter h, h]
  · simp [Filter.parse?_of_not_isFilter h, h]

/-- A level that is a filter is used. -/
lemma levelFilter_of_isFilter (h : Filter.IsFilter (normalLevel s.level)) :
    s.levelFilter = Filter.ofText (normalLevel s.level) := by
  rw [levelFilter, levelFilter?, Filter.parse?_of_isFilter h]
  rfl

/-- For a level that is no filter, events up to `info` pass. -/
lemma levelFilter_of_not_isFilter (h : ¬ Filter.IsFilter (normalLevel s.level)) :
    s.levelFilter = Filter.upTo .info := by
  rw [levelFilter, levelFilter?, Filter.parse?_of_not_isFilter h]
  rfl

/-- Blank directives from the environment do not count. -/
lemma filter_of_blank (h : trimmed d = "") : s.filter (some d) = s.levelFilter := by
  have hnone : override? (some d) = none := by
    rw [trimmed] at h
    rw [override?, Option.map_some, h]
    rfl
  rw [filter, hnone]

/-- Directives from the environment that are not blank are tried behind the level, and then alone. -/
lemma filter_of_not_blank (h : trimmed d ≠ "") :
    s.filter (some d) = (Filter.parse? (normalLevel s.level ++ "," ++ trimmed d)).getD
      ((Filter.parse? (trimmed d)).getD s.levelFilter) := by
  have hsome : override? (some d) = some (trimmed d) := by
    rw [override?, Option.map_some, ← trimmed, Option.filter_some, if_pos (decide_eq_true h)]
  rw [filter, hsome]
  dsimp only
  cases Filter.parse? (normalLevel s.level ++ "," ++ trimmed d) with
  | none => rw [Option.getD_none]
  | some both => rw [Option.getD_some]

/-- Directives from the environment that are no filter do not count. -/
lemma filter_of_not_isFilter (hne : trimmed d ≠ "") (h : ¬ Filter.IsFilter (trimmed d)) :
    s.filter (some d) = s.levelFilter := by
  have hboth : ¬ Filter.IsFilter (normalLevel s.level ++ "," ++ trimmed d) := by
    intro hboth
    exact h ((Filter.isFilter_join _ _).1 hboth).2
  rw [filter_of_not_blank hne, Filter.parse?_of_not_isFilter hboth, Filter.parse?_of_not_isFilter h,
    Option.getD_none, Option.getD_none]

/-- Next to a level that is no filter, directives from the environment stand alone. -/
lemma filter_of_bad_level (hne : trimmed d ≠ "") (h : Filter.IsFilter (trimmed d))
    (hlevel : ¬ Filter.IsFilter (normalLevel s.level)) : s.filter (some d) = Filter.ofText (trimmed d) := by
  have hboth : ¬ Filter.IsFilter (normalLevel s.level ++ "," ++ trimmed d) := by
    intro hboth
    exact hlevel ((Filter.isFilter_join _ _).1 hboth).1
  rw [filter_of_not_blank hne, Filter.parse?_of_not_isFilter hboth, Filter.parse?_of_isFilter h, Option.getD_none,
    Option.getD_some]

/-- Otherwise they stand behind those of the level. -/
lemma filter_of_both (hne : trimmed d ≠ "") (h : Filter.IsFilter (trimmed d))
    (hlevel : Filter.IsFilter (normalLevel s.level)) :
    s.filter (some d) = (Filter.ofText (normalLevel s.level)).followedBy (Filter.ofText (trimmed d)) := by
  rw [filter_of_not_blank hne, Filter.parse?_of_isFilter ((Filter.isFilter_join _ _).2 ⟨hlevel, h⟩),
    Option.getD_some, Filter.ofText_join]

/-- The environment is like none when its directives are blank or no filter. -/
lemma filter_of_no_override {environment : Option String}
    (h : ∀ d ∈ environment, trimmed d = "" ∨ ¬ Filter.IsFilter (trimmed d)) :
    s.filter environment = s.levelFilter := by
  cases environment with
  | none => rfl
  | some d =>
    by_cases hblank : trimmed d = ""
    · exact filter_of_blank hblank
    · have hbad : ¬ Filter.IsFilter (trimmed d) := (h d (Option.mem_some_self d)).resolve_left hblank
      exact filter_of_not_isFilter hblank hbad

end

/-- The warnings that come with settings are about their level. -/
lemma warnings_of_ofText {text : String} {settings : Settings} {diagnostics : Settings.Diagnostics}
    (h : Settings.ofText text = .ok (settings, diagnostics)) : diagnostics.warnings = Settings.warnings settings := by
  rw [Settings.ofText] at h
  split at h
  · cases h
  · split at h
    · cases h
    · obtain ⟨hsettings, hdiagnostics⟩ := Prod.mk.inj (Except.ok.inj h)
      rw [← hdiagnostics, ← hsettings]

/-- A source of log directives that is no filter leaves the other one in force. Let the level be in its usual form and
the directives from the environment without the blanks around them. When there are none in the environment, or they are
empty or no filter, the filter is that of the level, or lets events up to `info` through where the level is no filter;
this is the filter without an environment. Next to a level that is no filter, a filter from the environment stands
alone, and next to one that is a filter its directives stand behind those of the level. Settings that are loaded come
with a warning about their level exactly when it is no filter, so that events up to `info` pass without an
environment. -/
theorem filter_of_sources :
    (∀ (s : LogSettings) (environment : Option String),
      ((∀ d ∈ environment, trimmed d = "" ∨ ¬ Filter.IsFilter (trimmed d)) →
        s.filter environment = s.filter none ∧
        (Filter.IsFilter (normalLevel s.level) → s.filter environment = Filter.ofText (normalLevel s.level)) ∧
        (¬ Filter.IsFilter (normalLevel s.level) → s.filter environment = Filter.upTo .info)) ∧
      (∀ d ∈ environment, trimmed d ≠ "" → Filter.IsFilter (trimmed d) →
        (¬ Filter.IsFilter (normalLevel s.level) → s.filter environment = Filter.ofText (trimmed d)) ∧
        (Filter.IsFilter (normalLevel s.level) →
          s.filter environment = (Filter.ofText (normalLevel s.level)).followedBy (Filter.ofText (trimmed d))))) ∧
    (∀ text settings diagnostics, Settings.ofText text = .ok (settings, diagnostics) →
      (Settings.Warning.badLevel settings.logging.level ∈ diagnostics.warnings ↔
        ¬ Filter.IsFilter (normalLevel settings.logging.level))) := by
  refine ⟨?_, ?_⟩
  · intro s environment
    refine ⟨?_, ?_⟩
    · intro hno
      have hfilter : s.filter environment = s.levelFilter := filter_of_no_override hno
      refine ⟨hfilter, ?_, ?_⟩
      · intro hlevel
        rw [hfilter, levelFilter_of_isFilter hlevel]
      · intro hlevel
        rw [hfilter, levelFilter_of_not_isFilter hlevel]
    · intro d hd hne h
      obtain rfl := Option.mem_def.1 hd
      exact ⟨filter_of_bad_level hne h, filter_of_both hne h⟩
  · intro text settings diagnostics h
    rw [warnings_of_ofText h, Settings.warnings, ← levelFilter?_isSome_iff]
    split
    · rename_i hsome
      simp [hsome]
    · rename_i hnone
      simp [hnone]

/-- A level that names no target is no filter, and a level from the environment stands in for it. -/
theorem bad_level_replaced :
    ∃ settings diagnostics, Settings.ofText "[logging]\nlevel = '=x'\n" = .ok (settings, diagnostics) ∧
      Settings.Warning.badLevel "=x" ∈ diagnostics.warnings ∧
      settings.logging.filter none = Filter.upTo .info ∧
      settings.logging.filter (some " debug ") = Filter.ofText "debug" := by
  have hparse : Toml.parse? "[logging]\nlevel = '=x'\n" =
      some [("logging", .table .header [("level", .string "=x")])] := by cbv
  have hfound : Settings.ofEntries [("logging", .table .header [("level", .string "=x")])] =
      .ok ({ logging := { level := "=x" } }, []) := by cbv
  have hload : Settings.ofText "[logging]\nlevel = '=x'\n" =
      .ok ({ logging := { level := "=x" } },
        ⟨Settings.sortedOnce ([].map Settings.reportedKey), Settings.warnings { logging := { level := "=x" } }⟩) := by
    rw [Settings.ofText, hparse]
    dsimp only
    rw [hfound]
  have hlevel : ¬ Filter.IsFilter (normalLevel "=x") := by
    have hnormal : normalLevel "=x" = "=x" := by cbv
    have hparts : Filter.parts "=x" = [['=', 'x']] := by cbv
    have hnone : Directive.parse? ['=', 'x'] = none := by cbv
    rw [hnormal, Filter.IsFilter, hparts]
    simp [hnone]
  have htrim : trimmed " debug " = "debug" := rfl
  have hdebug : Filter.IsFilter "debug" := by
    have hparts : Filter.parts "debug" = ["debug".toList] := rfl
    have hsome : Directive.parse? "debug".toList = some (Directive.general (some .debug)) := rfl
    rw [Filter.IsFilter, hparts]
    simpa using ⟨_, hsome⟩
  have hsources := filter_of_sources.1 { level := "=x" }
  refine ⟨_, _, hload, (filter_of_sources.2 _ _ _ hload).2 hlevel, ?_, ?_⟩
  · exact ((hsources none).1 (by simp)).2.2 hlevel
  · have hfilter := ((hsources (some " debug ")).2 _ rfl (by rw [htrim]; decide) (by rwa [htrim])).1 hlevel
    rwa [htrim] at hfilter

end LogSettings

end ClassStub
