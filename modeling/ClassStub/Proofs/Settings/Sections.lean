import ClassStub.Proofs.Results
import ClassStub.Settings.Decode

/-!
# Documents in sections

A document is read entry by entry, and a section name by name. What reading comes to is said here for one name, for a
section and for the document. Names that are no settings are collected: each of them once, in the order of the document,
and with the name of its section in front (`unknown_of_ofEntries`). A value that a setting refuses is an error that
nothing behind it can change (`readSection_of_refuses`).
-/

namespace ClassStub.Settings

/-! ### Sections -/

section

variable {σ : Type} {fields : List (Field σ)}

/-- Reads one name of a section. -/
def readName (fields : List (Field σ)) (state : σ × List String) (entry : String × Toml.Value) :
    Except Misfit (σ × List String) :=
  match fields.find? fun f => f.name == entry.1 with
  | some field => do return (← field.apply entry.2 state.1, state.2)
  | none => return (state.1, state.2 ++ [entry.1])

/-- A section with names is read name by name. -/
lemma readSection_named (fields : List (Field σ)) (start : σ) (entries : Toml.Entries) :
    readSection fields start (.named entries) = entries.foldlM (readName fields) (start, []) := rfl

/-- The names of entries that are none of the known ones. -/
def unknownNames (known : List String) (entries : Toml.Entries) : List String :=
  entries.flatMap fun entry => if entry.1 ∈ known then [] else [entry.1]

/-- A name is unknown if an entry has it and it is none of the known ones. -/
lemma mem_unknownNames_iff {known : List String} {entries : Toml.Entries} {name : String} :
    name ∈ unknownNames known entries ↔ name ∈ entries.map Prod.fst ∧ name ∉ known := by
  rw [unknownNames, List.mem_flatMap, List.mem_map]
  constructor
  · rintro ⟨entry, hentry, hmem⟩
    split at hmem
    · cases hmem
    · rename_i hunknown
      rw [List.mem_singleton] at hmem
      subst hmem
      exact ⟨⟨entry, hentry, rfl⟩, hunknown⟩
  · rintro ⟨⟨entry, hentry, rfl⟩, hunknown⟩
    refine ⟨entry, hentry, ?_⟩
    rw [if_neg hunknown]
    exact List.mem_singleton_self _

/-- Reading a name collects it if it is no setting. -/
lemma unknown_of_readName {state state' : σ × List String} {entry : String × Toml.Value}
    (h : readName fields state entry = .ok state') :
    state'.2 = state.2 ++ if entry.1 ∈ fields.map Field.name then [] else [entry.1] := by
  rw [readName] at h
  cases hfind : fields.find? fun f => f.name == entry.1 with
  | some field =>
    rw [hfind] at h
    obtain ⟨settings, -, hstate⟩ := bind_eq_ok_iff.1 h
    cases hstate
    have hname := List.find?_some hfind
    have hknown : entry.1 ∈ fields.map Field.name :=
      List.mem_map.2 ⟨field, List.mem_of_find?_eq_some hfind, beq_iff_eq.1 hname⟩
    rw [if_pos hknown, List.append_nil]
  | none =>
    rw [hfind] at h
    cases h
    have hunknown : entry.1 ∉ fields.map Field.name := by
      rw [List.mem_map]
      rintro ⟨field, hfield, hname⟩
      exact List.find?_eq_none.1 hfind field hfield (beq_iff_eq.2 hname)
    rw [if_neg hunknown]

/-- A section that can be read gives the names that are no settings. -/
lemma unknown_of_readSection {start : σ} {entries : Toml.Entries} {found : σ × List String}
    (h : readSection fields start (.named entries) = .ok found) :
    found.2 = unknownNames (fields.map Field.name) entries := by
  rw [readSection_named] at h
  have hcollected := foldlM_collects (fun entry _ => unknown_of_readName) h
  rw [hcollected, List.nil_append, unknownNames]

/-- A section is read up to a value that its setting refuses. -/
lemma readSection_of_refuses {field : Field σ} {key : String} {v : Toml.Value} {misfit : Misfit}
    (hfield : (fields.find? fun f => f.name == key) = some field) (happly : ∀ s, field.apply v s = .error misfit)
    (start : σ) (before after : Toml.Entries) :
    readSection fields start (.named (before ++ (key, v) :: after)) =
      readSection fields start (.named before) >>= fun _ => .error misfit := by
  rw [readSection_named, readSection_named, List.foldlM_append]
  refine congrArg _ (funext fun state => ?_)
  have hname : readName fields state (key, v) = .error misfit := by
    rw [readName, hfield]
    exact bind_of_eq_error (happly state.1)
  rw [List.foldlM_cons]
  exact bind_of_eq_error hname

end

/-! ### Documents -/

/-- The names of the settings in a section, if there is such a section. -/
def settingNames? (part : String) : Option (List String) :=
  if part = logSection then some (logFields.map Field.name)
  else if part = stubSection then some (stubFields.map Field.name)
  else none

/-- The entries that a value gives to a section by name: a table its own, a date or time one that stands for itself, and
other values none. -/
def named : Toml.Value → Toml.Entries
  | .table _ entries => entries
  | .datetime => [(datetimeKey, .datetime)]
  | _ => []

/-- The paths of keys in one entry of a document that are no settings. -/
def unknownPaths (entry : String × Toml.Value) : List String :=
  match settingNames? entry.1 with
  | some known => (unknownNames known (named entry.2)).map (pathIn entry.1)
  | none => [entry.1]

section

variable {part : String} {known : List String}

/-- There are two sections. -/
lemma eq_of_settingNames? (h : settingNames? part = some known) : part = logSection ∨ part = stubSection := by
  rw [settingNames?] at h
  split at h
  · exact .inl ‹_›
  · split at h
    · exact .inr ‹_›
    · cases h

/-- What is no section is neither of the two. -/
lemma ne_of_settingNames? (h : settingNames? part = none) : part ≠ logSection ∧ part ≠ stubSection := by
  constructor
  · rintro rfl
    cases h
  · rintro rfl
    cases h

end

/-- Any value that can be read as a section gives the names in it that are no settings. -/
lemma unknown_of_content {σ : Type} {fields : List (Field σ)} {start : σ} {expected : Expected} {v : Toml.Value}
    {values : Content} {found : σ × List String} (hvalues : content expected v = .ok values)
    (h : readSection fields start values = .ok found) :
    found.2 = unknownNames (fields.map Field.name) (named v) := by
  cases v with
  | table _ _ =>
    cases hvalues
    exact unknown_of_readSection h
  | datetime =>
    cases hvalues
    exact unknown_of_readSection h
  | array _ | tables _ =>
    cases hvalues
    obtain ⟨settings, -, hfound⟩ := bind_eq_ok_iff.1 h
    cases hfound
    rfl
  | string _ | integer _ | float _ | boolean _ => cases hvalues

/-- The section of logging is read into the settings of logging. -/
lemma readEntry_logSection (state : Settings × List String) (v : Toml.Value) :
    readEntry state (logSection, v) =
      content .logSection v >>= fun values => readSection logFields state.1.logging values >>= fun found =>
        .ok ({ state.1 with logging := found.1 }, state.2 ++ found.2.map (pathIn logSection)) := rfl

/-- The section of stubs is read into the settings of stubs. -/
lemma readEntry_stubSection (state : Settings × List String) (v : Toml.Value) :
    readEntry state (stubSection, v) =
      content .stubSection v >>= fun values => readSection stubFields state.1.stubs values >>= fun found =>
        .ok ({ state.1 with stubs := found.1 }, state.2 ++ found.2.map (pathIn stubSection)) := rfl

/-- A table of log settings is read name by name. -/
lemma readEntry_logging (state : Settings × List String) (origin : Toml.Origin) (entries : Toml.Entries) :
    readEntry state (logSection, .table origin entries) =
      readSection logFields state.1.logging (.named entries) >>= fun found =>
        .ok ({ state.1 with logging := found.1 }, state.2 ++ found.2.map (pathIn logSection)) := rfl

/-- A table of stub settings is read name by name. -/
lemma readEntry_stubs (state : Settings × List String) (origin : Toml.Origin) (entries : Toml.Entries) :
    readEntry state (stubSection, .table origin entries) =
      readSection stubFields state.1.stubs (.named entries) >>= fun found =>
        .ok ({ state.1 with stubs := found.1 }, state.2 ++ found.2.map (pathIn stubSection)) := rfl

/-- What is no section is collected. -/
lemma readEntry_other {name : String} (hlog : name ≠ logSection) (hstub : name ≠ stubSection)
    (state : Settings × List String) (v : Toml.Value) :
    readEntry state (name, v) = .ok (state.1, state.2 ++ [name]) := by
  rw [readEntry]
  exact (if_neg hlog).trans (if_neg hstub)

/-- Reading one entry of a document collects the paths in it that are no settings. -/
lemma unknown_of_readEntry {state state' : Settings × List String} {entry : String × Toml.Value}
    (h : readEntry state entry = .ok state') : state'.2 = state.2 ++ unknownPaths entry := by
  obtain ⟨name, value⟩ := entry
  rw [unknownPaths]
  dsimp only
  cases hnames : settingNames? name with
  | none =>
    obtain ⟨hlog, hstub⟩ := ne_of_settingNames? hnames
    rw [readEntry_other hlog hstub] at h
    cases h
    rfl
  | some known =>
    rcases eq_of_settingNames? hnames with rfl | rfl
    · cases hnames
      rw [readEntry_logSection] at h
      obtain ⟨values, hvalues, hread⟩ := bind_eq_ok_iff.1 h
      obtain ⟨found, hfound, hstate⟩ := bind_eq_ok_iff.1 hread
      cases hstate
      dsimp only
      rw [unknown_of_content hvalues hfound]
    · cases hnames
      rw [readEntry_stubSection] at h
      obtain ⟨values, hvalues, hread⟩ := bind_eq_ok_iff.1 h
      obtain ⟨found, hfound, hstate⟩ := bind_eq_ok_iff.1 hread
      cases hstate
      dsimp only
      rw [unknown_of_content hvalues hfound]

/-- Of any document that can be read, each key that is no setting is collected once: in the order of the document, by
its path, and nothing below it. -/
lemma unknown_of_ofEntries {entries : Toml.Entries} {found : Settings × List String}
    (h : ofEntries entries = .ok found) : found.2 = entries.flatMap unknownPaths := by
  have hstep : ∀ entry ∈ entries, ∀ {state state' : Settings × List String},
      readEntry state entry = .ok state' → state'.2 = state.2 ++ unknownPaths entry :=
    fun entry _ => unknown_of_readEntry
  have hcollected := foldlM_collects hstep h
  rw [hcollected, List.nil_append]

end ClassStub.Settings
