import Mathlib
import ClassStub.Proofs.Settings.Sections
import ClassStub.Proofs.Text.ByteOrder
import ClassStub.Proofs.Text.Joining
import ClassStub.Settings.Load

/-!
# Which keys are reported

When settings are loaded from a document, the keys that are no settings are reported by their paths, in order and each
once. The path of a key in a section is written as a text first and cut at its dots again, and there a key that looks
like an index is taken for one: it is reported in brackets instead of behind a dot.
-/

namespace ClassStub.Settings

/-! ### Texts in order, each once -/

/-- Behind the latest text, what is left of texts without those that repeat the one before. -/
lemma exists_eraseRepsBy_loop (latest : String) (texts acc : List String) :
    ∃ kept, List.eraseRepsBy.loop (· == ·) latest texts acc = acc.reverse ++ latest :: kept ∧
      (∀ text, text ∈ latest :: kept ↔ text ∈ latest :: texts) ∧
      ((latest :: texts).Pairwise (· ≤ ·) → (latest :: kept).Pairwise (· < ·)) := by
  induction texts generalizing latest acc with
  | nil =>
    refine ⟨[], ?_, fun text => Iff.rfl, fun _ => List.pairwise_singleton _ _⟩
    rw [List.eraseRepsBy.loop, List.reverse_cons]
  | cons next texts ih =>
    rw [List.eraseRepsBy.loop]
    cases hsame : latest == next with
    | true =>
      obtain rfl := beq_iff_eq.1 hsame
      obtain ⟨kept, hloop, hmem, hsorted⟩ := ih latest acc
      refine ⟨kept, hloop, ?_, fun h => hsorted h.tail⟩
      intro text
      rw [hmem]
      simp only [List.mem_cons, or_self_left]
    | false =>
      have hne : latest ≠ next := beq_eq_false_iff_ne.1 hsame
      obtain ⟨kept, hloop, hmem, hsorted⟩ := ih next (latest :: acc)
      refine ⟨next :: kept, ?_, ?_, ?_⟩
      · rw [hloop, List.reverse_cons, List.append_assoc, List.singleton_append]
      · intro text
        rw [List.mem_cons, hmem, ← List.mem_cons]
      · intro h
        obtain ⟨hlatest, hrest⟩ := List.pairwise_cons.1 h
        have hnext : latest ≤ next := hlatest next List.mem_cons_self
        refine List.pairwise_cons.2 ⟨?_, hsorted hrest⟩
        intro text htext
        rcases List.mem_cons.1 ((hmem text).1 htext) with rfl | htext
        · exact Text.lt_of_le_of_ne hnext hne
        · have hle : next ≤ text := (List.pairwise_cons.1 hrest).1 text htext
          refine Text.lt_of_le_of_ne (String.le_trans hnext hle) ?_
          rintro rfl
          exact hne (String.le_antisymm hnext hle)

/-- The texts are the same, in strict order. -/
lemma sortedOnce_spec (texts : List String) :
    (∀ text, text ∈ sortedOnce texts ↔ text ∈ texts) ∧ (sortedOnce texts).Pairwise (· < ·) := by
  have hperm := List.mergeSort_perm texts fun a b => decide (a ≤ b)
  have hsorted := Text.pairwise_mergeSort id texts
  rw [sortedOnce, List.eraseReps]
  simp only [id] at hsorted
  cases htexts : texts.mergeSort fun a b => decide (a ≤ b) with
  | nil =>
    rw [htexts] at hperm
    exact ⟨fun text => hperm.mem_iff, List.Pairwise.nil⟩
  | cons first others =>
    rw [htexts] at hperm hsorted
    obtain ⟨kept, hloop, hmem, hkept⟩ := exists_eraseRepsBy_loop first others []
    rw [List.eraseRepsBy, hloop]
    exact ⟨fun text => (hmem text).trans hperm.mem_iff, hkept hsorted⟩

/-! ### Paths of keys -/

/-- How the key of a section is reported: one that looks like an index in brackets, any other behind a dot. -/
def reportedIn (part key : String) : String :=
  if isIndex key.toList then part ++ "[" ++ key ++ "]" else pathIn part key

/-- No dots are dropped from the front of a text that does not begin with one. -/
lemma dropWhile_dot {cs : List Char} (h : '.' ∉ cs) (rest : List Char) (hne : cs ≠ []) :
    (cs ++ rest).dropWhile (· == '.') = cs ++ rest := by
  obtain ⟨c, cs, rfl⟩ := List.exists_cons_of_ne_nil hne
  have hc : c ≠ '.' := fun heq => h (heq ▸ List.mem_cons_self)
  rw [List.cons_append, List.dropWhile_cons_of_neg (by simp [hc])]

/-- A key without dots is reported as it is. -/
lemma reportedKey_of_not_mem {name : String} (h : '.' ∉ name.toList) : reportedKey name = name := by
  have hdrop : name.toList.dropWhile (· == '.') = name.toList := by
    by_cases hne : name.toList = []
    · rw [hne, List.dropWhile_nil]
    · have hall := dropWhile_dot h [] hne
      rwa [List.append_nil] at hall
  rw [reportedKey, hdrop, List.splitOn_eq_singleton h]
  exact String.ofList_toList

/-- The key of a section is reported behind its name, in brackets if it looks like an index. -/
lemma reportedKey_pathIn {part key : String} (hpart : '.' ∉ part.toList) (hne : part ≠ "") (hkey : '.' ∉ key.toList) :
    reportedKey (pathIn part key) = reportedIn part key := by
  have hne' : part.toList ≠ [] := by simpa using hne
  have htext : (pathIn part key).toList = part.toList ++ '.' :: key.toList := by simp [pathIn]
  have hsplit : (part.toList ++ '.' :: key.toList).splitOn '.' = [part.toList, key.toList] := by
    rw [List.splitOn_append_cons_self, List.splitOn_eq_singleton hpart, List.splitOn_eq_singleton hkey]
    rfl
  rw [reportedKey, htext, dropWhile_dot hpart _ hne', hsplit, reportedIn]
  refine String.toList_injective ?_
  simp only [List.foldl_cons, List.foldl_nil, appendSegment, hne', if_false, String.toList_ofList]
  split
  · simp
  · rw [htext]

/-! ### Keys of a document that are no settings -/

/-- The document has a key in a section that is no setting there. -/
def HasUnknown (entries : Toml.Entries) (part key : String) : Prop :=
  ∃ origin inner known, (part, .table origin inner) ∈ entries ∧ settingNames? part = some known ∧
    key ∈ inner.map Prod.fst ∧ key ∉ known

/-- The path of a key that is no setting, given how a key of a section is spelled behind the name of the section. -/
inductive IsUnknown (entries : Toml.Entries) (spell : String → String → String) : String → Prop where
  | top {name value} : (name, value) ∈ entries → settingNames? name = none → IsUnknown entries spell name
  | within {part key} : HasUnknown entries part key → IsUnknown entries spell (spell part key)

/-- The document has its sections as tables, and no key with a dot in it, as a key without quotes has none. -/
structure HasPlainKeys (entries : Toml.Entries) : Prop where
  dotless : ∀ entry ∈ entries, '.' ∉ entry.1.toList
  tables : ∀ entry ∈ entries, settingNames? entry.1 ≠ none →
    ∃ origin inner, entry.2 = .table origin inner ∧ ∀ key ∈ inner.map Prod.fst, '.' ∉ key.toList

section

variable {entries : Toml.Entries} {path part key : String} {known : List String} {spell spell' : String → String → String}

/-- The paths that are collected are those of the keys that are no settings. -/
lemma mem_unknownPaths_iff (hplain : HasPlainKeys entries) :
    path ∈ entries.flatMap unknownPaths ↔ IsUnknown entries pathIn path := by
  rw [List.mem_flatMap]
  constructor
  · rintro ⟨⟨name, value⟩, hentry, hpath⟩
    rw [unknownPaths] at hpath
    dsimp only at hpath
    cases hnames : settingNames? name with
    | none =>
      rw [hnames] at hpath
      cases List.mem_singleton.1 hpath
      exact .top hentry hnames
    | some known =>
      rw [hnames] at hpath
      obtain ⟨origin, inner, hvalue, -⟩ := hplain.tables _ hentry (by simp [hnames])
      dsimp only at hvalue
      subst hvalue
      obtain ⟨key, hkey, rfl⟩ := List.mem_map.1 hpath
      exact .within ⟨origin, inner, known, hentry, hnames, mem_unknownNames_iff.1 hkey⟩
  · intro h
    cases h with
    | top hentry hnames =>
      refine ⟨_, hentry, ?_⟩
      rw [unknownPaths, hnames]
      exact List.mem_singleton_self _
    | within hunknown =>
      obtain ⟨origin, inner, known, hentry, hnames, hkey⟩ := hunknown
      refine ⟨_, hentry, ?_⟩
      rw [unknownPaths, hnames]
      exact List.mem_map_of_mem (mem_unknownNames_iff.2 hkey)

/-! ### What is reported -/

/-- In a section of a document with plain keys there are no dots, neither in its name nor in its keys. -/
lemma HasPlainKeys.not_mem_dot (h : HasPlainKeys entries) (hunknown : HasUnknown entries part key) :
    '.' ∉ part.toList ∧ part ≠ "" ∧ '.' ∉ key.toList := by
  obtain ⟨origin, inner, known, hentry, hnames, hkey, -⟩ := hunknown
  obtain ⟨origin', inner', hvalue, hinner⟩ := h.tables _ hentry (by simp [hnames])
  cases hvalue
  refine ⟨h.dotless _ hentry, ?_, hinner key hkey⟩
  rcases eq_of_settingNames? hnames with rfl | rfl
  · decide
  · decide

/-- Keys that are no settings can be spelled another way that agrees on them. -/
lemma IsUnknown.congr (h : IsUnknown entries spell path)
    (hspell : ∀ part key, HasUnknown entries part key → spell part key = spell' part key) :
    IsUnknown entries spell' path := by
  cases h with
  | top hentry hnames => exact .top hentry hnames
  | within hunknown =>
    rw [hspell _ _ hunknown]
    exact .within hunknown

/-- What is reported are the same keys, spelled another way. -/
lemma exists_reportedKey_iff (hplain : HasPlainKeys entries) :
    (∃ raw, IsUnknown entries pathIn raw ∧ reportedKey raw = path) ↔ IsUnknown entries reportedIn path := by
  have hwithin : ∀ {part key}, HasUnknown entries part key → reportedKey (pathIn part key) = reportedIn part key := by
    intro part key hunknown
    obtain ⟨hpart, hne, hkey⟩ := hplain.not_mem_dot hunknown
    exact reportedKey_pathIn hpart hne hkey
  constructor
  · rintro ⟨raw, h, rfl⟩
    cases h with
    | top hentry hnames =>
      rw [reportedKey_of_not_mem (hplain.dotless _ hentry)]
      exact .top hentry hnames
    | within hunknown =>
      rw [hwithin hunknown]
      exact .within hunknown
  · intro h
    cases h with
    | top hentry hnames => exact ⟨_, .top hentry hnames, reportedKey_of_not_mem (hplain.dotless _ hentry)⟩
    | within hunknown => exact ⟨_, .within hunknown, hwithin hunknown⟩

/-- The path of a key in a section has a dot. -/
lemma dot_mem_pathIn (part key : String) : '.' ∈ (pathIn part key).toList := by simp [pathIn]

/-- The path of a key in a section tells the section and the key, unless there are dots in the sections. -/
lemma pathIn_inj {part' key' : String} (hpart : '.' ∉ part.toList) (hpart' : '.' ∉ part'.toList)
    (h : pathIn part key = pathIn part' key') : part = part' ∧ key = key' := by
  rw [pathIn, pathIn, String.append_assoc, String.append_assoc] at h
  have hdot : ∀ key : String, ∀ c ∈ ("." ++ key).toList.head?, c = '.' := by simp
  obtain ⟨hparts, hkeys⟩ := Text.append_inj_of_not_mem h hpart hpart' (hdot key) (hdot key')
  exact ⟨hparts, String.append_right_inj _ |>.1 hkeys⟩

/-- A key that looks like an index is not reported behind a dot. -/
lemma not_isUnknown_pathIn (hplain : HasPlainKeys entries) (hunknown : HasUnknown entries part key)
    (hindex : isIndex key.toList = true) : ¬ IsUnknown entries reportedIn (pathIn part key) := by
  obtain ⟨hpart, -, hkey⟩ := hplain.not_mem_dot hunknown
  generalize hpath : pathIn part key = path
  have hdot : '.' ∈ path.toList := hpath ▸ dot_mem_pathIn part key
  intro h
  cases h with
  | top hentry _ => exact hplain.dotless _ hentry hdot
  | @within part' key' hunknown' =>
    obtain ⟨hpart', -, hkey'⟩ := hplain.not_mem_dot hunknown'
    by_cases hindex' : isIndex key'.toList = true
    · rw [reportedIn, if_pos hindex'] at hdot
      simp [hpart', hkey'] at hdot
    · rw [reportedIn, if_neg hindex'] at hpath
      obtain ⟨-, rfl⟩ := pathIn_inj hpart hpart' hpath
      exact hindex' hindex

end

/--
The keys that are reported are in strict order, and are those that are no settings. A key of a section is spelled
behind the name of the section and a dot, unless it has digits only.
-/
theorem unknownKeys_dotted_iff {text : String} {entries : Toml.Entries} {settings : Settings}
    {diagnostics : Diagnostics} (hparse : Toml.parse? text = some entries)
    (hload : ofText text = .ok (settings, diagnostics)) (hplain : HasPlainKeys entries) :
    diagnostics.unknownKeys.Pairwise (fun a b => Text.Utf8.encode a < Text.Utf8.encode b) ∧
      (∀ path, path ∈ diagnostics.unknownKeys ↔ IsUnknown entries reportedIn path) ∧
      ((∀ path, path ∈ diagnostics.unknownKeys ↔ IsUnknown entries pathIn path) ↔
        ∀ part key, HasUnknown entries part key → isIndex key.toList = false) := by
  rw [ofText, hparse] at hload
  dsimp only at hload
  cases hfound : ofEntries entries with
  | error misfit =>
    rw [hfound] at hload
    cases hload
  | ok found =>
    rw [hfound] at hload
    cases hload
    obtain ⟨hmem, hsorted⟩ := sortedOnce_spec (found.2.map reportedKey)
    have hreported : ∀ path, path ∈ sortedOnce (found.2.map reportedKey) ↔ IsUnknown entries reportedIn path := by
      intro path
      rw [hmem, List.mem_map, ← exists_reportedKey_iff hplain]
      refine exists_congr fun raw => and_congr_left fun _ => ?_
      rw [unknown_of_ofEntries hfound, mem_unknownPaths_iff hplain]
    refine ⟨hsorted.imp Text.Utf8.encode_lt_encode, hreported, ?_, ?_⟩
    · intro hdotted part key hunknown
      have hpath : IsUnknown entries reportedIn (pathIn part key) :=
        (hreported _).1 ((hdotted _).2 (.within hunknown))
      cases hindex : isIndex key.toList with
      | false => rfl
      | true => exact absurd hpath (not_isUnknown_pathIn hplain hunknown hindex)
    · intro hnone path
      have hspell : ∀ part key, HasUnknown entries part key → reportedIn part key = pathIn part key := by
        intro part key hunknown
        rw [reportedIn, hnone part key hunknown]
        rfl
      rw [hreported]
      exact ⟨fun h => h.congr hspell, fun h => h.congr fun part key hunknown => (hspell part key hunknown).symm⟩

/-- A key of digits is reported as if it were an index. -/
theorem digits_key_reported_in_brackets :
    Toml.parse? "[logging]\n0 = 1\n" = some [(logSection, .table .header [("0", .integer 1)])] ∧
      ofText "[logging]\n0 = 1\n" = .ok ({}, { unknownKeys := ["logging[0]"] }) ∧
      IsUnknown [(logSection, .table .header [("0", .integer 1)])] pathIn "logging.0" := by
  refine ⟨by cbv, by cbv, ?_⟩
  have hunknown : HasUnknown [(logSection, .table .header [("0", .integer 1)])] logSection "0" :=
    ⟨.header, _, _, List.mem_singleton_self _, rfl, by decide, by decide⟩
  exact .within hunknown

/-- A text with keys of several kinds that are no settings. -/
def oddText : String := "zeta = 1\n[logging]\n0 = 1\nlevl = 2\n[stubs]\nexclued = []\n"

/-- The document in that text. -/
def oddEntries : Toml.Entries :=
  [("zeta", .integer 1), (logSection, .table .header [("0", .integer 1), ("levl", .integer 2)]),
    (stubSection, .table .header [("exclued", .array [])])]

/-- In the odd text, a key of digits is reported in brackets and any other behind a dot. -/
theorem oddEntries_unknownKeys :
    Toml.parse? oddText = some oddEntries ∧ HasPlainKeys oddEntries ∧
      ∃ settings diagnostics, ofText oddText = .ok (settings, diagnostics) ∧
        "logging[0]" ∈ diagnostics.unknownKeys ∧ "logging.levl" ∈ diagnostics.unknownKeys ∧
        ¬ ∀ path, path ∈ diagnostics.unknownKeys ↔ IsUnknown oddEntries pathIn path := by
  have hparse : Toml.parse? oddText = some oddEntries := by cbv
  have hplain : HasPlainKeys oddEntries := by
    refine ⟨by decide, ?_⟩
    intro entry hentry hpart
    simp only [oddEntries, List.mem_cons, List.not_mem_nil, or_false] at hentry
    rcases hentry with rfl | rfl | rfl
    · exact absurd (by decide) hpart
    · exact ⟨_, _, rfl, by decide⟩
    · exact ⟨_, _, rfl, by decide⟩
  have hfound : ofEntries oddEntries = .ok ({}, ["zeta", "logging.0", "logging.levl", "stubs.exclued"]) := by cbv
  have hload : ofText oddText =
      .ok ({}, ⟨sortedOnce (["zeta", "logging.0", "logging.levl", "stubs.exclued"].map reportedKey), warnings {}⟩) := by
    rw [ofText, hparse]
    dsimp only
    rw [hfound]
  obtain ⟨-, hmem, hiff⟩ := unknownKeys_dotted_iff hparse hload hplain
  have hunknown : ∀ key, key = "0" ∨ key = "levl" → HasUnknown oddEntries logSection key := by
    intro key hkey
    refine ⟨.header, [("0", .integer 1), ("levl", .integer 2)], _, by simp [oddEntries], rfl, ?_, ?_⟩
    · rcases hkey with rfl | rfl
      · decide
      · decide
    · rcases hkey with rfl | rfl
      · decide
      · decide
  refine ⟨hparse, hplain, _, _, hload, (hmem _).2 (.within (hunknown "0" (.inl rfl))),
    (hmem _).2 (.within (hunknown "levl" (.inr rfl))), ?_⟩
  intro hdotted
  exact absurd (hiff.1 hdotted logSection "0" (hunknown "0" (.inl rfl))) (by decide)

end ClassStub.Settings
