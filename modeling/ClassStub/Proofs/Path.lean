import ClassStub.Path
import ClassStub.Proofs.Text.Joining
import ClassStub.Proofs.Text.Segments

/-!
# Paths along names

A relative path that is put together from names leads down: each name is that of something right below the place
reached so far. Appending it to a directory gives the text of the directory, a slash where one is needed, and the
names, and the path goes along the steps of the directory first and the names after them.
-/

namespace ClassStub.Path

/-- The name of something right below a directory. -/
structure IsName (name : String) : Prop where
  ne_empty : name ≠ ""
  ne_here : name ≠ "."
  ne_above : name ≠ ".."
  slashless : '/' ∉ name.toList

/-- Whether a text is a name is decided by its parts. -/
instance (name : String) : Decidable (IsName name) :=
  decidable_of_iff (name ≠ "" ∧ name ≠ "." ∧ name ≠ ".." ∧ '/' ∉ name.toList)
    ⟨fun ⟨hempty, hhere, habove, hslash⟩ => ⟨hempty, hhere, habove, hslash⟩,
      fun h => ⟨h.ne_empty, h.ne_here, h.ne_above, h.slashless⟩⟩

/-- The path along names, one below the other. -/
def ofNames (names : List String) : Path := ⟨"/".intercalate names⟩

/-- What a path goes along: its segments without those that name nothing. -/
def steps (p : Path) : List String := (p.segments.filter fun s => !isIdle s).map String.ofList

/-- What stands between a directory and a path below it. -/
def separator (dir : Path) : String :=
  if dir.text = "" ∨ dir.text.toList.getLast? = some '/' then "" else "/"

/-- The path is a directory followed by names. -/
structure Continues (p dir : Path) (names : List String) : Prop where
  text : p.text = dir.text ++ dir.separator ++ "/".intercalate names
  isAbsolute : p.isAbsolute = dir.isAbsolute
  steps : p.steps = dir.steps ++ names

/-! ### Appending a relative path -/

section

variable {p q : Path}

/-- A relative path behind another one is written behind it, with a slash between them unless there is one. -/
lemma text_join (hq : q.isAbsolute = false) : (p.join q).text = p.text ++ p.separator ++ q.text := by
  rw [join, if_neg (by simp [hq]), separator]
  cases hlast : p.text.toList.getLast? with
  | none =>
    have hempty : p.text = "" := by simpa using hlast
    simp [hempty]
  | some c =>
    have hne : p.text ≠ "" := by
      intro hempty
      rw [hempty] at hlast
      cases hlast
    by_cases hc : c = '/'
    · simp [hc]
    · simp [hc, hne]

/-- A relative path behind another one is absolute when that one is. -/
lemma isAbsolute_join (hq : q.isAbsolute = false) : (p.join q).isAbsolute = p.isAbsolute := by
  rw [isAbsolute, text_join hq, isAbsolute, separator]
  cases hp : p.text.toList with
  | nil =>
    have hempty : p.text = "" := by simpa using hp
    rw [isAbsolute] at hq
    simp [hempty, hq]
  | cons c cs => simp [hp]

/-- At a slash the segments of a path are cut in two. -/
lemma segments_append_slash (a b : String) :
    segments ⟨a ++ "/" ++ b⟩ = segments ⟨a⟩ ++ segments ⟨b⟩ := by
  have htext : (a ++ "/" ++ b).toList = a.toList ++ '/' :: b.toList := by simp
  rw [segments, htext, List.splitOn_append_cons_self]
  rfl

/-- At a slash the steps of a path are cut in two. -/
lemma steps_append_slash (a b : String) : steps ⟨a ++ "/" ++ b⟩ = steps ⟨a⟩ ++ steps ⟨b⟩ := by
  rw [steps, segments_append_slash, List.filter_append, List.map_append]
  rfl

/-- An empty path has no steps. -/
lemma steps_empty : steps ⟨""⟩ = [] := by
  rfl

/-- A path that ends in a slash. -/
lemma exists_eq_append_slash (h : p.text.toList.getLast? = some '/') : ∃ front, p = ⟨front ++ "/"⟩ := by
  obtain ⟨cs, hcs⟩ := List.getLast?_eq_some_iff.1 h
  refine ⟨String.ofList cs, congrArg Path.mk (String.toList_injective ?_)⟩
  simp [hcs]

/-- The steps of a path are followed by those of the path that is appended. -/
lemma steps_join (hq : q.isAbsolute = false) : (p.join q).steps = p.steps ++ q.steps := by
  have htext : p.join q = ⟨p.text ++ p.separator ++ q.text⟩ := congrArg Path.mk (text_join hq)
  rw [htext, separator]
  by_cases hempty : p.text = ""
  · have hp : p = ⟨""⟩ := congrArg Path.mk hempty
    simp [hp, steps_empty]
  · by_cases hslash : p.text.toList.getLast? = some '/'
    · -- The slash at the end cuts off an empty segment, which is no step.
      obtain ⟨front, rfl⟩ := exists_eq_append_slash hslash
      have hfront : steps ⟨front ++ "/"⟩ = steps ⟨front⟩ := by
        rw [← String.append_empty (s := front ++ "/"), steps_append_slash, steps_empty, List.append_nil]
      rw [if_pos (.inr hslash), String.append_empty, steps_append_slash, hfront]
    · rw [if_neg (by simp [hempty, hslash]), steps_append_slash]

/-- The segments of a path are followed by those of the path that is appended; an empty one at the end gives way. -/
lemma segments_join (hp : p.text ≠ "") (hq : q.isAbsolute = false) :
    (p.join q).segments = p.segments ++ q.segments ∨
      ∃ front, p.segments = front ++ [[]] ∧ (p.join q).segments = front ++ q.segments := by
  have htext : p.join q = ⟨p.text ++ p.separator ++ q.text⟩ := congrArg Path.mk (text_join hq)
  rw [htext, separator]
  by_cases hslash : p.text.toList.getLast? = some '/'
  · obtain ⟨front, rfl⟩ := exists_eq_append_slash hslash
    refine .inr ⟨segments ⟨front⟩, ?_, ?_⟩
    · rw [← String.append_empty (s := front ++ "/"), segments_append_slash]
      rfl
    · rw [if_pos (.inr hslash), String.append_empty, segments_append_slash]
  · refine .inl ?_
    rw [if_neg (not_or.2 ⟨hp, hslash⟩), segments_append_slash]

/-- Behind a path that is not empty, a path can be appended before or after that one is. -/
lemma join_join {r : Path} (hq : q.isAbsolute = false) (hne : q.text ≠ "") (hr : r.isAbsolute = false) :
    (p.join q).join r = p.join (q.join r) := by
  have hseparator : (p.join q).separator = q.separator := by
    have hne' : p.text ++ p.separator ++ q.text ≠ "" := fun hempty => hne (String.append_eq_empty_iff.1 hempty).2
    have hlast : q.text.toList ≠ [] := by simpa using hne
    rw [separator, separator, text_join hq, String.toList_append, List.getLast?_append_of_ne_nil _ hlast]
    simp [hne, hne']
  refine congrArg Path.mk ?_
  have hqr : (q.join r).isAbsolute = false := (isAbsolute_join hr).trans hq
  show ((p.join q).join r).text = (p.join (q.join r)).text
  rw [text_join hr, text_join hq, text_join hqr, text_join hr, hseparator]
  simp only [String.append_assoc]

end

/-! ### Names -/

/-- A name is not idle. -/
lemma IsName.isIdle_eq {name : String} (h : IsName name) : isIdle name.toList = false := by
  have hempty : name.toList ≠ [] := by simpa using h.ne_empty
  have hhere : name.toList ≠ ['.'] := fun heq => h.ne_here (String.toList_injective heq)
  simp [isIdle, hempty, hhere]

/-- A text without slashes is no absolute path. -/
lemma isAbsolute_of_not_mem {name : String} (h : '/' ∉ name.toList) : isAbsolute ⟨name⟩ = false := by
  rw [isAbsolute]
  cases hcs : name.toList with
  | nil => rfl
  | cons c cs =>
    have hc : c ≠ '/' := by
      rintro rfl
      exact h (by simp [hcs])
    simp [hc]

/-- A path along names is not absolute. -/
lemma isAbsolute_ofNames {names : List String} (hnames : ∀ name ∈ names, IsName name) :
    (ofNames names).isAbsolute = false := by
  cases names with
  | nil => rfl
  | cons first others =>
    have hfirst := hnames first (by simp)
    have hhead : (ofNames (first :: others)).text.toList.head? = first.toList.head? := by
      have hne : first.toList ≠ [] := by simpa using hfirst.ne_empty
      rw [ofNames, Text.intercalate_cons, String.toList_append, List.head?_append_of_ne_nil _ hne]
    have habsolute := isAbsolute_of_not_mem hfirst.slashless
    rw [isAbsolute] at habsolute ⊢
    rw [hhead, habsolute]

/-- Between a path along names and what comes behind it stands a slash. -/
lemma separator_ofNames {names : List String} (hnames : ∀ name ∈ names, IsName name) (hne : names ≠ []) :
    (ofNames names).separator = "/" := by
  obtain ⟨front, last, rfl⟩ := List.eq_nil_or_concat' names |>.resolve_left hne
  have hlast := hnames last (by simp)
  have hlastne : last.toList ≠ [] := by simpa using hlast.ne_empty
  obtain ⟨start, htext⟩ : ∃ start, (ofNames (front ++ [last])).text = start ++ last := by
    by_cases hfront : front = []
    · exact ⟨"", by simp [ofNames, hfront]⟩
    · refine ⟨"/".intercalate front ++ "/", ?_⟩
      simp only [ofNames]
      rw [String.intercalate_append_of_ne_nil hfront (by simp), String.intercalate_singleton]
  have hend : (start ++ last).toList.getLast? ≠ some '/' := by
    rw [String.toList_append, List.getLast?_append_of_ne_nil _ hlastne]
    intro hslash
    exact hlast.slashless (List.mem_of_getLast? hslash)
  have hfull : start ++ last ≠ "" := fun hempty => hlast.ne_empty (String.append_eq_empty_iff.1 hempty).2
  rw [separator, htext, if_neg (not_or.2 ⟨hfull, hend⟩)]

/-- The segments of a path along names are these. -/
lemma segments_ofNames {names : List String} (hnames : ∀ name ∈ names, IsName name) (hne : names ≠ []) :
    (ofNames names).segments = names.map String.toList :=
  Text.splitOn_intercalate rfl (fun name hname => (hnames name hname).slashless) hne

/-- The steps of a path along names are these. -/
lemma steps_ofNames {names : List String} (hnames : ∀ name ∈ names, IsName name) : (ofNames names).steps = names := by
  by_cases hne : names = []
  · subst hne
    rfl
  · have hkept : (names.map String.toList).filter (fun s => !isIdle s) = names.map String.toList := by
      rw [List.filter_eq_self]
      intro segment hsegment
      obtain ⟨name, hname, rfl⟩ := List.mem_map.1 hsegment
      simp [(hnames name hname).isIdle_eq]
    rw [steps, segments_ofNames hnames hne, hkept, List.map_map]
    exact List.map_id'' (fun _ => String.ofList_toList) names

/-- Appending one more name. -/
lemma ofNames_join {names : List String} {name : String} (hnames : ∀ name ∈ names, IsName name)
    (hname : IsName name) : (ofNames names).join ⟨name⟩ = ofNames (names ++ [name]) := by
  have htext : ((ofNames names).join ⟨name⟩).text = (ofNames (names ++ [name])).text := by
    rw [text_join (isAbsolute_of_not_mem hname.slashless)]
    by_cases hne : names = []
    · subst hne
      simp [ofNames, separator]
    · rw [separator_ofNames hnames hne]
      simp only [ofNames]
      rw [String.intercalate_append_of_ne_nil hne (by simp), String.intercalate_singleton]
  exact congrArg Path.mk htext

/-- Names that are appended one after the other. -/
lemma foldl_join_ofNames {names more : List String} (hnames : ∀ name ∈ names, IsName name)
    (hmore : ∀ name ∈ more, IsName name) :
    more.foldl (fun (path : Path) name => path.join ⟨name⟩) (ofNames names) = ofNames (names ++ more) := by
  induction more generalizing names with
  | nil => rw [List.append_nil]; rfl
  | cons name more ih =>
    rw [List.forall_mem_cons] at hmore
    have hnames' : ∀ n ∈ names ++ [name], IsName n := by
      intro n hn
      rcases List.mem_append.1 hn with hn | hn
      · exact hnames n hn
      · exact List.mem_singleton.1 hn ▸ hmore.1
    rw [List.foldl_cons, ofNames_join hnames hmore.1, ih hnames' hmore.2, List.append_assoc, List.singleton_append]

/-- Names that are appended to a directory one after the other. -/
lemma foldl_join_eq {names : List String} (hnames : ∀ name ∈ names, IsName name) (hne : names ≠ []) (dir : Path) :
    names.foldl (fun (path : Path) name => path.join ⟨name⟩) dir = dir.join (ofNames names) := by
  obtain ⟨first, others, rfl⟩ := List.exists_cons_of_ne_nil hne
  rw [List.forall_mem_cons] at hnames
  have hfold := foldl_join_ofNames (List.forall_mem_singleton.2 hnames.1) hnames.2
  have hstart : ofNames [first] = ⟨first⟩ := congrArg Path.mk String.intercalate_singleton
  rw [List.singleton_append] at hfold
  rw [List.foldl_cons, ← hfold, hstart]
  -- Behind a path that is not empty it does not matter what it is itself appended to.
  have hfirst : (Path.mk first).text ≠ "" := hnames.1.ne_empty
  have hrelative := isAbsolute_of_not_mem hnames.1.slashless
  generalize (⟨first⟩ : Path) = path at hfirst hrelative
  have hothers := hnames.2
  clear hfold hstart hnames hne
  induction others generalizing path with
  | nil => rfl
  | cons name others ih =>
    rw [List.forall_mem_cons] at hothers
    have hname := isAbsolute_of_not_mem hothers.1.slashless
    have hnext : (path.join ⟨name⟩).text ≠ "" := by
      rw [text_join hname]
      exact fun hempty => hothers.1.ne_empty (String.append_eq_empty_iff.1 hempty).2
    rw [List.foldl_cons, List.foldl_cons, join_join hrelative hfirst hname]
    exact ih _ hnext ((isAbsolute_join hname).trans hrelative) hothers.2

/-- The file name of a path is a name. -/
lemma isName_of_fileName? {p : Path} {name : String} (h : p.fileName? = some name) : IsName name := by
  rw [fileName?] at h
  split at h
  · rename_i segment hlast
    split at h
    · cases h
    · rename_i habove
      cases h
      obtain ⟨hmem, hidle⟩ := List.mem_filter.1 (List.mem_of_getLast? hlast)
      have hslash : '/' ∉ segment := (Text.of_mem_splitOn hmem).1
      simp only [isIdle, Bool.not_eq_true', Bool.or_eq_false_iff, beq_eq_false_iff_ne] at hidle
      refine ⟨?_, ?_, ?_, by rwa [String.toList_ofList]⟩
      · exact fun heq => hidle.1 (String.ofList_injective heq)
      · exact fun heq => hidle.2 (String.ofList_injective heq)
      · exact fun heq => habove (String.ofList_injective heq)
  · cases h

/-- A name is its own file name. -/
lemma fileName?_of_isName {name : String} (h : IsName name) : fileName? ⟨name⟩ = some name := by
  have hsegments : segments ⟨name⟩ = [name.toList] := List.splitOn_eq_singleton h.slashless
  have habove : name.toList ≠ above := fun heq => h.ne_above (String.toList_injective heq)
  rw [fileName?, hsegments, List.filter_singleton, h.isIdle_eq]
  simp [habove]

/-- A directory with a path along names behind it. -/
lemma continues_join {names : List String} (hnames : ∀ name ∈ names, IsName name) (dir : Path) :
    (dir.join (ofNames names)).Continues dir names where
  text := text_join (isAbsolute_ofNames hnames)
  isAbsolute := isAbsolute_join (isAbsolute_ofNames hnames)
  steps := by rw [steps_join (isAbsolute_ofNames hnames), steps_ofNames hnames]

end ClassStub.Path
