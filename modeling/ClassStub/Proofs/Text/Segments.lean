import Mathlib.Data.List.Basic
import ClassStub.Declaration

/-!
# Segments of names

`Text.segments` cuts a name at every `/`. A dotted name is its segments with `.` between them, the simple name of
a class is its last segment, and its package is the segments in front of that one: `Declaration.simpleName` and
`Declaration.packageName?`, which cut at the last `/`, are stated here in terms of the segments.
-/

namespace ClassStub

namespace Text

/-- The parts of a name between the slashes. -/
def segments (name : String) : List String :=
  (name.toList.splitOn '/').map String.ofList

/-- A name has at least one segment. -/
lemma segments_ne_nil (name : String) : segments name ≠ [] := by
  simp [segments, List.splitOn_ne_nil]

/-- Texts are joined as their characters are. -/
lemma intercalate_map_ofList (sep : String) (parts : List (List Char)) :
    sep.intercalate (parts.map String.ofList) = String.ofList (sep.toList.intercalate parts) := by
  apply String.toList_injective
  rw [String.toList_intercalate, List.map_map, String.toList_ofList]
  congr 1
  exact List.map_id'' (fun _ => String.toList_ofList) parts

/-- A name is its segments with slashes between them. -/
lemma intercalate_segments (name : String) : "/".intercalate (segments name) = name := by
  rw [segments, intercalate_map_ofList, show "/".toList = ['/'] from rfl, List.intercalate_splitOn,
    String.ofList_toList]

/-- Parts without the separator are cut out again where they were joined. -/
lemma splitOn_intercalate {sep : String} {c : Char} (hsep : sep.toList = [c]) {parts : List String}
    (hparts : ∀ part ∈ parts, c ∉ part.toList) (hne : parts ≠ []) :
    (sep.intercalate parts).toList.splitOn c = parts.map String.toList := by
  rw [String.toList_intercalate, hsep]
  refine List.splitOn_intercalate c ?_ (mt List.map_eq_nil_iff.1 hne)
  intro cs hcs
  obtain ⟨part, hpart, rfl⟩ := List.mem_map.1 hcs
  exact hparts part hpart

/-- Names without slashes are the segments of the name that they are joined to. -/
lemma segments_intercalate {names : List String} (hnames : ∀ name ∈ names, '/' ∉ name.toList) (hne : names ≠ []) :
    segments ("/".intercalate names) = names := by
  rw [segments, splitOn_intercalate rfl hnames hne, List.map_map]
  exact List.map_id'' (fun _ => String.ofList_toList) names

/-- A text without a character is passed over where that character is looked for. -/
lemma forall_ne_of_not_mem {c : Char} {cs : List Char} (h : c ∉ cs) : ∀ x ∈ cs, decide (x ≠ c) = true := by
  intro x hx
  exact decide_eq_true fun heq => h (heq ▸ hx)

/-- A part that a text is cut into is without the separator and made of characters of the text. -/
lemma of_mem_splitOn {sep : Char} {cs part : List Char} (h : part ∈ cs.splitOn sep) :
    sep ∉ part ∧ ∀ c ∈ part, c ∈ cs := by
  induction cs generalizing part with
  | nil =>
    obtain rfl : part = [] := by simpa using h
    simp
  | cons c cs ih =>
    obtain ⟨first, others, hsplit⟩ := List.exists_cons_of_ne_nil (List.splitOn_ne_nil sep cs)
    rw [hsplit] at ih
    rw [List.splitOn_cons_eq_if_modifyHead, hsplit] at h
    have hrest : ∀ {p}, p ∈ first :: others → sep ∉ p ∧ ∀ x ∈ p, x ∈ c :: cs := by
      intro p hp
      obtain ⟨hsep, hmem⟩ := ih hp
      exact ⟨hsep, fun x hx => List.mem_cons_of_mem c (hmem x hx)⟩
    by_cases hc : c = sep
    · rw [if_pos (by simp [hc])] at h
      rcases List.mem_cons.1 h with rfl | h
      · simp
      · exact hrest h
    · rw [if_neg (by simp [hc]), List.modifyHead_cons] at h
      rcases List.mem_cons.1 h with rfl | h
      · obtain ⟨hsep, hmem⟩ := hrest (List.mem_cons_self (a := first) (l := others))
        refine ⟨?_, ?_⟩
        · simpa [Ne.symm hc] using hsep
        · simpa using hmem
      · exact hrest (List.mem_cons_of_mem first h)

/-- A segment has no slash. -/
lemma slash_not_mem_of_mem_segments {name segment : String} (h : segment ∈ segments name) : '/' ∉ segment.toList := by
  obtain ⟨part, hpart, rfl⟩ := List.mem_map.1 h
  rw [String.toList_ofList]
  exact (of_mem_splitOn hpart).1

/-- Exchanging a separator is cutting at it and joining with the other. -/
lemma replaceChar_eq_intercalate (old new : Char) (cs : List Char) :
    replaceChar old new cs = [new].intercalate (cs.splitOn old) := by
  induction cs with
  | nil => rfl
  | cons c cs ih =>
    have hne := List.splitOn_ne_nil old cs
    obtain ⟨first, others, hsplit⟩ := List.exists_cons_of_ne_nil hne
    rw [List.splitOn_cons_eq_if_modifyHead, hsplit]
    rw [hsplit] at ih
    rw [replaceChar] at ih ⊢
    rw [List.map_cons, ih]
    by_cases hc : c = old
    · subst hc
      simp [List.intercalate_cons_cons]
    · cases others with
      | nil => simp [hc]
      | cons second others => simp [hc, List.intercalate_cons_cons]

/-- A text cannot be cut at the last separator exactly if it has none. -/
lemma rsplit?_eq_none_iff {sep : Char} {cs : List Char} : rsplit? sep cs = none ↔ sep ∉ cs := by
  induction cs with
  | nil => simp [rsplit?]
  | cons c cs ih =>
    rw [rsplit?, List.mem_cons, not_or, ← ih]
    cases hcut : rsplit? sep cs with
    | some pair => simp
    | none =>
      by_cases hc : c = sep
      · simp [hc]
      · simp [hc, Ne.symm hc]

/-- The cut at the last separator leaves no separator behind it. -/
lemma rsplit?_eq_some {sep : Char} {cs before after : List Char} (h : rsplit? sep cs = some (before, after)) :
    cs = before ++ sep :: after ∧ sep ∉ after := by
  induction cs generalizing before with
  | nil => cases h
  | cons c cs ih =>
    rw [rsplit?] at h
    cases hcut : rsplit? sep cs with
    | some pair =>
      obtain ⟨before', after'⟩ := pair
      rw [hcut] at h
      cases h
      obtain ⟨rfl, hafter⟩ := ih hcut
      exact ⟨rfl, hafter⟩
    | none =>
      rw [hcut] at h
      by_cases hc : c = sep
      · simp only [hc, if_true] at h
        cases h
        exact ⟨by rw [hc]; rfl, rsplit?_eq_none_iff.1 hcut⟩
      · simp only [hc, if_false] at h
        cases h

/-- A name is cut at its last slash, or it is one segment. -/
lemma rsplit?_cases (name : String) :
    (rsplit? '/' name.toList = none ∧ segments name = [name]) ∨
      ∃ before after, rsplit? '/' name.toList = some (before, after) ∧
        segments name = segments (String.ofList before) ++ [String.ofList after] := by
  cases hcut : rsplit? '/' name.toList with
  | none =>
    refine .inl ⟨rfl, ?_⟩
    rw [segments, List.splitOn_eq_singleton (rsplit?_eq_none_iff.1 hcut)]
    simp
  | some pair =>
    obtain ⟨before, after⟩ := pair
    obtain ⟨hname, hafter⟩ := rsplit?_eq_some hcut
    refine .inr ⟨before, after, rfl, ?_⟩
    rw [segments, hname, List.splitOn_append_cons_self, List.splitOn_eq_singleton hafter, List.map_append,
      segments, String.toList_ofList]
    rfl

/-- What is left behind the front of a text stands behind it. -/
lemma stripFront?_eq_some_iff {front cs rest : List Char} : stripFront? front cs = some rest ↔ cs = front ++ rest := by
  induction front generalizing cs with
  | nil => exact ⟨fun h => Option.some.inj h, fun h => congrArg some h⟩
  | cons c front ih =>
    cases cs with
    | nil => exact ⟨nofun, nofun⟩
    | cons d cs =>
      rw [stripFront?, List.cons_append, List.cons.injEq]
      split
      · rename_i heq
        rw [ih]
        exact ⟨fun h => ⟨heq.symm, h⟩, fun h => h.2⟩
      · rename_i hne
        exact ⟨nofun, fun h => absurd h.1.symm hne⟩

/-- What is left in front of the tail of a text stands in front of it. -/
lemma stripEnd?_eq_some_iff {tail cs rest : List Char} : stripEnd? tail cs = some rest ↔ cs = rest ++ tail := by
  rw [stripEnd?, Option.map_eq_some_iff]
  constructor
  · rintro ⟨front, hfront, rfl⟩
    rw [stripFront?_eq_some_iff] at hfront
    rw [← List.reverse_reverse cs, hfront, List.reverse_append, List.reverse_reverse]
  · rintro rfl
    refine ⟨rest.reverse, stripFront?_eq_some_iff.2 List.reverse_append, List.reverse_reverse rest⟩

/-- A text is cut where nothing behind has the separator. -/
lemma rsplit?_append {sep : Char} {before after : List Char} (h : sep ∉ after) :
    rsplit? sep (before ++ sep :: after) = some (before, after) := by
  induction before with
  | nil => rw [List.nil_append, rsplit?, rsplit?_eq_none_iff.2 h, if_pos rfl]
  | cons c before ih => rw [List.cons_append, rsplit?, ih]

/-- What stands behind the last separator is the first segment from the back. -/
lemma head?_rsplit (sep : Char) (cs : List Char) : (rsplit sep cs).head? = some (lastSegment sep cs) := by
  rw [rsplit, List.head?_reverse, lastSegment]
  cases hcut : rsplit? sep cs with
  | none =>
    rw [List.splitOn_eq_singleton (rsplit?_eq_none_iff.1 hcut)]
    rfl
  | some pair =>
    obtain ⟨hcs, hafter⟩ := rsplit?_eq_some hcut
    rw [hcs, List.splitOn_append_cons_self, List.splitOn_eq_singleton hafter, List.getLast?_concat]

/-- The text behind the last slash of a name is its last segment. -/
lemma ofList_lastSegment (name : String) :
    String.ofList (lastSegment '/' name.toList) = (segments name).getLast (segments_ne_nil name) := by
  rw [lastSegment]
  rcases rsplit?_cases name with ⟨hcut, hsegments⟩ | ⟨before, after, hcut, hsegments⟩
  · simp [hcut, hsegments]
  · simp [hcut, hsegments]

end Text

/-- Of the characters of a name, a dotted name keeps all but the slashes, and has no others but dots. -/
lemma mem_dotted {name : String} {c : Char} (h : c ∈ (dotted name).toList) :
    c ≠ '/' ∧ (c = '.' ∨ c ∈ name.toList) := by
  rw [dotted, String.toList_ofList, Text.replaceChar] at h
  obtain ⟨x, hx, rfl⟩ := List.mem_map.1 h
  by_cases hslash : x = '/'
  · rw [if_pos hslash]
    exact ⟨by decide, .inl rfl⟩
  · rw [if_neg hslash]
    exact ⟨hslash, .inr hx⟩

/-- A dotted name has no slashes. -/
lemma slash_not_mem_dotted (name : String) : '/' ∉ (dotted name).toList :=
  fun h => (mem_dotted h).1 rfl

/-- A dotted name is the segments with dots between them. -/
lemma dotted_eq_intercalate (name : String) : dotted name = ".".intercalate (Text.segments name) := by
  rw [dotted, Text.replaceChar_eq_intercalate, Text.segments, Text.intercalate_map_ofList]
  rfl

namespace Declaration

/-- The simple name is the last segment. -/
lemma simpleName_eq (d : Declaration) : d.simpleName = (Text.segments d.name).getLast (Text.segments_ne_nil _) :=
  Text.ofList_lastSegment d.name

/-- The package is named by the segments in front of the last one, if there are any. -/
lemma packageName?_eq (d : Declaration) :
    d.packageName? = if (Text.segments d.name).dropLast = [] then none
      else some (".".intercalate (Text.segments d.name).dropLast) := by
  rw [packageName?]
  rcases Text.rsplit?_cases d.name with ⟨hcut, hsegments⟩ | ⟨before, after, hcut, hsegments⟩
  · simp [hcut, hsegments]
  · simp [hcut, hsegments, Text.segments_ne_nil, dotted_eq_intercalate]

end Declaration

end ClassStub
