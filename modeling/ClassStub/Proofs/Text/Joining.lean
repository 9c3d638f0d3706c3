import Mathlib.Data.List.Basic

/-!
# Taking joined texts apart

A text that is put together from parts can be read back when a part never goes past the place where it is cut:
two lists, or two texts, that are equal as a whole are then equal part by part. `intercalate_inj` does this for
any number of parts behind a separator, and `map_eq_map_of_forall` for lists of texts written one by one.
-/

namespace ClassStub.Text

/-- Two lists are cut at the same place when all elements in front of it have a property that the one behind it
has not. -/
lemma append_inj_of_forall {α : Type*} (p : α → Prop) [DecidablePred p] {front front' back back' : List α}
    (h : front ++ back = front' ++ back') (hfront : ∀ x ∈ front, p x) (hfront' : ∀ x ∈ front', p x)
    (hback : ∀ x ∈ back.head?, ¬ p x) (hback' : ∀ x ∈ back'.head?, ¬ p x) : front = front' ∧ back = back' := by
  have htake : ∀ {xs ys : List α}, (∀ x ∈ xs, p x) → (∀ x ∈ ys.head?, ¬ p x) →
      (xs ++ ys).takeWhile (fun x => decide (p x)) = xs := by
    intro xs ys hxs hys
    rw [List.takeWhile_append_of_pos (fun x hx => decide_eq_true (hxs x hx))]
    cases ys with
    | nil => simp
    | cons y ys => simp [hys y rfl]
  have heq : front = front' := by
    calc front = (front ++ back).takeWhile (fun x => decide (p x)) := (htake hfront hback).symm
      _ = (front' ++ back').takeWhile (fun x => decide (p x)) := by rw [h]
      _ = front' := htake hfront' hback'
  subst heq
  exact ⟨rfl, List.append_cancel_left h⟩

/-- Two texts are cut at the same place when a character begins what is behind it and is nowhere in front. -/
lemma append_inj_of_not_mem {c : Char} {front front' back back' : String} (h : front ++ back = front' ++ back')
    (hfront : c ∉ front.toList) (hfront' : c ∉ front'.toList) (hback : ∀ x ∈ back.toList.head?, x = c)
    (hback' : ∀ x ∈ back'.toList.head?, x = c) : front = front' ∧ back = back' := by
  have hlist : front.toList ++ back.toList = front'.toList ++ back'.toList := by
    rw [← String.toList_append, h, String.toList_append]
  obtain ⟨hf, hb⟩ := append_inj_of_forall (· ≠ c) hlist (fun x hx hc => hfront (hc ▸ hx))
    (fun x hx hc => hfront' (hc ▸ hx)) (fun x hx => not_not_intro (hback x hx))
    (fun x hx => not_not_intro (hback' x hx))
  exact ⟨String.toList_injective hf, String.toList_injective hb⟩

/-- The first part, and the others each behind a separator. -/
lemma intercalate_cons (sep first : String) (others : List String) :
    sep.intercalate (first :: others) = first ++ String.join (others.map (sep ++ ·)) := by
  induction others generalizing first with
  | nil => simp
  | cons second others ih =>
    rw [String.intercalate_cons_of_ne_nil (by simp), ih, List.map_cons, String.join_cons]
    simp only [String.append_assoc]

/-- What is appended to the last part is appended to the whole. -/
lemma intercalate_concat_append (sep : String) (front : List String) (last tail : String) :
    sep.intercalate (front ++ [last ++ tail]) = sep.intercalate (front ++ [last]) ++ tail := by
  by_cases hfront : front = []
  · simp [hfront]
  · rw [String.intercalate_append_of_ne_nil hfront (by simp), String.intercalate_append_of_ne_nil hfront (by simp),
      String.intercalate_singleton, String.intercalate_singleton, String.append_assoc, String.append_assoc,
      String.append_assoc]

/-- Parts with a separator in front begin with the separator. -/
lemma head?_join_separated {sep : String} {c : Char} (hsep : sep.toList.head? = some c) (parts : List String) :
    ∀ x ∈ (String.join (parts.map (sep ++ ·))).toList.head?, x = c := by
  cases parts with
  | nil => simp
  | cons first others => simp [hsep]

/-- Parts are known by their joined text if none of them has the separator. -/
lemma join_separated_inj {sep : String} {c : Char} (hsep : sep.toList.head? = some c) {parts parts' : List String}
    (hparts : ∀ s ∈ parts, c ∉ s.toList) (hparts' : ∀ s ∈ parts', c ∉ s.toList)
    (h : String.join (parts.map (sep ++ ·)) = String.join (parts'.map (sep ++ ·))) : parts = parts' := by
  have hne : ∀ text : String, sep ++ text ≠ "" := by
    intro text hempty
    rw [String.append_eq_empty_iff.1 hempty |>.1] at hsep
    cases hsep
  -- On both lists at once: a separator in front tells that there is a part, and where it ends.
  induction parts generalizing parts' with
  | nil =>
    cases parts' with
    | nil => rfl
    | cons s' ss' =>
      rw [List.map_cons, String.join_cons, String.append_assoc] at h
      exact absurd h.symm (hne _)
  | cons s ss ih =>
    cases parts' with
    | nil =>
      rw [List.map_cons, String.join_cons, String.append_assoc] at h
      exact absurd h (hne _)
    | cons s' ss' =>
      rw [List.map_cons, List.map_cons, String.join_cons, String.join_cons, String.append_assoc,
        String.append_assoc] at h
      obtain ⟨rfl, hrest⟩ := append_inj_of_not_mem (String.append_right_inj sep |>.1 h) (hparts s (by simp))
        (hparts' s' (by simp)) (head?_join_separated hsep ss) (head?_join_separated hsep ss')
      rw [ih (fun t ht => hparts t (by simp [ht])) (fun t ht => hparts' t (by simp [ht])) hrest]

/-- Joined parts can be taken apart when the first character of the separator is in none of them. -/
lemma intercalate_inj {sep : String} {c : Char} (hsep : sep.toList.head? = some c) {parts parts' : List String}
    (hne : parts ≠ []) (hne' : parts' ≠ []) (hparts : ∀ s ∈ parts, c ∉ s.toList)
    (hparts' : ∀ s ∈ parts', c ∉ s.toList) (h : sep.intercalate parts = sep.intercalate parts') :
    parts = parts' := by
  obtain ⟨s, ss, rfl⟩ := List.exists_cons_of_ne_nil hne
  obtain ⟨s', ss', rfl⟩ := List.exists_cons_of_ne_nil hne'
  rw [intercalate_cons, intercalate_cons] at h
  obtain ⟨rfl, hrest⟩ := append_inj_of_not_mem h (hparts s (by simp)) (hparts' s' (by simp))
    (head?_join_separated hsep ss) (head?_join_separated hsep ss')
  rw [join_separated_inj hsep (fun t ht => hparts t (by simp [ht])) (fun t ht => hparts' t (by simp [ht])) hrest]

/-- As `intercalate_inj`, where there may be no parts, but no part is empty. -/
lemma intercalate_inj_of_ne_empty {sep : String} {c : Char} (hsep : sep.toList.head? = some c)
    {parts parts' : List String} (hparts : ∀ s ∈ parts, s ≠ "" ∧ c ∉ s.toList)
    (hparts' : ∀ s ∈ parts', s ≠ "" ∧ c ∉ s.toList) (h : sep.intercalate parts = sep.intercalate parts') :
    parts = parts' := by
  -- No parts are joined as one empty part is, which is none of the parts.
  have hnil : ∀ {ss : List String}, (∀ s ∈ ss, s ≠ "" ∧ c ∉ s.toList) → sep.intercalate ss = "" → ss = [] := by
    intro ss hss hempty
    by_contra hne
    have hone : ss = [""] := intercalate_inj hsep hne (by simp) (fun s hs => (hss s hs).2) (by simp) (by simpa)
    exact (hss "" (by simp [hone])).1 rfl
  by_cases hne : parts = []
  · subst hne
    exact (hnil hparts' (by simpa using h.symm)).symm
  · by_cases hne' : parts' = []
    · subst hne'
      exact hnil hparts (by simpa using h)
    · exact intercalate_inj hsep hne hne' (fun s hs => (hparts s hs).2) (fun s hs => (hparts' s hs).2) h

/-- A character of joined parts is one of the separator or of a part. -/
lemma not_mem_intercalate {c : Char} {sep : String} {parts : List String} (hsep : c ∉ sep.toList)
    (hparts : ∀ s ∈ parts, c ∉ s.toList) : c ∉ (sep.intercalate parts).toList := by
  cases parts with
  | nil => simp
  | cons first others =>
    rw [intercalate_cons, String.toList_append, String.toList_join, List.mem_append, not_or]
    refine ⟨hparts first (by simp), ?_⟩
    intro hmem
    obtain ⟨piece, hpiece, hc⟩ := List.mem_flatMap.1 hmem
    obtain ⟨s, hs, rfl⟩ := List.mem_map.1 hpiece
    rw [String.toList_append, List.mem_append] at hc
    rcases hc with hc | hc
    · exact hsep hc
    · exact hparts s (by simp [hs]) hc

/-- What each text tells of what it was written from, a list of texts tells of the list. -/
lemma map_eq_map_of_forall {α β γ : Type*} {write : α → β} {read : α → γ} {xs ys : List α}
    (hread : ∀ x ∈ xs, ∀ y ∈ ys, write x = write y → read x = read y) (h : xs.map write = ys.map write) :
    xs.map read = ys.map read := by
  induction xs generalizing ys with
  | nil =>
    cases ys with
    | nil => rfl
    | cons y ys => cases h
  | cons x xs ih =>
    cases ys with
    | nil => cases h
    | cons y ys =>
      rw [List.map_cons, List.map_cons, List.cons.injEq] at h
      rw [List.map_cons, List.map_cons, hread x (by simp) y (by simp) h.1,
        ih (fun x' hx y' hy => hread x' (by simp [hx]) y' (by simp [hy])) h.2]

end ClassStub.Text
