import Mathlib.Data.List.Forall2
import Mathlib.Data.List.Perm.Basic

/-!
# Results that may be errors

When a computation in steps has a result: each step has one. For a list this is a result for each of its elements.
Otherwise its error is that of the first step that has none.
-/

namespace ClassStub

/-- Two steps have a result when the first one has, and the second one has with it. -/
lemma bind_eq_ok_iff {ε α β : Type} {v : Except ε α} {f : α → Except ε β} {b : β} :
    (v >>= f) = .ok b ↔ ∃ a, v = .ok a ∧ f a = .ok b := by
  cases v with
  | error e => exact ⟨nofun, fun ⟨_, h, _⟩ => nomatch h⟩
  | ok a => exact ⟨fun h => ⟨a, rfl, h⟩, fun ⟨_, h, hb⟩ => by cases h; exact hb⟩

/-- The error of a first step is that of both. -/
lemma bind_of_eq_error {ε α β : Type} {v : Except ε α} {f : α → Except ε β} {e : ε} (h : v = .error e) :
    (v >>= f) = .error e := by
  rw [h]
  rfl

/-- What each step adds to a list, all steps together have added in the end. -/
lemma foldlM_collects {ε σ α β : Type} {step : σ → α → Except ε σ} {view : σ → List β} {added : α → List β}
    {xs : List α} {s s' : σ}
    (hstep : ∀ x ∈ xs, ∀ {s s' : σ}, step s x = .ok s' → view s' = view s ++ added x)
    (h : xs.foldlM step s = .ok s') : view s' = view s ++ xs.flatMap added := by
  induction xs generalizing s with
  | nil =>
    cases h
    rw [List.flatMap_nil, List.append_nil]
  | cons x xs ih =>
    rw [List.forall_mem_cons] at hstep
    rw [List.foldlM_cons] at h
    obtain ⟨middle, hfirst, hrest⟩ := bind_eq_ok_iff.1 h
    rw [ih hstep.2 hrest, hstep.1 hfirst, List.flatMap_cons, List.append_assoc]

/-- Changing errors leaves results as they are. -/
lemma mapError_eq_ok_iff {ε ε' α : Type} {f : ε → ε'} {v : Except ε α} {a : α} :
    v.mapError f = .ok a ↔ v = .ok a := by
  cases v with
  | error e => exact ⟨nofun, nofun⟩
  | ok b =>
    constructor
    · intro h
      cases h
      rfl
    · intro h
      cases h
      rfl

/-- The results on a whole list are the results on its elements. -/
lemma mapM_eq_ok_iff {ε α β : Type} {f : α → Except ε β} {xs : List α} {ys : List β} :
    xs.mapM f = .ok ys ↔ List.Forall₂ (fun x y => f x = .ok y) xs ys := by
  induction xs generalizing ys with
  | nil =>
    rw [List.mapM_nil, List.forall₂_nil_left_iff]
    exact ⟨fun h => (Except.ok.inj h).symm, fun h => h ▸ rfl⟩
  | cons x xs ih =>
    rw [List.mapM_cons, bind_eq_ok_iff, List.forall₂_cons_left_iff]
    constructor
    · intro h'
      obtain ⟨y, hy, h⟩ := h'
      obtain ⟨ys', hys, h⟩ := bind_eq_ok_iff.1 h
      exact ⟨y, ys', hy, ih.1 hys, (Except.ok.inj h).symm⟩
    · intro h'
      obtain ⟨y, ys', hy, hys, rfl⟩ := h'
      exact ⟨y, hy, bind_eq_ok_iff.2 ⟨ys', ih.2 hys, rfl⟩⟩

/-- There are results on a whole list exactly if there is one on each of its elements. -/
lemma exists_mapM_eq_ok_iff {ε α β : Type} {f : α → Except ε β} {xs : List α} :
    (∃ ys, xs.mapM f = .ok ys) ↔ ∀ x ∈ xs, ∃ y, f x = .ok y := by
  induction xs with
  | nil => exact ⟨fun _ => by simp, fun _ => ⟨[], rfl⟩⟩
  | cons x xs ih =>
    rw [List.forall_mem_cons, ← ih]
    constructor
    · intro h'
      obtain ⟨ys, hys⟩ := h'
      cases mapM_eq_ok_iff.1 hys with
      | cons hy htail => exact ⟨⟨_, hy⟩, ⟨_, mapM_eq_ok_iff.2 htail⟩⟩
    · intro h'
      obtain ⟨⟨y, hy⟩, ⟨ys, hys⟩⟩ := h'
      exact ⟨y :: ys, mapM_eq_ok_iff.2 (.cons hy (mapM_eq_ok_iff.1 hys))⟩

/-- The error of a result that is one. -/
def error? {ε α : Type} : Except ε α → Option ε
  | .error e => some e
  | .ok _ => none

/-- The error of a result is the one that it is. -/
lemma error?_eq_some_iff {ε α : Type} {v : Except ε α} {e : ε} : error? v = some e ↔ v = .error e := by
  cases v with
  | error e' => simp [error?]
  | ok a => simp [error?]

/-- A result has no error exactly if it has a value. -/
lemma error?_eq_none_iff {ε α : Type} {v : Except ε α} : error? v = none ↔ ∃ a, v = .ok a := by
  cases v with
  | error e => simp [error?]
  | ok a => simp [error?]

/-- A function of the value changes no error. -/
lemma error?_map {ε α β : Type} (v : Except ε α) (g : α → β) : error? (v.map g) = error? v := by
  cases v <;> rfl

/-- Going on with a function of the value changes no error. -/
lemma error?_bind_pure {ε α β : Type} (v : Except ε α) (g : α → β) :
    error? (v >>= fun a => pure (g a)) = error? v := by
  cases v <;> rfl

/-- The first step has the error, or else the second one, if that has the same error whatever the first one gave. -/
lemma error?_bind {ε α β : Type} {v : Except ε α} {f : α → Except ε β} {o : Option ε}
    (h : ∀ a, error? (f a) = o) : error? (v >>= f) = (error? v).or o := by
  cases v with
  | error e => rfl
  | ok a => exact h a

/-- The error on a whole list is that on the first element with one. -/
lemma error?_mapM {ε α β : Type} (f : α → Except ε β) (xs : List α) :
    error? (xs.mapM f) = xs.findSome? fun x => error? (f x) := by
  induction xs with
  | nil => rfl
  | cons x xs ih =>
    have hothers : ∀ y, error? (xs.mapM f >>= fun ys => pure (y :: ys)) = xs.findSome? fun x => error? (f x) := by
      intro y
      rw [error?_bind_pure, ih]
    rw [List.mapM_cons, error?_bind hothers, List.findSome?_cons]
    cases error? (f x) <;> rfl

/-- The error on a whole list is that on an element with none before it that has one. -/
lemma mapM_eq_error_iff {ε α β : Type} {f : α → Except ε β} {xs : List α} {e : ε} :
    xs.mapM f = .error e ↔
      ∃ before x after, xs = before ++ x :: after ∧ f x = .error e ∧ ∀ y ∈ before, ∃ b, f y = .ok b := by
  rw [← error?_eq_some_iff, error?_mapM, List.findSome?_eq_some_iff]
  simp only [error?_eq_some_iff, error?_eq_none_iff]

/-- Each of the results on a list is the result on one of its elements. -/
lemma exists_of_mem_of_mapM {ε α β : Type} {f : α → Except ε β} {xs : List α} {ys : List β}
    (h : xs.mapM f = .ok ys) {y : β} (hy : y ∈ ys) : ∃ x ∈ xs, f x = .ok y := by
  have hresults := mapM_eq_ok_iff.1 h
  clear h
  induction hresults with
  | nil => cases hy
  | @cons x y' xs ys hhead _ ih =>
    rcases List.mem_cons.1 hy with rfl | hmem
    · exact ⟨x, List.mem_cons_self, hhead⟩
    · obtain ⟨x', hx', hresult⟩ := ih hmem
      exact ⟨x', List.mem_cons_of_mem x hx', hresult⟩

/-- The results on a list are those on its elements, and no others. -/
lemma mem_iff_of_mapM {ε α β : Type} {f : α → Except ε β} {xs : List α} {ys : List β} (h : xs.mapM f = .ok ys)
    {y : β} : y ∈ ys ↔ ∃ x ∈ xs, f x = .ok y := by
  refine ⟨fun hy => exists_of_mem_of_mapM h hy, ?_⟩
  intro ⟨x, hx, hy⟩
  have hresults := mapM_eq_ok_iff.1 h
  clear h
  induction hresults with
  | nil => cases hx
  | @cons x' y' xs ys hhead _ ih =>
    rcases List.mem_cons.1 hx with rfl | hmem
    · cases hhead.symm.trans hy
      exact List.mem_cons_self
    · exact List.mem_cons_of_mem y' (ih hmem)

/-- Functions that agree on the elements of a list and their results agree on the lists. -/
lemma map_eq_of_mapM {ε α β γ : Type} {f : α → Except ε β} {g : β → γ} {k : α → γ} {xs : List α} {ys : List β}
    (h : xs.mapM f = .ok ys) (hg : ∀ x y, f x = .ok y → g y = k x) : ys.map g = xs.map k := by
  have hresults : List.Forall₂ (fun y x => g y = k x) ys xs := ((mapM_eq_ok_iff.1 h).imp hg).flip
  have hmapped : List.Forall₂ Eq (ys.map g) (xs.map k) :=
    List.forall₂_map_left_iff.2 (List.forall₂_map_right_iff.2 hresults)
  rwa [List.forall₂_eq_eq_eq] at hmapped

/-- The order of a list matters for the order of the results only. -/
lemma exists_perm_of_mapM {ε α β : Type} {f : α → Except ε β} {xs xs' : List α} {ys : List β}
    (h : xs.mapM f = .ok ys) (hperm : xs'.Perm xs) : ∃ ys', xs'.mapM f = .ok ys' ∧ ys'.Perm ys := by
  obtain ⟨ys', hresults, hperm'⟩ := List.perm_comp_forall₂ hperm (mapM_eq_ok_iff.1 h)
  exact ⟨ys', mapM_eq_ok_iff.2 hresults, hperm'⟩

end ClassStub
