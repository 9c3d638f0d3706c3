import Mathlib.Data.List.Forall2
import ClassStub.Command.Run

/-!
# What holds after a run

`Run.Triple` says what holds after a part of a run, from what holds before it: of the result and the session when it
comes to its end, of the fatal error and the session when it does not. There is one rule for each way to put runs
together; the rule for lists keeps an invariant of the session and relates each result to what it was made from.
-/

namespace ClassStub.Command.Run

variable {α β : Type}

/-- From a session with `Before`, the run leads to a result with `After` or to a fatal error with `Ended`. -/
structure Triple (Before : Session → Prop) (run : Run α) (After : α → Session → Prop)
    (Ended : Fatal → Session → Prop) : Prop where
  of_before : ∀ s, Before s →
    match run.run.run s with
    | (.ok a, t) => After a t
    | (.error fatal, t) => Ended fatal t

section

variable {Before : Session → Prop} {After : α → Session → Prop} {Ended : Fatal → Session → Prop}

/-- A result that is there already leads to the session as it was. -/
lemma Triple.pure {a : α} (h : ∀ s, Before s → After a s) : Triple Before (pure a) After Ended :=
  ⟨h⟩

/-- A change of the session leads to the changed session. -/
lemma Triple.modify {After : Unit → Session → Prop} {g : Session → Session} (h : ∀ s, Before s → After () (g s)) :
    Triple Before (modify g) After Ended :=
  ⟨h⟩

/-- Looking at the files leads to the session as it was. -/
lemma Triple.files {After : FileTree → Session → Prop} (h : ∀ s, Before s → After s.files s) :
    Triple Before files After Ended :=
  ⟨h⟩

/-- A result that is an error ends the run. -/
lemma Triple.orFail {ε : Type} {fatal : ε → Fatal} {result : Except ε α}
    (hok : ∀ a s, result = .ok a → Before s → After a s)
    (herror : ∀ e s, result = .error e → Before s → Ended (fatal e) s) :
    Triple Before (orFail fatal result) After Ended := by
  cases result with
  | ok a => exact ⟨fun s => hok a s rfl⟩
  | error e => exact ⟨fun s => herror e s rfl⟩

/-- What is known apart from the session can be used to show what a run does. -/
lemma Triple.of_fact {fact : Prop} {run : Run α} (h : fact → Triple Before run After Ended) :
    Triple (fun s => fact ∧ Before s) run After Ended where
  of_before s hs := (h hs.1).of_before s hs.2

/-- Less can be said of what a run leads to. -/
lemma Triple.mono {run : Run α} {After' : α → Session → Prop} (hrun : Triple Before run After Ended)
    (h : ∀ a t, After a t → After' a t) : Triple Before run After' Ended := by
  constructor
  intro s hs
  have hafter := hrun.of_before s hs
  rcases hsplit : run.run.run s with ⟨result, t⟩
  rw [hsplit] at hafter
  cases result with
  | ok a => exact h a t hafter
  | error fatal => exact hafter

/-- Less can be said of what a run that comes to an early end leads to. -/
lemma Triple.monoEnd {run : Run α} {Ended' : Fatal → Session → Prop} (hrun : Triple Before run After Ended)
    (h : ∀ fatal t, Ended fatal t → Ended' fatal t) : Triple Before run After Ended' := by
  constructor
  intro s hs
  have hafter := hrun.of_before s hs
  rcases hsplit : run.run.run s with ⟨result, t⟩
  rw [hsplit] at hafter
  cases result with
  | ok a => exact hafter
  | error fatal => exact h fatal t hafter

/-- What a run that comes to an early end leads to can be left open. -/
lemma Triple.anyEnd {run : Run α} (hrun : Triple Before run After Ended) :
    Triple Before run After fun _ _ => True :=
  hrun.monoEnd fun _ _ _ => trivial

/-- What holds after the first run holds before the second. -/
lemma Triple.bind {run : Run β} {next : β → Run α} {Between : β → Session → Prop}
    (hrun : Triple Before run Between Ended) (hnext : ∀ b, Triple (Between b) (next b) After Ended) :
    Triple Before (run >>= next) After Ended := by
  constructor
  intro s hs
  have hfirst := hrun.of_before s hs
  rw [ExceptT.run_bind, StateT.run_bind]
  rcases hsplit : run.run.run s with ⟨result, t⟩
  rw [hsplit] at hfirst
  cases result with
  | ok b => exact (hnext b).of_before t hfirst
  | error fatal => exact hfirst

/-- Creating directories changes the files, whether all of them can be created or not. -/
lemma Triple.makeDirectories {p : Path} {After : Unit → Session → Prop}
    (hok : ∀ s, Before s → After () { s with files := (s.files.makeDirectories p).2 })
    (herror : ∀ s e, Before s → Ended (.createDirectory p e) { s with files := (s.files.makeDirectories p).2 }) :
    Triple Before (Run.makeDirectories p) After Ended := by
  constructor
  intro s hs
  have hrun : (Run.makeDirectories p).run.run s =
      (Run.orFail (.createDirectory p) (s.files.makeDirectories p).1).run.run
        { s with files := (s.files.makeDirectories p).2 } := rfl
  rw [hrun]
  cases (s.files.makeDirectories p).1 with
  | ok => exact hok s hs
  | error e => exact herror s e hs

/-- Writing a file leads to the session with the file, or ends the run as it is. -/
lemma Triple.writeFile {p : Path} {text : String} {After : Unit → Session → Prop}
    (hok : ∀ s t, Before s → s.writeFile p text = .ok t → After () t)
    (herror : ∀ s e, Before s → Ended (.writeFile p e) s) :
    Triple Before (Run.writeFile p text) After Ended := by
  constructor
  intro s hs
  have hrun : (Run.writeFile p text).run.run s =
      (Run.orFail (.writeFile p) (s.writeFile p text) >>= fun t => set t).run.run s := rfl
  rw [hrun]
  cases hwrite : s.writeFile p text with
  | ok t => exact hok s t hs hwrite
  | error e => exact herror s e hs

/-- What a run that comes to its end leads to. -/
lemma Triple.of_run {run : Run α} (hrun : Triple Before run After Ended) {a : α} {s t : Session}
    (h : run.run.run s = (.ok a, t)) (hs : Before s) : After a t := by
  have hafter := hrun.of_before s hs
  rwa [h] at hafter

/-- What a run that comes to an early end leads to. -/
lemma Triple.of_run_error {run : Run α} (hrun : Triple Before run After Ended) {fatal : Fatal} {s t : Session}
    (h : run.run.run s = (.error fatal, t)) (hs : Before s) : Ended fatal t := by
  have hended := hrun.of_before s hs
  rwa [h] at hended

/-- A run on each element of a list keeps an invariant, and each result stands in a relation to its element. -/
lemma Triple.mapM {xs : List β} {f : β → Run α} {Related : β → α → Prop} {Invariant : Session → Prop}
    (h : ∀ x ∈ xs, Triple Invariant (f x) (fun a t => Related x a ∧ Invariant t) Ended) :
    Triple Invariant (xs.mapM f) (fun as t => List.Forall₂ Related xs as ∧ Invariant t) Ended := by
  induction xs with
  | nil =>
    rw [List.mapM_nil]
    exact Triple.pure fun s hs => ⟨.nil, hs⟩
  | cons x xs ih =>
    rw [List.forall_mem_cons] at h
    rw [List.mapM_cons]
    refine h.1.bind fun a => Triple.of_fact fun ha => ?_
    refine (ih h.2).bind fun as => Triple.pure ?_
    rintro s ⟨has, hs⟩
    exact ⟨.cons ha has, hs⟩

/-- What each run adds to the results so far, the runs on a list add one after the other. -/
lemma Triple.mapM_append {γ : Type} {xs : List β} {f : β → Run α} {parts : α → List γ}
    {Made : List γ → Session → Prop}
    (h : ∀ x ∈ xs, ∀ made, Triple (Made made) (f x) (fun a t => Made (made ++ parts a) t) Ended) (made : List γ) :
    Triple (Made made) (xs.mapM f) (fun as t => Made (made ++ as.flatMap parts) t) Ended := by
  induction xs generalizing made with
  | nil =>
    rw [List.mapM_nil]
    refine Triple.pure fun s hs => ?_
    rwa [List.flatMap_nil, List.append_nil]
  | cons x xs ih =>
    rw [List.forall_mem_cons] at h
    rw [List.mapM_cons]
    refine (h.1 made).bind fun a => ?_
    refine (ih h.2 (made ++ parts a)).bind fun as => Triple.pure ?_
    intro s hs
    rwa [List.flatMap_cons, ← List.append_assoc]

end

/-- Writing a stub creates directories and then writes a file. What the directories keep holds when it is written, and
also when it cannot be. -/
lemma triple_writeStub {dir : Path} {source : SourceFile} {Before : Session → Prop} {After : Path → Session → Prop}
    (hmake : ∀ s parent, Before s → Before { s with files := (s.files.makeDirectories parent).2 })
    (hwrite : ∀ s t, Before s → s.writeFile (dir.join source.relativePath) source.text = .ok t →
      After (dir.join source.relativePath) t) :
    Triple Before (writeStub dir source) After fun _ t => Before t := by
  have hwritten : Triple Before (Run.writeFile (dir.join source.relativePath) source.text)
      (fun _ => After (dir.join source.relativePath)) fun _ t => Before t :=
    .writeFile hwrite fun _ _ hs => hs
  have hmade : ∀ parent, Triple Before (Run.makeDirectories parent) (fun _ => Before) fun _ t => Before t :=
    fun parent => .makeDirectories (fun s hs => hmake s parent hs) fun s _ hs => hmake s parent hs
  unfold writeStub
  dsimp only
  split
  · rename_i parent _
    exact (hmade parent).bind fun _ => hwritten.bind fun _ => .pure fun _ hs => hs
  · exact hwritten.bind fun _ => .pure fun _ hs => hs

/-- Two runs come to an end when the first one does and the second one does from there. -/
lemma run_bind_eq_ok_iff {run : Run β} {next : β → Run α} {a : α} {s u : Session} :
    (run >>= next).run.run s = (.ok a, u) ↔
      ∃ b t, run.run.run s = (.ok b, t) ∧ (next b).run.run t = (.ok a, u) := by
  rw [ExceptT.run_bind, StateT.run_bind]
  rcases hsplit : run.run.run s with ⟨result, t⟩
  cases result with
  | ok b =>
    constructor
    · intro h
      exact ⟨b, t, rfl, h⟩
    · rintro ⟨b', t', h, hnext⟩
      cases h
      exact hnext
  | error fatal =>
    constructor
    · intro h
      cases h
    · rintro ⟨b', t', h, -⟩
      cases h

/-- A result comes to its end exactly if it is none of the errors. -/
lemma run_orFail_eq_ok_iff {ε : Type} {fatal : ε → Fatal} {result : Except ε α} {a : α} {s t : Session} :
    (orFail fatal result).run.run s = (.ok a, t) ↔ result = .ok a ∧ s = t := by
  cases result with
  | ok b =>
    constructor
    · intro h
      cases h
      exact ⟨rfl, rfl⟩
    · rintro ⟨h, rfl⟩
      cases h
      rfl
  | error e =>
    constructor
    · intro h
      cases h
    · rintro ⟨h, -⟩
      cases h

/-- Two runs come to an early end when the first one does, or when the second one does from where the first one ended. -/
lemma run_bind_eq_error_iff {run : Run β} {next : β → Run α} {fatal : Fatal} {s u : Session} :
    (run >>= next).run.run s = (.error fatal, u) ↔
      run.run.run s = (.error fatal, u) ∨
        ∃ b t, run.run.run s = (.ok b, t) ∧ (next b).run.run t = (.error fatal, u) := by
  rw [ExceptT.run_bind, StateT.run_bind]
  rcases hsplit : run.run.run s with ⟨result, t⟩
  cases result with
  | ok b =>
    constructor
    · intro h
      exact .inr ⟨b, t, rfl, h⟩
    · rintro (h | ⟨b', t', h, hnext⟩)
      · cases h
      · cases h
        exact hnext
  | error fatal' =>
    constructor
    · intro h
      cases h
      exact .inl rfl
    · rintro (h | ⟨b', t', h, -⟩)
      · cases h
        rfl
      · cases h

/-- A result ends a run exactly with its error. -/
lemma run_orFail_eq_error_iff {ε : Type} {fatal : ε → Fatal} {result : Except ε α} {cause : Fatal} {s t : Session} :
    (orFail fatal result).run.run s = (.error cause, t) ↔ ∃ e, result = .error e ∧ fatal e = cause ∧ s = t := by
  cases result with
  | ok b =>
    constructor
    · intro h
      cases h
    · rintro ⟨e, h, -⟩
      cases h
  | error e =>
    constructor
    · intro h
      cases h
      exact ⟨e, rfl, rfl, rfl⟩
    · rintro ⟨e', h, rfl, rfl⟩
      cases h
      rfl

/-- The runs on a list come to an early end at one of its elements, after the runs on those before it. -/
lemma exists_of_run_mapM_eq_error {xs : List β} {f : β → Run α} {fatal : Fatal} {s t : Session}
    (h : (xs.mapM f).run.run s = (.error fatal, t)) :
    ∃ front x back as mid, xs = front ++ x :: back ∧ (front.mapM f).run.run s = (.ok as, mid) ∧
      (f x).run.run mid = (.error fatal, t) := by
  induction xs generalizing s with
  | nil => cases h
  | cons x xs ih =>
    rw [List.mapM_cons] at h
    rcases run_bind_eq_error_iff.1 h with h | ⟨a, mid, hfirst, h⟩
    · exact ⟨[], x, xs, [], s, rfl, rfl, h⟩
    · rcases run_bind_eq_error_iff.1 h with h | ⟨as, last, -, h⟩
      · obtain ⟨front, y, back, as, mid', rfl, hfront, hy⟩ := ih h
        refine ⟨x :: front, y, back, a :: as, mid', rfl, ?_, hy⟩
        rw [List.mapM_cons, run_bind_eq_ok_iff]
        exact ⟨a, mid, hfirst, run_bind_eq_ok_iff.2 ⟨as, mid', hfront, rfl⟩⟩
      · cases h

end ClassStub.Command.Run
