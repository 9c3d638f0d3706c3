import ClassStub.FileTree.Resolve
import ClassStub.Proofs.FileTree.Changes
import ClassStub.Proofs.Path

/-!
# Where paths lead

`Walks` says by rules how a path is walked that leads somewhere, with a rule for each kind of segment and of node on
the way; `walk_eq_ok_iff` ties it to the function. From the rules follows what the rest of the theory needs of paths:
a path that leads to a node goes on leading there while the tree is only added to, a path is walked along its front
and then along its end, and names below a directory without links are the steps down from it.
-/

namespace ClassStub.FileTree

/-- A segment that a walk looks up as a name. -/
structure IsStep (name : String) : Prop where
  ne_empty : name ≠ ""
  ne_here : name ≠ "."
  ne_above : name ≠ ".."
  short : name.utf8ByteSize ≤ maxName

/-- A walk that leads to a place, with the number of links that it may still follow. -/
inductive Walks (tree : FileTree) (follow : Bool) : Nat → Location → List String → Place → Prop where
  | done {links here} : Walks tree follow links here [] (.node here .directory)
  | idle {links here name rest place} :
    name = "" ∨ name = "." →
    Walks tree follow links here rest place →
    Walks tree follow links here (name :: rest) place
  | above {links here rest place} :
    Walks tree follow links here.dropLast rest place →
    Walks tree follow links here (".." :: rest) place
  | vacant {links here name rest} :
    IsStep name →
    tree.get? (here ++ [name]) = none →
    rest.all (· == "") = true →
    Walks tree follow links here (name :: rest) (.vacant (here ++ [name]) (rest ≠ []))
  | directory {links here name rest place} :
    IsStep name →
    tree.get? (here ++ [name]) = some .directory →
    Walks tree follow links (here ++ [name]) rest place →
    Walks tree follow links here (name :: rest) place
  | file {links here name content} :
    IsStep name →
    tree.get? (here ++ [name]) = some (.file content) →
    Walks tree follow links here [name] (.node (here ++ [name]) (.file content))
  | link {links here name target} :
    IsStep name →
    tree.get? (here ++ [name]) = some (.link target) →
    follow = false →
    Walks tree follow links here [name] (.node (here ++ [name]) (.link target))
  | through {links here name rest target place} :
    IsStep name →
    tree.get? (here ++ [name]) = some (.link target) →
    rest ≠ [] ∨ follow = true →
    Walks tree follow links (if target.isAbsolute then [] else here) (names target ++ rest) place →
    Walks tree follow (links + 1) here (name :: rest) place

section

variable {tree : FileTree} {follow : Bool} {links : Nat} {here : Location} {place : Place}

/-- At a name, a walk goes on by what is there under that name. -/
lemma walkAlong_step {onLink : Location → List String → Except FileError Place} {name : String} {rest : List String}
    (h : IsStep name) :
    tree.walkAlong follow onLink here (name :: rest) =
      match tree.get? (here ++ [name]) with
      | none =>
        if rest.all (· == "") then .ok (.vacant (here ++ [name]) (rest ≠ [])) else .error .missing
      | some .directory => tree.walkAlong follow onLink (here ++ [name]) rest
      | some (.file content) =>
        if rest = [] then .ok (.node (here ++ [name]) (.file content)) else .error .notDirectory
      | some (.link target) =>
        if rest = [] ∧ !follow then .ok (.node (here ++ [name]) (.link target))
        else onLink (if target.isAbsolute then [] else here) (names target ++ rest) := by
  have hidle : ¬ (name = "" ∨ name = ".") := not_or.2 ⟨h.ne_empty, h.ne_here⟩
  have hlong : ¬ maxName < name.utf8ByteSize := Nat.not_lt.2 h.short
  rw [walkAlong]
  exact (if_neg hidle).trans ((if_neg h.ne_above).trans (if_neg hlong))

/-- How a walk goes on behind a link. -/
def behindLink (tree : FileTree) (follow : Bool) : (links : Nat) → Location → List String → Except FileError Place
  | 0 => fun _ _ => .error .linkLoop
  | links + 1 => tree.walk follow links

/-- Walking is walking along the segments up to the first link, and on from what the link names. -/
lemma walk_eq_walkAlong : tree.walk follow links = tree.walkAlong follow (tree.behindLink follow links) := by
  cases links <;> rfl

/-- The function finds the place that the rules lead to. -/
lemma Walks.walk_eq {segments : List String} (h : Walks tree follow links here segments place) :
    tree.walk follow links here segments = .ok place := by
  rw [walk_eq_walkAlong]
  induction h with
  | done => rfl
  | idle hidle _ ih => rwa [walkAlong, if_pos hidle]
  | above _ ih => rwa [walkAlong, if_neg (by decide), if_pos rfl]
  | vacant hstep hget hrest =>
    rw [walkAlong_step hstep, hget]
    simp only [hrest, if_true]
  | directory hstep hget _ ih => rwa [walkAlong_step hstep, hget]
  | file hstep hget =>
    rw [walkAlong_step hstep, hget]
    rfl
  | link hstep hget hfollow =>
    rw [walkAlong_step hstep, hget, hfollow]
    rfl
  | @through links here name rest target place hstep hget hgoes _ ih =>
    have hgoes' : ¬ (rest = [] ∧ (!follow) = true) := by
      rintro ⟨hrest, hfollow⟩
      rcases hgoes with hne | hfollow'
      · exact hne hrest
      · simp [hfollow'] at hfollow
    rw [walkAlong_step hstep, hget]
    simp only [if_neg hgoes', behindLink]
    rwa [walk_eq_walkAlong]

/-- What a walk along segments finds the rules lead to, if what it finds behind links they do. -/
lemma walks_of_walkAlong {onLink : Location → List String → Except FileError Place} {segments : List String}
    (honLink : ∀ {here segments place}, onLink here segments = .ok place →
      ∃ fewer, links = fewer + 1 ∧ Walks tree follow fewer here segments place)
    (h : tree.walkAlong follow onLink here segments = .ok place) : Walks tree follow links here segments place := by
  induction segments generalizing here with
  | nil =>
    cases h
    exact .done
  | cons name rest ih =>
    by_cases hidle : name = "" ∨ name = "."
    · rw [walkAlong, if_pos hidle] at h
      exact .idle hidle (ih h)
    by_cases habove : name = ".."
    · subst habove
      rw [walkAlong, if_neg hidle, if_pos rfl] at h
      exact .above (ih h)
    by_cases hlong : maxName < name.utf8ByteSize
    · rw [walkAlong, if_neg hidle, if_neg habove, if_pos hlong] at h
      cases h
    have hstep : IsStep name := ⟨(not_or.1 hidle).1, (not_or.1 hidle).2, habove, Nat.not_lt.1 hlong⟩
    rw [walkAlong_step hstep] at h
    cases hget : tree.get? (here ++ [name]) with
    | none =>
      rw [hget] at h
      dsimp only at h
      split at h
      · cases h
        exact .vacant hstep hget ‹_›
      · cases h
    | some node =>
      rw [hget] at h
      cases node with
      | directory => exact .directory hstep hget (ih h)
      | file content =>
        dsimp only at h
        split at h
        · cases h
          subst rest
          exact .file hstep hget
        · cases h
      | link target =>
        dsimp only at h
        split at h
        · rename_i hlast
          cases h
          obtain ⟨rfl, hfollow⟩ := hlast
          exact .link hstep hget (by simpa using hfollow)
        · rename_i hgoes
          obtain ⟨fewer, rfl, hwalks⟩ := honLink h
          refine .through hstep hget ?_ hwalks
          by_cases hrest : rest = []
          · exact .inr (by simpa [hrest] using hgoes)
          · exact .inl hrest

/-- The rules describe the function. -/
lemma walk_eq_ok_iff {segments : List String} :
    tree.walk follow links here segments = .ok place ↔ Walks tree follow links here segments place := by
  refine ⟨fun h => ?_, Walks.walk_eq⟩
  induction links generalizing here segments place with
  | zero =>
    refine walks_of_walkAlong ?_ h
    intro _ _ _ hlink
    cases hlink
  | succ links ih => exact walks_of_walkAlong (fun hlink => ⟨links, rfl, ih hlink⟩) h

end

/-! ### Trees that are added to -/

section

variable {before after : FileTree} {follow : Bool} {links : Nat} {here location : Location} {segments : List String}
  {place : Place}

/-- What a walk has led to stays where it is. -/
lemma Walks.keeps {node : Node} (h : Walks before follow links here segments place) (hkeeps : before.Keeps after)
    (hplace : place = .node location node) :
    ∃ node', Walks after follow links here segments (.node location node') ∧ node.Alike node' := by
  induction h with
  | done =>
    cases hplace
    exact ⟨.directory, .done, .directory⟩
  | idle hidle _ ih =>
    obtain ⟨node', hwalks, halike⟩ := ih hplace
    exact ⟨node', .idle hidle hwalks, halike⟩
  | above _ ih =>
    obtain ⟨node', hwalks, halike⟩ := ih hplace
    exact ⟨node', .above hwalks, halike⟩
  | vacant => cases hplace
  | directory hstep hget _ ih =>
    obtain ⟨node', hwalks, halike⟩ := ih hplace
    obtain ⟨_, hget', hkept⟩ := hkeeps.node hget
    cases hkept with
    | directory => exact ⟨node', .directory hstep hget' hwalks, halike⟩
  | file hstep hget =>
    cases hplace
    obtain ⟨_, hget', hkept⟩ := hkeeps.node hget
    cases hkept with
    | file _ new => exact ⟨.file new, .file hstep hget', .file _ new⟩
  | link hstep hget hfollow =>
    cases hplace
    obtain ⟨_, hget', hkept⟩ := hkeeps.node hget
    cases hkept with
    | link => exact ⟨.link _, .link hstep hget' hfollow, .link _⟩
  | through hstep hget hgoes _ ih =>
    obtain ⟨node', hwalks, halike⟩ := ih hplace
    obtain ⟨_, hget', hkept⟩ := hkeeps.node hget
    cases hkept with
    | link => exact ⟨node', .through hstep hget' hgoes hwalks, halike⟩

/-- A walk to a vacant place leads to the file that is put there. -/
lemma Walks.fill {content : Bytes} (h : Walks before follow links here segments place) (hkeeps : before.Keeps after)
    (hplace : place = .vacant location false) (hget : after.get? location = some (.file content)) :
    Walks after follow links here segments (.node location (.file content)) := by
  induction h with
  | done => cases hplace
  | idle hidle _ ih => exact .idle hidle (ih hplace)
  | above _ ih => exact .above (ih hplace)
  | @vacant _ _ _ rest hstep _ _ =>
    obtain ⟨rfl, hrest⟩ := Place.vacant.inj hplace
    obtain rfl : rest = [] := by simpa using hrest
    exact .file hstep hget
  | directory hstep hdir _ ih =>
    obtain ⟨_, hdir', hkept⟩ := hkeeps.node hdir
    cases hkept with
    | directory => exact .directory hstep hdir' (ih hplace)
  | file => cases hplace
  | link => cases hplace
  | through hstep hlink hgoes _ ih =>
    obtain ⟨_, hlink', hkept⟩ := hkeeps.node hlink
    cases hkept with
    | link => exact .through hstep hlink' hgoes (ih hplace)

end

/-! ### The ends of walks -/

section

variable {tree : FileTree} {follow : Bool} {links : Nat} {here location : Location} {segments : List String}
  {place : Place}

/-- A file that a walk leads to is in the tree. -/
lemma Walks.get?_file {content : Bytes} (h : Walks tree follow links here segments place)
    (hplace : place = .node location (.file content)) : tree.get? location = some (.file content) := by
  induction h with
  | done => cases hplace
  | idle _ _ ih => exact ih hplace
  | above _ ih => exact ih hplace
  | vacant => cases hplace
  | directory _ _ _ ih => exact ih hplace
  | file _ hget =>
    cases hplace
    exact hget
  | link => cases hplace
  | through _ _ _ _ ih => exact ih hplace

/-- At a vacant place that a walk leads to there is nothing. -/
lemma Walks.get?_vacant {slash : Bool} (h : Walks tree follow links here segments place)
    (hplace : place = .vacant location slash) : location ≠ [] ∧ tree.get? location = none := by
  induction h with
  | done => cases hplace
  | idle _ _ ih => exact ih hplace
  | above _ ih => exact ih hplace
  | vacant _ hget _ =>
    cases hplace
    exact ⟨by simp, hget⟩
  | directory _ _ _ ih => exact ih hplace
  | file => cases hplace
  | link => cases hplace
  | through _ _ _ _ ih => exact ih hplace

/-! ### Walks in two parts -/

/-- A walk that may follow more links leads to the same place. -/
lemma Walks.mono_links {links' : Nat} (h : Walks tree follow links here segments place) (hle : links ≤ links') :
    Walks tree follow links' here segments place := by
  induction h generalizing links' with
  | done => exact .done
  | idle hidle _ ih => exact .idle hidle (ih hle)
  | above _ ih => exact .above (ih hle)
  | vacant hstep hget hrest => exact .vacant hstep hget hrest
  | directory hstep hget _ ih => exact .directory hstep hget (ih hle)
  | file hstep hget => exact .file hstep hget
  | link hstep hget hfollow => exact .link hstep hget hfollow
  | through hstep hget hgoes _ ih =>
    cases links' with
    | zero => cases hle
    | succ fewer => exact .through hstep hget hgoes (ih (Nat.le_of_succ_le_succ hle))

/-- A walk to a directory goes on from there, if it needs no link for that. -/
lemma Walks.append {more : List String} {place' : Place} (h : Walks tree true links here segments place)
    (hplace : place = .node location .directory) (hmore : Walks tree true 0 location more place') :
    Walks tree true links here (segments ++ more) place' := by
  induction h with
  | done =>
    cases hplace
    exact hmore.mono_links (Nat.zero_le _)
  | idle hidle _ ih => exact .idle hidle (ih hplace)
  | above _ ih => exact .above (ih hplace)
  | vacant => cases hplace
  | directory hstep hget _ ih => exact .directory hstep hget (ih hplace)
  | file => cases hplace
  | link => cases hplace
  | through hstep hget _ _ ih =>
    rw [List.append_assoc] at ih
    exact .through hstep hget (.inr rfl) (ih hplace)

/-- The front of a walk leads to a directory, unless nothing but slashes follows and the place is vacant. -/
lemma Walks.of_append {front back : List String} (h : Walks tree true links here segments place)
    (hsegments : segments = front ++ back) (hback : back ≠ [])
    (hplace : (∃ location node, place = .node location node) ∨ ∃ segment ∈ back, segment ≠ "") :
    ∃ left middle, Walks tree true links here front (.node middle .directory) ∧
      Walks tree true left middle back place := by
  induction h generalizing front with
  | done => exact absurd (List.append_eq_nil_iff.1 hsegments.symm).2 hback
  | @idle links here name rest place hidle hrest ih =>
    cases front with
    | nil =>
      obtain rfl : name :: rest = back := hsegments
      exact ⟨links, here, .done, .idle hidle hrest⟩
    | cons first front =>
      obtain ⟨rfl, rfl⟩ := List.cons.inj hsegments
      obtain ⟨left, middle, hfront, hwalks⟩ := ih rfl hplace
      exact ⟨left, middle, .idle hidle hfront, hwalks⟩
  | @above links here rest place hrest ih =>
    cases front with
    | nil =>
      obtain rfl : ".." :: rest = back := hsegments
      exact ⟨links, here, .done, .above hrest⟩
    | cons first front =>
      obtain ⟨rfl, rfl⟩ := List.cons.inj hsegments
      obtain ⟨left, middle, hfront, hwalks⟩ := ih rfl hplace
      exact ⟨left, middle, .above hfront, hwalks⟩
  | @vacant links here name rest hstep hget hrest =>
    cases front with
    | nil =>
      obtain rfl : name :: rest = back := hsegments
      exact ⟨links, here, .done, .vacant hstep hget hrest⟩
    | cons first front =>
      obtain ⟨rfl, rfl⟩ := List.cons.inj hsegments
      rcases hplace with ⟨_, _, hnode⟩ | ⟨segment, hmem, hne⟩
      · cases hnode
      · have hempty := List.all_eq_true.1 hrest segment (List.mem_append_right front hmem)
        exact absurd (beq_iff_eq.1 hempty) hne
  | @directory links here name rest place hstep hget hrest ih =>
    cases front with
    | nil =>
      obtain rfl : name :: rest = back := hsegments
      exact ⟨links, here, .done, .directory hstep hget hrest⟩
    | cons first front =>
      obtain ⟨rfl, rfl⟩ := List.cons.inj hsegments
      obtain ⟨left, middle, hfront, hwalks⟩ := ih rfl hplace
      exact ⟨left, middle, .directory hstep hget hfront, hwalks⟩
  | @file links here name content hstep hget =>
    cases front with
    | nil =>
      obtain rfl : [name] = back := hsegments
      exact ⟨links, here, .done, .file hstep hget⟩
    | cons first front =>
      obtain ⟨rfl, hrest⟩ := List.cons.inj hsegments
      exact absurd (List.append_eq_nil_iff.1 hrest.symm).2 hback
  | link _ _ hfollow => cases hfollow
  | @through links here name rest target place hstep hget _ hrest ih =>
    cases front with
    | nil =>
      obtain rfl : name :: rest = back := hsegments
      exact ⟨links + 1, here, .done, .through hstep hget (.inr rfl) hrest⟩
    | cons first front =>
      obtain ⟨rfl, rfl⟩ := List.cons.inj hsegments
      obtain ⟨left, middle, hfront, hwalks⟩ := ih (List.append_assoc _ _ _).symm hplace
      exact ⟨left, middle, .through hstep hget (.inr rfl) hfront, hwalks⟩

/-- Where there are no links below, names are the steps down. -/
lemma Walks.location_eq {names : List String} {node : Node}
    (h : Walks tree follow links here names (.node location node)) (hnames : ∀ name ∈ names, Path.IsName name)
    (hlinks : ∀ below target, tree.get? (here ++ below) ≠ some (.link target)) : location = here ++ names := by
  induction names generalizing here with
  | nil =>
    cases h with
    | done => rw [List.append_nil]
  | cons name names ih =>
    rw [List.forall_mem_cons] at hnames
    cases h with
    | idle hidle _ => exact absurd hidle (not_or.2 ⟨hnames.1.ne_empty, hnames.1.ne_here⟩)
    | above _ => exact absurd rfl hnames.1.ne_above
    | directory _ _ hrest =>
      have hbelow : ∀ below target, tree.get? (here ++ [name] ++ below) ≠ some (.link target) := by
        intro below target
        rw [List.append_assoc]
        exact hlinks _ target
      rw [ih hrest hnames.2 hbelow, List.append_assoc, List.singleton_append]
    | file => rfl
    | link _ hget _ => exact absurd hget (hlinks _ _)
    | through _ hget _ _ => exact absurd hget (hlinks _ _)

end

end ClassStub.FileTree
