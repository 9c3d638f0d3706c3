import Mathlib.Data.List.Nodup
import ClassStub.Archive.Basic
import ClassStub.Proofs.Results

/-!
# The items of zip files

What is used of a zip file: no two items of it have the same name (`Zip.nodup_of_items?`), since of those that are listed
under one name the last one counts (`Zip.find?_foldl_insertItem`), and an item that is looked up by its name is opened
and read as it is at its place (`Archive.readItem_name`). The entries of items are those of the items that are taken for
classes, in their order, when all items can be opened and the classes have content.
-/

namespace ClassStub

namespace Zip

/-- An item that is put among others with different names leaves their names different. -/
lemma nodup_insertItem {known : List Item} (h : (known.map Item.name).Nodup) (item : Item) :
    ((insertItem known item).map Item.name).Nodup := by
  rw [insertItem]
  split
  -- The item takes the place of one with its name.
  · have hnames : (known.map fun old => if old.name == item.name then item else old).map Item.name =
        known.map Item.name := by
      rw [List.map_map]
      refine List.map_congr_left fun old _ => ?_
      rw [Function.comp]
      split
      · rename_i hname
        exact (beq_iff_eq.1 hname).symm
      · rfl
    rwa [hnames]
  · rename_i hnew
    rw [List.map_append, List.map_singleton, List.nodup_append]
    refine ⟨h, List.nodup_singleton _, ?_⟩
    intro name hname _ hitem
    obtain ⟨old, hold, rfl⟩ := List.mem_map.1 hname
    obtain rfl := List.mem_singleton.1 hitem
    exact fun heq => hnew (List.any_eq_true.2 ⟨old, hold, beq_iff_eq.2 heq⟩)

/-- Items that are put together one after the other have different names. -/
lemma nodup_foldl_insertItem {known : List Item} (h : (known.map Item.name).Nodup) (listed : List Item) :
    ((listed.foldl insertItem known).map Item.name).Nodup := by
  induction listed generalizing known with
  | nil => exact h
  | cons item listed ih => exact ih (nodup_insertItem h item)

/-- Where an item takes the places of those with its name, what is found under a name is what took the place of what was
found before. -/
lemma find?_map_item (known : List Item) (item : Item) (name : String) :
    ((known.map fun old => if old.name == item.name then item else old).find? fun i => i.name == name) =
      (known.find? fun i => i.name == name).map fun old => if old.name == item.name then item else old := by
  have hplace : ((fun i : Item => i.name == name) ∘ fun old => if old.name == item.name then item else old) =
      fun old => old.name == name := by
    funext old
    rw [Function.comp]
    split
    · rename_i hold
      rw [beq_iff_eq.1 hold]
    · rfl
  rw [List.find?_map, hplace]

/-- Under the name of an item, the item is found once it is put among others; other names are not concerned. -/
lemma find?_insertItem (known : List Item) (item : Item) (name : String) :
    ((insertItem known item).find? fun i => i.name == name) =
      if item.name = name then some item else known.find? fun i => i.name == name := by
  rw [insertItem]
  split
  · rename_i hknown
    obtain ⟨same, hsame, hname⟩ := List.any_eq_true.1 hknown
    rw [find?_map_item]
    cases hfirst : known.find? fun old => old.name == name with
    | none =>
      have hne : item.name ≠ name := by
        rintro rfl
        exact List.find?_eq_none.1 hfirst same hsame hname
      rw [if_neg hne, Option.map_none]
    | some old =>
      have hold : old.name = name := by simpa using List.find?_some hfirst
      rw [Option.map_some, hold]
      by_cases hname : item.name = name
      · rw [if_pos hname, if_pos (beq_iff_eq.2 hname.symm)]
      · rw [if_neg hname, if_neg fun heq => hname (beq_iff_eq.1 heq).symm]
  · rename_i hnew
    rw [List.find?_append, List.find?_singleton]
    by_cases hname : item.name = name
    · have hnone : (known.find? fun i => i.name == name) = none := by
        rw [List.find?_eq_none]
        intro old hold heq
        exact hnew (List.any_eq_true.2 ⟨old, hold, hname ▸ heq⟩)
      rw [hnone, Option.none_or, beq_iff_eq.2 hname, if_pos hname, if_pos rfl]
    · rw [if_neg hname, beq_eq_false_iff_ne.2 hname, if_neg Bool.false_ne_true, Option.or_none]

/-- Of the items that are listed under one name, the last one counts. -/
lemma find?_foldl_insertItem (listed known : List Item) (name : String) :
    ((listed.foldl insertItem known).find? fun i => i.name == name) =
      (listed.reverse.find? fun i => i.name == name).or (known.find? fun i => i.name == name) := by
  induction listed generalizing known with
  | nil => rfl
  | cons item listed ih =>
    rw [List.foldl_cons, ih, find?_insertItem, List.reverse_cons, List.find?_append, Option.or_assoc,
      List.find?_singleton]
    by_cases hname : item.name = name
    · simp [hname]
    · simp [hname]

/-- No two items of a zip file have the same name. -/
lemma nodup_of_items? {file : Bytes} {items : List Item} (h : items? file = some items) :
    (items.map Item.name).Nodup := by
  obtain ⟨position, -, hplace⟩ := List.exists_of_findSome?_eq_some h
  obtain ⟨place, -, hdirectory⟩ := Option.bind_eq_some_iff.1 hplace
  obtain ⟨-, -, hlisted⟩ := Option.bind_eq_some_iff.1 hdirectory
  obtain ⟨listed, -, hitems⟩ := Option.bind_eq_some_iff.1 hlisted
  obtain rfl := Option.some.inj hitems
  have hnone : (([] : List Item).map Item.name).Nodup := List.nodup_nil
  exact nodup_foldl_insertItem hnone listed

end Zip

namespace Archive

/-- The item does not keep the listing from coming to an end: it can be opened, and if it is taken for a class, it has
content. -/
def IsListable (item : Zip.Item) : Prop :=
  item.isReadable = true ∧ (isClassItem item = true → ∃ bytes, item.content = .ok bytes)

/-- The entry of an item, if it is taken for a class. -/
def entryOf? (item : Zip.Item) : Option Entry :=
  if isClassItem item then item.content.toOption.map (Entry.mk item.name) else none

section

variable {a : Archive} {item : Zip.Item} {items : List Zip.Item}

/-- Where the content of an item can be read, it is the content. -/
lemma itemContent_eq_ok_iff {bytes : Bytes} : a.itemContent item = .ok bytes ↔ item.content = .ok bytes :=
  mapError_eq_ok_iff

/-- An item is opened exactly if it can be. -/
lemma openItem_eq_ok_iff : a.openItem item = .ok () ↔ item.isReadable = true := by
  rw [openItem]
  split
  · rename_i h
    exact ⟨fun _ => h, fun _ => rfl⟩
  · rename_i h
    exact ⟨nofun, fun h' => absurd h' h⟩

/-- An item gives its entry exactly if it is listable. -/
lemma itemEntry?_eq_ok_iff {entry : Option Entry} :
    a.itemEntry? item = .ok entry ↔ IsListable item ∧ entry = entryOf? item := by
  unfold itemEntry?
  rw [bind_eq_ok_iff, IsListable, entryOf?]
  constructor
  · rintro ⟨⟨⟩, hopen, h⟩
    refine and_assoc.2 ⟨openItem_eq_ok_iff.1 hopen, ?_⟩
    by_cases hclass : isClassItem item = true
    · rw [if_pos hclass] at h ⊢
      obtain ⟨bytes, hbytes, h⟩ := bind_eq_ok_iff.1 h
      obtain rfl := Except.ok.inj h
      rw [itemContent_eq_ok_iff.1 hbytes]
      exact ⟨fun _ => ⟨bytes, rfl⟩, rfl⟩
    · rw [if_neg hclass] at h ⊢
      obtain rfl := Except.ok.inj h
      exact ⟨fun h => absurd h hclass, rfl⟩
  · rintro ⟨⟨hopen, hcontent⟩, rfl⟩
    refine ⟨(), openItem_eq_ok_iff.2 hopen, ?_⟩
    split
    · rename_i hclass
      obtain ⟨bytes, hbytes⟩ := hcontent hclass
      rw [hbytes]
      exact bind_eq_ok_iff.2 ⟨bytes, itemContent_eq_ok_iff.2 hbytes, rfl⟩
    · rfl

/-- Items give entries exactly if all are listable: those of the items that are taken for classes, in their order. -/
lemma itemEntries_eq_ok_iff {found : List Entry} :
    a.itemEntries items = .ok found ↔ (∀ item ∈ items, IsListable item) ∧ found = items.filterMap entryOf? := by
  induction items generalizing found with
  | nil => exact ⟨fun h => ⟨nofun, (Except.ok.inj h).symm⟩, fun h => h.2 ▸ rfl⟩
  | cons item items ih =>
    rw [itemEntries, bind_eq_ok_iff, List.forall_mem_cons]
    constructor
    · rintro ⟨first, hfirst, h⟩
      obtain ⟨others, hothers, h⟩ := bind_eq_ok_iff.1 h
      obtain ⟨hitem, rfl⟩ := itemEntry?_eq_ok_iff.1 hfirst
      obtain ⟨hitems, rfl⟩ := ih.1 hothers
      obtain rfl := Except.ok.inj h
      refine ⟨⟨hitem, hitems⟩, ?_⟩
      rw [List.filterMap_cons]
      cases entryOf? item <;> rfl
    · rintro ⟨⟨hitem, hitems⟩, rfl⟩
      refine ⟨_, itemEntry?_eq_ok_iff.2 ⟨hitem, rfl⟩, bind_eq_ok_iff.2 ⟨_, ih.2 ⟨hitems, rfl⟩, ?_⟩⟩
      rw [List.filterMap_cons]
      cases entryOf? item <;> rfl

/-- The entry of an item that is taken for a class has its name and content. -/
lemma entryOf?_eq_some_iff {entry : Entry} :
    entryOf? item = some entry ↔
      isClassItem item = true ∧ item.name = entry.name ∧ item.content = .ok entry.bytes := by
  rw [entryOf?]
  split
  · rename_i hclass
    cases item.content with
    | error fault => exact ⟨nofun, fun h => nomatch h.2.2⟩
    | ok content =>
      constructor
      · intro h
        cases h
        exact ⟨hclass, rfl, rfl⟩
      · rintro ⟨-, hname, hcontent⟩
        cases hcontent
        rw [hname]
        rfl
  · rename_i hclass
    exact ⟨nofun, fun h => absurd h.1 hclass⟩

/-- No two items of an input have the same name. -/
lemma nodup_of_zipItems {tree : FileTree} (h : a.zipItems tree = .ok items) : (items.map Zip.Item.name).Nodup := by
  obtain ⟨file, -, h⟩ := bind_eq_ok_iff.1 h
  split at h
  · rename_i listed hlisted
    obtain rfl := Except.ok.inj h
    exact Zip.nodup_of_items? hlisted
  · cases h

/-- An item that is looked up by its name is opened and read as it is at its place. -/
lemma readItem_name (hnodup : (items.map Zip.Item.name).Nodup) (hitem : item ∈ items) :
    a.readItem item.name items = (do a.openItem item; return some (← a.itemContent item)) := by
  have hfind : items.find? (fun other => other.name == item.name) = some item := by
    cases hfirst : items.find? fun other => other.name == item.name with
    | none => exact absurd (beq_self_eq_true item.name) (List.find?_eq_none.1 hfirst item hitem)
    | some first =>
      have hname : first.name = item.name := by simpa using List.find?_some hfirst
      rw [List.inj_on_of_nodup_map hnodup (List.mem_of_find?_eq_some hfirst) hitem hname]
  rw [readItem, hfind]

/-- An item that can be opened and has content is found by its name. -/
lemma readItem_of_mem {bytes : Bytes} (hnodup : (items.map Zip.Item.name).Nodup) (hitem : item ∈ items)
    (hreadable : item.isReadable = true) (hcontent : item.content = .ok bytes) :
    a.readItem item.name items = .ok (some bytes) := by
  rw [readItem_name hnodup hitem]
  refine bind_eq_ok_iff.2 ⟨(), openItem_eq_ok_iff.2 hreadable, ?_⟩
  exact bind_eq_ok_iff.2 ⟨bytes, itemContent_eq_ok_iff.2 hcontent, rfl⟩

end

end Archive

end ClassStub
