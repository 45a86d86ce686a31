import PackageIndex.Proofs.Manifest.Entry

/-!
# The order of insertions

What a run of insertions registers depends on what it names alone. Entries and classes may come to
stand in another order when the insertions do; but the files are the same, each with the same
classes, and together the insertions add as many.
-/
namespace PackageIndex

namespace ManifestEntry

/-- Up to the order of the new classes, a union depends on what is among them. -/
theorem perm_union {one two : List QualifiedName} (alike : ∀ name, name ∈ one ↔ name ∈ two)
    (classes : List QualifiedName) : (union classes one).Perm (union classes two) := by
  rw [union_eq_append_fresh, union_eq_append_fresh]
  apply List.Perm.append_left
  rw [List.perm_ext_iff_of_nodup (nodup_fresh ..) (nodup_fresh ..)]
  intro name
  rw [mem_fresh, mem_fresh, alike]

end ManifestEntry

namespace Manifest

variable {file other : RelativePath} {name : QualifiedName} {classes : List QualifiedName}

/-! ## Files and classes after a run -/

theorem mem_files_insert {manifest : Manifest} :
    other ∈ (manifest.insert file classes).1.entries.map ManifestEntry.file ↔
      other ∈ manifest.entries.map ManifestEntry.file ∨ file = other := by
  have files := files_insertInto file classes manifest.entries
  rw [insert, files]
  split
  · next listed =>
    constructor
    · exact .inl
    · rintro (mem | rfl)
      · exact mem
      · exact listed
  · rw [List.mem_append, List.mem_singleton, eq_comm (a := other)]

/-- After a run there are the files that were there and those of its calls. -/
theorem mem_files_insertAll {manifest : Manifest} {calls : List Insertion} :
    file ∈ (manifest.insertAll calls).entries.map ManifestEntry.file ↔
      file ∈ manifest.entries.map ManifestEntry.file ∨ ∃ call ∈ calls, call.file = file := by
  induction calls generalizing manifest with
  | nil => simp
  | cons call calls ih =>
    rw [insertAll_cons, ih, mem_files_insert, or_assoc]
    simp

/-- An insertion adds to the classes of its file alone. -/
theorem classesOf_insertInto (file other : RelativePath) (classes : List QualifiedName)
    (entries : List ManifestEntry) :
    classesOf other (insertInto file classes entries).1 =
      if file = other then ManifestEntry.union (classesOf other entries) classes
      else classesOf other entries := by
  induction entries with
  | nil =>
    by_cases mine : file = other
    · simp [insertInto, classesOf_cons_same, mine]
    · simp [insertInto, classesOf_cons_other, mine]
  | cons entry entries ih =>
    by_cases same : entry.file = file
    · rw [insertInto_cons_same same]
      by_cases mine : file = other
      · rw [if_pos mine, classesOf_cons_same mine, classesOf_cons_same (same.trans mine)]
      · rw [if_neg mine, classesOf_cons_other mine, classesOf_cons_other (same ▸ mine)]
    · rw [insertInto_cons_other same]
      by_cases here : entry.file = other
      · have apart : file ≠ other := fun h => same (here.trans h.symm)
        rw [if_neg apart, classesOf_cons_same here, classesOf_cons_same here]
      · rw [classesOf_cons_other here, classesOf_cons_other here, ih]

/-- A run adds to the classes of a file all that it names for the file. -/
theorem classesOf_insertAll (manifest : Manifest) (calls : List Insertion) (file : RelativePath) :
    classesOf file (manifest.insertAll calls).entries =
      ManifestEntry.union (classesOf file manifest.entries)
        ((calls.filter fun call => call.file = file).flatMap Insertion.classes) := by
  induction calls generalizing manifest with
  | nil => rfl
  | cons call calls ih =>
    rw [insertAll_cons, ih, insert, classesOf_insertInto]
    by_cases same : call.file = file
    · simp [same, ManifestEntry.union_append]
    · simp [same]

/-! ## Counts -/

/-- How many classes the insertions of a run add, as they tell. -/
def addedBy : Manifest → List Insertion → Nat
  | _, [] => 0
  | manifest, call :: calls =>
    let (after, added) := manifest.insert call.file call.classes
    added + after.addedBy calls

/-- A run adds as many listings as its calls count. -/
theorem listings_insertAll (manifest : Manifest) (calls : List Insertion) :
    listings (manifest.insertAll calls).entries =
      listings manifest.entries + manifest.addedBy calls := by
  induction calls generalizing manifest with
  | nil => rfl
  | cons call calls ih =>
    have grows : listings (manifest.insert call.file call.classes).1.entries =
        listings manifest.entries + (manifest.insert call.file call.classes).2 :=
      listings_insertInto ..
    rw [insertAll_cons, ih, addedBy, ← Nat.add_assoc, grows]

theorem classesOf_of_mem {entries : List ManifestEntry}
    (distinct : (entries.map ManifestEntry.file).Nodup) {entry : ManifestEntry}
    (mem : entry ∈ entries) : classesOf entry.file entries = entry.classes := by
  induction entries with
  | nil => cases mem
  | cons first entries ih =>
    obtain ⟨apart, distinct⟩ := List.nodup_cons.mp distinct
    rcases List.mem_cons.mp mem with rfl | later
    · exact classesOf_cons_same rfl
    · have other : first.file ≠ entry.file := by
        intro same
        exact apart (same ▸ List.mem_map_of_mem later)
      rw [classesOf_cons_other other, ih distinct later]

/-- The listings of a manifest are counted file by file. -/
theorem listings_eq (manifest : Manifest) :
    listings manifest.entries =
      ((manifest.entries.map ManifestEntry.file).map fun file =>
        (classesOf file manifest.entries).length).sum := by
  rw [listings, List.map_map]
  congr 1
  apply List.map_congr_left
  intro entry mem
  rw [Function.comp_apply, classesOf_of_mem manifest.distinct mem]

/-! ## Runs that name the same -/

/-- Two runs name the same files, and the same classes for each of them. -/
structure Alike (calls others : List Insertion) : Prop where
  files : ∀ file, (∃ call ∈ calls, call.file = file) ↔ ∃ call ∈ others, call.file = file
  classes : ∀ file name, (∃ call ∈ calls, call.file = file ∧ name ∈ call.classes) ↔
    ∃ call ∈ others, call.file = file ∧ name ∈ call.classes

/-- The insertions of a run in another order, with classes for one file inserted in one go or in
several. -/
inductive Rearranged : List Insertion → List Insertion → Prop
  | order {calls others : List Insertion} (moved : calls.Perm others) : Rearranged calls others
  | regroup (before after : List Insertion) (call : Insertion) (groups : List (List QualifiedName))
    (nonempty : groups ≠ []) (same : ∀ name, name ∈ call.classes ↔ ∃ group ∈ groups, name ∈ group) :
    Rearranged (before ++ call :: after) (before ++ groups.map (Insertion.mk call.file) ++ after)
  | symm {calls others : List Insertion} : Rearranged calls others → Rearranged others calls
  | trans {calls between others : List Insertion} :
    Rearranged calls between → Rearranged between others → Rearranged calls others

/-- What a call names is named by one of the calls it is divided into. -/
theorem exists_regrouped {before after : List Insertion} {call : Insertion}
    {groups : List (List QualifiedName)} {p : Insertion → Prop}
    (divided : p call ↔ ∃ group ∈ groups, p ⟨call.file, group⟩) :
    (∃ each ∈ before ++ call :: after, p each) ↔
      ∃ each ∈ before ++ groups.map (Insertion.mk call.file) ++ after, p each := by
  simp [or_and_right, exists_or, divided]

/-- Runs that are rearranged into each other name the same. -/
theorem Rearranged.alike {calls others : List Insertion} (rearranged : Rearranged calls others) :
    Alike calls others := by
  induction rearranged with
  | order moved =>
    exact ⟨fun file => by simp [moved.mem_iff], fun file name => by simp [moved.mem_iff]⟩
  | regroup before after call groups nonempty same =>
    obtain ⟨first, among⟩ := List.exists_mem_of_ne_nil _ nonempty
    constructor
    · intro file
      apply exists_regrouped
      exact ⟨fun mine => ⟨first, among, mine⟩, fun ⟨_, _, mine⟩ => mine⟩
    · intro file name
      apply exists_regrouped
      rw [same]
      constructor
      · rintro ⟨mine, group, mem, named⟩
        exact ⟨group, mem, mine, named⟩
      · rintro ⟨group, mem, mine, named⟩
        exact ⟨mine, group, mem, named⟩
  | symm _ ih =>
    exact ⟨fun file => (ih.files file).symm, fun file name => (ih.classes file name).symm⟩
  | trans _ _ first second =>
    exact ⟨fun file => (first.files file).trans (second.files file),
      fun file name => (first.classes file name).trans (second.classes file name)⟩

/-- The order of a run does not matter, nor into how many insertions the classes for a file are
divided: the files are the same, with the same classes, and as many classes are added. -/
theorem insertAll_rearranged (manifest : Manifest) {calls others : List Insertion}
    (rearranged : Rearranged calls others) :
    let one := manifest.insertAll calls
    let two := manifest.insertAll others
    (one.entries.map ManifestEntry.file).Perm (two.entries.map ManifestEntry.file) ∧
    (∀ file, (classesOf file one.entries).Perm (classesOf file two.entries)) ∧
    (∀ name, one.contains name = two.contains name) ∧
    manifest.addedBy calls = manifest.addedBy others := by
  intro one two
  have alike := rearranged.alike
  have files : (one.entries.map ManifestEntry.file).Perm (two.entries.map ManifestEntry.file) := by
    rw [List.perm_ext_iff_of_nodup one.distinct two.distinct]
    intro file
    rw [mem_files_insertAll, mem_files_insertAll, alike.files]
  have classes (file : RelativePath) :
      (classesOf file one.entries).Perm (classesOf file two.entries) := by
    rw [classesOf_insertAll, classesOf_insertAll]
    apply ManifestEntry.perm_union
    intro name
    simpa [and_assoc] using alike.classes file name
  refine ⟨files, classes, fun name => ?_, ?_⟩
  · rw [Bool.eq_iff_iff, contains_iff, contains_iff]
    apply exists_congr
    intro file
    rw [lists_insertAll, lists_insertAll, alike.classes]
  · have lengths : (fun file => (classesOf file one.entries).length) =
        fun file => (classesOf file two.entries).length := by
      funext file
      exact (classes file).length_eq
    have same : listings one.entries = listings two.entries := by
      rw [listings_eq, listings_eq, lengths]
      exact (files.map _).sum_nat
    rw [listings_insertAll, listings_insertAll] at same
    exact Nat.add_left_cancel same

/-- The two manifests may well differ, for the order of their entries does. -/
theorem insertAll_rearranged_in_steps :
    let a : RelativePath := ⟨"a", by decide, by decide, by decide, by decide⟩
    let b : RelativePath := ⟨"b", by decide, by decide, by decide, by decide⟩
    let x : QualifiedName := ⟨["X"], by decide, by decide⟩
    let c : QualifiedName := ⟨["C"], by decide, by decide⟩
    let calls : List Insertion := [⟨a, [x, c, x]⟩, ⟨b, [c]⟩]
    let others : List Insertion := [⟨b, [c]⟩, ⟨a, [c]⟩, ⟨a, [x]⟩]
    Rearranged calls others ∧ empty.insertAll calls ≠ empty.insertAll others ∧
      (empty.insertAll others).contains c = true ∧ empty.addedBy others = 3 := by
  intro a b x c calls others
  have divided : Rearranged calls [⟨a, [x]⟩, ⟨a, [c]⟩, ⟨b, [c]⟩] :=
    .regroup [] [⟨b, [c]⟩] ⟨a, [x, c, x]⟩ [[x], [c]] (by decide) (by grind)
  have rearranged : Rearranged calls others := divided.trans (.order (by decide))
  obtain ⟨-, -, found, added⟩ := insertAll_rearranged empty rearranged
  refine ⟨rearranged, by decide, ?_, ?_⟩
  · rw [← found]
    decide
  · rw [← added]
    decide

end Manifest

end PackageIndex
