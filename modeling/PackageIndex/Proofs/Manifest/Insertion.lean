import Mathlib.Algebra.GroupWithZero.Nat
import PackageIndex.Proofs.Manifest

/-!
# Insertions one after the other

What a run of insertions comes to. Each file that is named gets one entry, at the place where it was
first named, and the entry lists the classes that were named for the file, each where it was first
named; so what a run makes of nothing can be told without going through it. Whatever a run begins
with, its document says all of it.
-/
namespace PackageIndex

structure Insertion where
  file : RelativePath
  classes : List QualifiedName
  deriving DecidableEq, Repr

/-- Repetitions are removed item by item: what follows an item is looked at without it. -/
@[elab_as_elim]
theorem eraseDups_induct {α : Type} [BEq α] {motive : List α → Prop} (nil : motive [])
    (cons : ∀ a items, motive (items.filter fun b => !b == a) → motive (a :: items)) :
    ∀ items, motive items
  | [] => nil
  | a :: items => cons a items (eraseDups_induct nil cons _)
termination_by items => items.length
decreasing_by exact Nat.lt_succ_of_le (List.length_filter_le ..)

/-- An item at the end stays if it has not been there before. -/
theorem eraseDups_concat {α : Type} [BEq α] [LawfulBEq α] [DecidableEq α] (items : List α) (a : α) :
    (items ++ [a]).eraseDups =
      if a ∈ items.eraseDups then items.eraseDups else items.eraseDups ++ [a] := by
  rw [List.eraseDups_append]
  by_cases seen : a ∈ items
  · rw [if_pos (List.mem_eraseDups.mpr seen)]
    simp [List.removeAll, seen]
  · rw [if_neg (mt List.mem_eraseDups.mp seen)]
    simp [List.removeAll, seen, List.eraseDups_cons]

theorem nodup_eraseDups {α : Type} [BEq α] [LawfulBEq α] (items : List α) :
    items.eraseDups.Nodup := by
  induction items using eraseDups_induct with
  | nil => exact List.nodup_nil
  | cons a items ih =>
    rw [List.eraseDups_cons, List.nodup_cons]
    refine ⟨fun again => ?_, ih⟩
    simp [List.mem_eraseDups] at again

namespace ManifestEntry

/-- The names that are not among the classes, each where it first stands. -/
def fresh (classes new : List QualifiedName) : List QualifiedName :=
  (new.filter fun name => name ∉ classes).eraseDups

@[simp] theorem mem_fresh {classes new : List QualifiedName} {name : QualifiedName} :
    name ∈ fresh classes new ↔ name ∈ new ∧ name ∉ classes := by
  simp [fresh]

theorem nodup_fresh (classes new : List QualifiedName) : (fresh classes new).Nodup :=
  nodup_eraseDups _

/-- Adding twice is adding all at once. -/
theorem union_append (classes one two : List QualifiedName) :
    union (union classes one) two = union classes (one ++ two) := by
  rw [union, union, union, List.foldl_append]

/-- What is new comes behind what is there. -/
theorem union_eq_append_fresh (classes new : List QualifiedName) :
    union classes new = classes ++ fresh classes new := by
  induction new generalizing classes with
  | nil => simp [fresh]
  | cons name new ih =>
    rw [union_cons, ih]
    by_cases listed : name ∈ classes
    · simp [fresh, listed]
    · -- later on the name is one of the classes, so it is not taken again
      have later : (new.filter fun other => other ∉ classes).filter (fun other => !other == name) =
          new.filter fun other => other ∉ classes ++ [name] := by
        rw [List.filter_filter]
        refine List.filter_congr fun other _ => ?_
        by_cases same : other = name <;> simp [same]
      have taken : (name :: new).filter (fun other => other ∉ classes) =
          name :: new.filter fun other => other ∉ classes := by
        simp [listed]
      rw [if_neg listed, fresh, fresh, taken, List.eraseDups_cons, later, List.append_assoc,
        List.singleton_append]

/-- A union leaves out what has occurred before, so it may be taken in one go or in steps. -/
theorem union_eraseDups (done new : List QualifiedName) :
    union done.eraseDups new = (done ++ new).eraseDups := by
  rw [union_eq_append_fresh, List.eraseDups_append, fresh]
  simp [List.removeAll]

theorem length_le_union (classes new : List QualifiedName) :
    classes.length ≤ (union classes new).length := by
  simp [union_eq_append_fresh]

end ManifestEntry

namespace Manifest

/-! ## One insertion -/

/-- How many classes the entries list, a class once for each entry that lists it. -/
def listings (entries : List ManifestEntry) : Nat :=
  (entries.map fun entry => entry.classes.length).sum

/-- An insertion tells by how much the listings grow. -/
theorem listings_insertInto (file : RelativePath) (classes : List QualifiedName)
    (entries : List ManifestEntry) :
    listings (insertInto file classes entries).1 =
      listings entries + (insertInto file classes entries).2 := by
  induction entries with
  | nil => simp [insertInto, listings]
  | cons entry entries ih =>
    unfold insertInto
    by_cases same : entry.file = file
    · have grows := ManifestEntry.length_le_union entry.classes classes
      simp only [same, if_true, listings, List.map_cons, List.sum_cons]
      omega
    · simp only [listings] at ih
      simp only [same, if_false, listings, List.map_cons, List.sum_cons, ih]
      omega

/-- Among files that stand once each, an insertion changes the classes of its own file alone. -/
theorem insertInto_map {files : List RelativePath} (distinct : files.Nodup)
    (listed : RelativePath → List QualifiedName) {file : RelativePath}
    (fresh : file ∉ files → listed file = []) (classes : List QualifiedName) :
    (insertInto file classes (files.map fun other => ⟨other, listed other⟩)).1 =
      (if file ∈ files then files else files ++ [file]).map fun other =>
        ⟨other, if other = file then ManifestEntry.union (listed file) classes
          else listed other⟩ := by
  induction files with
  | nil => simp [insertInto, fresh]
  | cons first files ih =>
    obtain ⟨apart, distinct⟩ := List.nodup_cons.mp distinct
    unfold insertInto
    by_cases same : first = file
    · subst same
      have others : ∀ other ∈ files, other ≠ first := fun other mem h => apart (h ▸ mem)
      simp only [List.map_cons, if_true, List.mem_cons, true_or, List.cons.injEq, true_and]
      refine List.map_congr_left fun other mem => ?_
      rw [if_neg (others other mem)]
    · have later := ih distinct fun absent => fresh (by simp [absent, Ne.symm same])
      simp only [List.map_cons, same, if_false, later, List.mem_cons, Ne.symm same, false_or]
      split <;> simp [same]

/-! ## Runs -/

def insertAll (manifest : Manifest) (insertions : List Insertion) : Manifest :=
  insertions.foldl (fun manifest insertion =>
    (manifest.insert insertion.file insertion.classes).1) manifest

@[simp] theorem insertAll_nil (manifest : Manifest) : manifest.insertAll [] = manifest := rfl

@[simp] theorem insertAll_cons (manifest : Manifest) (insertion : Insertion)
    (insertions : List Insertion) :
    manifest.insertAll (insertion :: insertions) =
      (manifest.insert insertion.file insertion.classes).1.insertAll insertions := rfl

/-- The classes that are named for a file, each where it was first named. -/
def gathered (insertions : List Insertion) (file : RelativePath) : List QualifiedName :=
  ((insertions.filter fun insertion => insertion.file = file).flatMap
    Insertion.classes).eraseDups

/-- The files in the order in which they were first named, with what is named for them. -/
def gather (insertions : List Insertion) : List ManifestEntry :=
  (insertions.map Insertion.file).eraseDups.map fun file => ⟨file, gathered insertions file⟩

/-- A file has its place from the first time it is mentioned. -/
theorem files_gather (insertions : List Insertion) :
    (gather insertions).map ManifestEntry.file = (insertions.map Insertion.file).eraseDups := by
  rw [gather, List.map_map]
  exact List.map_id _

/-- A last insertion adds to the classes of its own file alone. -/
theorem gathered_concat (insertions : List Insertion) (insertion : Insertion)
    (file : RelativePath) :
    gathered (insertions ++ [insertion]) file =
      if file = insertion.file then
        ManifestEntry.union (gathered insertions insertion.file) insertion.classes
      else gathered insertions file := by
  unfold gathered
  by_cases same : file = insertion.file
  · subst same
    simp [ManifestEntry.union_eraseDups]
  · simp [same, Ne.symm same]

/-- Inserting into what was gathered is gathering once more. -/
theorem insertInto_gather {insertions : List Insertion}
    (distinct : ((gather insertions).map ManifestEntry.file).Nodup) (insertion : Insertion) :
    (insertInto insertion.file insertion.classes (gather insertions)).1 =
      gather (insertions ++ [insertion]) := by
  rw [files_gather] at distinct
  have fresh : insertion.file ∉ (insertions.map Insertion.file).eraseDups →
      gathered insertions insertion.file = [] := by
    intro absent
    rw [List.mem_eraseDups, List.mem_map] at absent
    rw [gathered, List.filter_eq_nil_iff.mpr]
    · rfl
    · exact fun other mem same => absent ⟨other, mem, of_decide_eq_true same⟩
  rw [gather, insertInto_map distinct _ fresh, ← eraseDups_concat, gather, List.map_append,
    List.map_singleton]
  exact List.map_congr_left fun file _ => by rw [gathered_concat]

/-- From gathered entries a run leads to gathered entries. -/
theorem entries_insertAll_of_gather {manifest : Manifest} {done : List Insertion}
    (made : manifest.entries = gather done) (more : List Insertion) :
    (manifest.insertAll more).entries = gather (done ++ more) := by
  induction more generalizing manifest done with
  | nil => rw [insertAll_nil, List.append_nil, made]
  | cons insertion more ih =>
    have next : (manifest.insert insertion.file insertion.classes).1.entries =
        gather (done ++ [insertion]) := by
      rw [← insertInto_gather (made ▸ manifest.distinct), ← made]
      rfl
    rw [insertAll_cons, ih next, List.append_assoc, List.singleton_append]

/-- What a run of insertions makes of the empty manifest. -/
theorem entries_insertAll_empty (insertions : List Insertion) :
    (empty.insertAll insertions).entries = gather insertions :=
  @entries_insertAll_of_gather empty [] rfl insertions

/-- Whatever a manifest was first and whatever has been inserted since, its document reads back to
it, and to no other manifest. -/
theorem ofJson_document_insertAll (first : Manifest) (insertions : List Insertion) :
    ofJson (first.insertAll insertions).toJson = .ok (first.insertAll insertions) ∧
      ∀ other : Manifest, other.toJson = (first.insertAll insertions).toJson →
        other = first.insertAll insertions := by
  refine ⟨ofJson_toJson _, fun other same => ?_⟩
  have read := ofJson_toJson other
  rw [same, ofJson_toJson] at read
  exact (Except.ok.inj read).symm

end Manifest

end PackageIndex
