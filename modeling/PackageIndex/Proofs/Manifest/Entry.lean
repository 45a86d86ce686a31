import PackageIndex.Proofs.Manifest.Ownership

/-!
# The entry of a file

An insertion changes one entry, the first of its file or else one at the end, and says by how much.
Whoever asks for the file of a class gets another answer only if the class was inserted and no
entry before the changed one lists it. A second insertion of the same finds nothing to do.
-/
namespace PackageIndex

namespace ManifestEntry

/-- After a union nothing of what was added is new. -/
theorem fresh_union (classes new : List QualifiedName) : fresh (union classes new) new = [] := by
  rw [List.eq_nil_iff_forall_not_mem]
  intro name mem
  obtain ⟨named, unlisted⟩ := mem_fresh.mp mem
  exact unlisted (mem_union.mpr (.inr named))

/-- Adding the same classes again changes nothing. -/
theorem union_union (classes new : List QualifiedName) :
    union (union classes new) new = union classes new := by
  rw [union_eq_append_fresh (union classes new), fresh_union, List.append_nil]

end ManifestEntry

namespace Manifest

variable {file other : RelativePath} {classes : List QualifiedName} {entry : ManifestEntry}
  {entries : List ManifestEntry}

/-- Where the first entry of a file stands; past the end if there is none. -/
def place (file : RelativePath) (entries : List ManifestEntry) : Nat :=
  entries.findIdx fun entry => entry.file = file

def classesOf (file : RelativePath) (entries : List ManifestEntry) : List QualifiedName :=
  (entries[place file entries]?.map ManifestEntry.classes).getD []

@[simp] theorem place_nil : place file [] = 0 := rfl
@[simp] theorem classesOf_nil : classesOf file [] = [] := rfl

theorem place_cons_same (same : entry.file = file) : place file (entry :: entries) = 0 := by
  simp [place, List.findIdx_cons, same]

theorem place_cons_other (apart : entry.file ≠ file) :
    place file (entry :: entries) = place file entries + 1 := by
  simp [place, List.findIdx_cons, apart]

theorem classesOf_cons_same (same : entry.file = file) :
    classesOf file (entry :: entries) = entry.classes := by
  simp [classesOf, place_cons_same same]

theorem classesOf_cons_other (apart : entry.file ≠ file) :
    classesOf file (entry :: entries) = classesOf file entries := by
  simp [classesOf, place_cons_other apart]

theorem insertInto_cons_same (same : entry.file = file) :
    insertInto file classes (entry :: entries) =
      (⟨file, ManifestEntry.union entry.classes classes⟩ :: entries,
        (ManifestEntry.fresh entry.classes classes).length) := by
  rw [insertInto, if_pos same]
  simp [ManifestEntry.union_eq_append_fresh]

theorem insertInto_cons_other (apart : entry.file ≠ file) :
    insertInto file classes (entry :: entries) =
      (entry :: (insertInto file classes entries).1, (insertInto file classes entries).2) := by
  rw [insertInto, if_neg apart]

/-! ## What changes -/

/-- An insertion changes the entry at the place of the file and no other. -/
theorem getElem?_insertInto (file : RelativePath) (classes : List QualifiedName)
    (entries : List ManifestEntry) (i : Nat) :
    (insertInto file classes entries).1[i]? =
      if i = place file entries then
        some ⟨file, ManifestEntry.union (classesOf file entries) classes⟩
      else entries[i]? := by
  induction entries generalizing i with
  | nil => cases i <;> simp [insertInto]
  | cons entry entries ih =>
    by_cases same : entry.file = file
    · rw [insertInto_cons_same same, place_cons_same same, classesOf_cons_same same]
      cases i <;> simp
    · rw [insertInto_cons_other same, place_cons_other same, classesOf_cons_other same]
      cases i with
      | zero => simp
      | succ i => simp [ih]

/-- The count of an insertion is that of the new classes. -/
theorem added_insertInto (file : RelativePath) (classes : List QualifiedName)
    (entries : List ManifestEntry) :
    (insertInto file classes entries).2 =
      (ManifestEntry.fresh (classesOf file entries) classes).length := by
  induction entries with
  | nil => simp [insertInto, ManifestEntry.union_eq_append_fresh]
  | cons entry entries ih =>
    by_cases same : entry.file = file
    · rw [insertInto_cons_same same, classesOf_cons_same same]
    · rw [insertInto_cons_other same, classesOf_cons_other same, ih]

/-- The owner of a class after an insertion. -/
theorem find?_insertInto (file : RelativePath) (classes : List QualifiedName)
    (entries : List ManifestEntry) (name : QualifiedName) :
    ((insertInto file classes entries).1.find? fun entry => name ∈ entry.classes).map
        ManifestEntry.file =
      if name ∈ classes ∧ ∀ entry ∈ entries.take (place file entries), name ∉ entry.classes then
        some file
      else (entries.find? fun entry => name ∈ entry.classes).map ManifestEntry.file := by
  induction entries with
  | nil => by_cases named : name ∈ classes <;> simp [insertInto, ManifestEntry.mem_union, named]
  | cons entry entries ih =>
    by_cases same : entry.file = file
    · rw [insertInto_cons_same same, place_cons_same same]
      by_cases named : name ∈ classes <;> by_cases listed : name ∈ entry.classes <;>
        simp [ManifestEntry.mem_union, named, listed, same]
    · rw [insertInto_cons_other same, place_cons_other same]
      by_cases listed : name ∈ entry.classes
      · simp [listed]
      · simpa [List.find?_cons, listed] using ih

/-- An insertion that is made again changes nothing and counts nothing. -/
theorem insertInto_insertInto (file : RelativePath) (classes : List QualifiedName)
    (entries : List ManifestEntry) :
    insertInto file classes (insertInto file classes entries).1 =
      ((insertInto file classes entries).1, 0) := by
  have entered (listed : List QualifiedName) (rest : List ManifestEntry) :
      insertInto file classes (⟨file, ManifestEntry.union listed classes⟩ :: rest) =
        (⟨file, ManifestEntry.union listed classes⟩ :: rest, 0) := by
    have step := @insertInto_cons_same file classes
      ⟨file, ManifestEntry.union listed classes⟩ rest rfl
    simpa only [ManifestEntry.union_union, ManifestEntry.fresh_union, List.length_nil] using step
  induction entries with
  | nil => exact entered [] []
  | cons entry entries ih =>
    by_cases same : entry.file = file
    · rw [insertInto_cons_same same]
      exact entered entry.classes entries
    · rw [insertInto_cons_other same, insertInto_cons_other same, ih]

/-- An insertion leaves all entries as they are but the first of its file, which is made at the end
if there is none, and appends to it the names it does not list, each once. -/
theorem insert_exact (manifest : Manifest) (file : RelativePath) (classes : List QualifiedName) :
    let k := place file manifest.entries
    let old := classesOf file manifest.entries
    let new := ManifestEntry.fresh old classes
    let inserted := manifest.insert file classes
    (∀ i, inserted.1.entries[i]? =
      if i = k then some ⟨file, old ++ new⟩ else manifest.entries[i]?) ∧
    inserted.2 = new.length ∧
    (∀ name, inserted.1.lookup? name =
      if name ∈ classes ∧ ∀ entry ∈ manifest.entries.take k, name ∉ entry.classes then some file
      else manifest.lookup? name) ∧
    inserted.1.insert file classes = (inserted.1, 0) := by
  intro k old new inserted
  refine ⟨fun i => ?_, added_insertInto .., find?_insertInto file classes manifest.entries, ?_⟩
  · rw [← ManifestEntry.union_eq_append_fresh]
    exact getElem?_insertInto file classes manifest.entries i
  · have again := insertInto_insertInto file classes manifest.entries
    simp only [inserted, insert, again]

end Manifest

end PackageIndex
