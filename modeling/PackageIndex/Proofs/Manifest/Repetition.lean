import Mathlib.Data.List.Nodup
import PackageIndex.Proofs.Manifest.Document
import PackageIndex.Proofs.Manifest.Order

/-!
# Classes that are listed twice

No insertion lists a class a second time, neither in an entry that has it nor in a new one. But a
document is taken as it is: only its files are compared. So an entry lists a class more than once
just when the document that the manifest was read from did, and then it goes on to do so.
-/
namespace PackageIndex

namespace ManifestEntry

/-- A union counts a class as often as it was listed before, or else once. -/
theorem count_union (classes new : List QualifiedName) (name : QualifiedName) :
    (union classes new).count name =
      if name ∈ classes then classes.count name else if name ∈ new then 1 else 0 := by
  rw [union_eq_append_fresh, List.count_append]
  by_cases listed : name ∈ classes
  · have unused : name ∉ fresh classes new := fun mem => (mem_fresh.mp mem).2 listed
    rw [if_pos listed, List.count_eq_zero_of_not_mem unused, Nat.add_zero]
  · rw [if_neg listed, List.count_eq_zero_of_not_mem listed, Nat.zero_add]
    by_cases named : name ∈ new
    · rw [if_pos named]
      exact List.count_eq_one_of_mem (nodup_fresh ..) (mem_fresh.mpr ⟨named, listed⟩)
    · rw [if_neg named]
      exact List.count_eq_zero_of_not_mem fun mem => named (mem_fresh.mp mem).1

theorem one_lt_count_union {classes new : List QualifiedName} {name : QualifiedName} :
    1 < (union classes new).count name ↔ 1 < classes.count name := by
  rw [count_union]
  by_cases listed : name ∈ classes
  · rw [if_pos listed]
  · rw [if_neg listed, List.count_eq_zero_of_not_mem listed]
    split <;> omega

end ManifestEntry

namespace Manifest

open Json

variable {file : RelativePath} {entries : List ManifestEntry}

/-- Classes that a file has stand in an entry of it. -/
theorem exists_of_mem_classesOf {name : QualifiedName} (mem : name ∈ classesOf file entries) :
    ∃ entry ∈ entries, entry.file = file ∧ entry.classes = classesOf file entries := by
  induction entries with
  | nil => cases mem
  | cons entry entries ih =>
    by_cases same : entry.file = file
    · exact ⟨entry, List.mem_cons_self .., same, (classesOf_cons_same same).symm⟩
    · rw [classesOf_cons_other same] at mem ⊢
      obtain ⟨given, later, mine⟩ := ih mem
      exact ⟨given, List.mem_cons_of_mem _ later, mine⟩

/-- Where every file has one entry, its entry is what is asked for the classes of the file. -/
theorem one_lt_count_classesOf (distinct : (entries.map ManifestEntry.file).Nodup)
    {name : QualifiedName} :
    1 < (classesOf file entries).count name ↔
      ∃ entry ∈ entries, entry.file = file ∧ 1 < entry.classes.count name := by
  constructor
  · intro twice
    have mem := List.count_pos_iff.mp (Nat.lt_trans Nat.zero_lt_one twice)
    obtain ⟨entry, listed, mine, same⟩ := exists_of_mem_classesOf mem
    exact ⟨entry, listed, mine, same ▸ twice⟩
  · rintro ⟨entry, listed, rfl, twice⟩
    rwa [classesOf_of_mem distinct listed]

/-- Whatever is inserted into a manifest, an entry lists a class more than once just when the entry
of its file did before. -/
theorem repeats_insertAll {first : Manifest} {insertions : List Insertion} {entry : ManifestEntry}
    (mem : entry ∈ (first.insertAll insertions).entries) (name : QualifiedName) :
    1 < entry.classes.count name ↔
      ∃ given ∈ first.entries, given.file = entry.file ∧ 1 < given.classes.count name := by
  rw [← classesOf_of_mem (first.insertAll insertions).distinct mem, classesOf_insertAll,
    ManifestEntry.one_lt_count_union, one_lt_count_classesOf first.distinct]

/-- In a manifest that insertions made of a document every file has one entry, and an entry lists a
class more than once just when the document lists it so for the file. What insertions made of
nothing never does. -/
theorem insertAll_repeats_document {text : String} {first : Manifest}
    (accepted : ofJson text = .ok first) (insertions : List Insertion) :
    let last := first.insertAll insertions
    (last.entries.map ManifestEntry.file).Nodup ∧
    (∃ (tree : Tree) (document : List ManifestEntry),
      tree.Stands text.toList ∧ Denotes tree document ∧
        ∀ entry ∈ last.entries, ∀ name, 1 < entry.classes.count name ↔
          ∃ given ∈ document, given.file = entry.file ∧ 1 < given.classes.count name) ∧
    ∀ entry ∈ (empty.insertAll insertions).entries, entry.classes.Nodup := by
  intro last
  obtain ⟨tree, stands, decoded⟩ :=
    (decodeText_eq_ok fun draft => wary_decode draft _).mp (ofJson_eq_ok.mp accepted)
  refine ⟨last.distinct, ⟨tree, first.entries, stands, decode_draft.mp decoded,
    fun entry mem name => repeats_insertAll mem name⟩, fun entry mem => ?_⟩
  rw [List.nodup_iff_count_le_one]
  intro name
  by_contra twice
  obtain ⟨given, none, -⟩ := (repeats_insertAll mem name).mp (Nat.lt_of_not_le twice)
  cases none

/-- A class that the document lists twice is inserted in vain, and one that is inserted twice comes
to stand once. -/
theorem insertAll_repeats_document_beside_new :
    let a : RelativePath := ⟨"a", by decide, by decide, by decide, by decide⟩
    let c : QualifiedName := ⟨["C"], by decide, by decide⟩
    let d : QualifiedName := ⟨["D"], by decide, by decide⟩
    let text := "\x7b\"files\":[\x7b\"file\":\"a\",\"classes\":[\"C\",\"C\"]\x7d]\x7d"
    let first : Manifest := ⟨[⟨a, [c, c]⟩], by decide⟩
    let insertions : List Insertion := [⟨a, [c, d, d]⟩]
    ofJson text = .ok first ∧
      (first.insertAll insertions).entries = [⟨a, [c, c, d]⟩] ∧
      ((first.insertAll insertions).entries.map ManifestEntry.file).Nodup ∧
      (empty.insertAll insertions).entries = [⟨a, [c, d]⟩] ∧
      ∀ entry ∈ (empty.insertAll insertions).entries, entry.classes.Nodup := by
  intro a c d text first insertions
  have accepted : ofJson text = .ok first := by decide +kernel
  obtain ⟨distinct, -, apart⟩ := insertAll_repeats_document accepted insertions
  exact ⟨accepted, by decide, distinct, by decide, apart⟩

/-- A document that lists a class twice for a file is accepted, and so the manifest does. -/
theorem repeated_class_is_kept :
    let a : RelativePath := ⟨"a.php", by decide, by decide, by decide, by decide⟩
    let c : QualifiedName := ⟨["A"], by decide, by decide⟩
    let text := "\x7b\"files\":[\x7b\"file\":\"a.php\",\"classes\":[\"A\",\"A\"]\x7d]\x7d"
    ∃ (manifest : Manifest) (entry : ManifestEntry), ofJson text = .ok manifest ∧
      entry ∈ manifest.entries ∧ entry = ⟨a, [c, c]⟩ ∧ ¬ entry.classes.Nodup := by
  intro a c text
  exact ⟨⟨[⟨a, [c, c]⟩], by decide⟩, ⟨a, [c, c]⟩, by decide +kernel, List.mem_singleton.mpr rfl,
    rfl, by decide⟩

end Manifest

end PackageIndex
