import PackageIndex.Manifest
import PackageIndex.Proofs.Json.RoundTrip

/-!
# The document of a manifest

Writing a manifest and reading the document gives it back, so a file that holds the document of a
manifest says just that manifest.
-/
namespace PackageIndex

open Json

namespace Manifest

theorem decodeFile_encode (file : RelativePath) :
    decodeFile (Draft.ofValue (.string file.text)) = .ok file := by
  rw [Draft.ofValue, decodeFile, Draft.toText, ofText, Except.mapError, ok_bind,
    RelativePath.parse_text]
  rfl

theorem decodeClass_encode (name : QualifiedName) :
    decodeClass (Draft.ofValue (.string name.text)) = .ok name := by
  rw [Draft.ofValue, decodeClass, Draft.toText, ofText, Except.mapError, ok_bind,
    QualifiedName.parse_text]
  rfl

theorem decodeClasses_encode (classes : List QualifiedName) :
    decodeClasses (Draft.ofValue (.array (classes.map fun name => .string name.text))) =
      .ok classes :=
  toList_ofValue fun name _ => decodeClass_encode name

/-- An entry is decoded from what it is encoded as. -/
theorem decodeEntry_encode (entry : ManifestEntry) :
    decodeEntry (Draft.ofValue entry.encode) = .ok entry := by
  have file : EntryFields.take ⟨none, none⟩ "file" (Draft.ofValue (.string entry.file.text)) =
      .ok ⟨some entry.file, none⟩ := by
    rw [EntryFields.take, once, decodeFile_encode]
    rfl
  have classes : EntryFields.take ⟨some entry.file, none⟩ "classes"
      (Draft.ofValue (.array (entry.classes.map fun name => .string name.text))) =
        .ok ⟨some entry.file, some entry.classes⟩ := by
    rw [EntryFields.take, once, decodeClasses_encode]
    rfl
  rw [ManifestEntry.encode, Draft.ofValue, decodeEntry, fold_ofValues_cons file,
    fold_ofValues_cons classes]
  rfl

/-- The entries of a manifest are decoded from what it is encoded as. -/
theorem decode_encode (manifest : Manifest) :
    decode (Draft.ofValue manifest.encode) = .ok manifest.entries := by
  have entries : decodeEntries
      (Draft.ofValue (.array (manifest.entries.map ManifestEntry.encode))) =
        .ok manifest.entries :=
    toList_ofValue fun entry _ => decodeEntry_encode entry
  have files : takeFiles none "files"
      (Draft.ofValue (.array (manifest.entries.map ManifestEntry.encode))) =
        .ok (some manifest.entries) := by
    rw [takeFiles, if_pos rfl, once, entries]
    rfl
  rw [encode, Draft.ofValue, decode, fold_ofValues_cons files]
  rfl

theorem depth_encodeEntry_le (entry : ManifestEntry) : entry.encode.depth ≤ 2 := by
  refine Nat.succ_le_succ (Nat.max_le.mpr ⟨Nat.zero_le _, Nat.max_le.mpr ⟨?_, Nat.zero_le _⟩⟩)
  refine Nat.succ_le_succ (Value.itemDepth_le.mpr fun item mem => ?_)
  obtain ⟨name, -, rfl⟩ := List.mem_map.mp mem
  exact Nat.le_refl _

theorem depth_encodeEntries_le (entries : List ManifestEntry) :
    (Value.array (entries.map ManifestEntry.encode)).depth ≤ 3 := by
  refine Nat.succ_le_succ (Value.itemDepth_le.mpr fun item mem => ?_)
  obtain ⟨entry, -, rfl⟩ := List.mem_map.mp mem
  exact depth_encodeEntry_le entry

/-- There is no number in a manifest. -/
theorem numbers_encode (manifest : Manifest) : manifest.encode.numbers = [] := by
  rw [List.eq_nil_iff_forall_not_mem]
  intro n mem
  simp [encode, ManifestEntry.encode, Value.numbers, Value.memberNumbers, Value.mem_itemNumbers]
    at mem

/-- Reading the document of a manifest gives the manifest. -/
@[simp] theorem ofJson_toJson (manifest : Manifest) : ofJson manifest.toJson = .ok manifest := by
  have decoded : decodeText decode manifest.toJson = .ok manifest.entries :=
    decodeText_document (by simp [numbers_encode]) manifest.decode_encode
  have distinct : repeated? [] (manifest.entries.map ManifestEntry.file) = none :=
    repeated?_eq_none.mpr ⟨manifest.distinct, fun _ _ => List.not_mem_nil⟩
  unfold ofJson
  rw [decoded]
  dsimp only
  split
  · next file repeats => rw [distinct] at repeats; cases repeats
  · rfl

end Manifest

end PackageIndex
