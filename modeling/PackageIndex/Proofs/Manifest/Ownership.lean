import Mathlib.Data.List.Basic
import PackageIndex.Proofs.Manifest.Insertion

/-!
# Which file owns a class

A class belongs to the first entry that lists it. Entries stand in the order in which their files
were first mentioned, whatever was named for them then; so of the files a class is named for, the
one that was mentioned first owns it, even if another was the first to be named for it. As long as
no class is inserted that another file owns, there is one file for each class, and it stays.
-/
namespace PackageIndex

/-- What comes first in a list does not depend on later repetitions. -/
theorem find?_eraseDups {α : Type} [DecidableEq α] (p : α → Bool) (items : List α) :
    items.eraseDups.find? p = items.find? p := by
  induction items using eraseDups_induct with
  | nil => rfl
  | cons a items ih =>
    by_cases first : p a = true
    · rw [List.eraseDups_cons, List.find?_cons_of_pos first, List.find?_cons_of_pos first]
    · rw [List.eraseDups_cons, List.find?_cons_of_neg first, List.find?_cons_of_neg first, ih,
        List.find?_filter]
      -- the items that were left out are all `a`, which is not looked for
      refine congrArg (List.find? · items) (funext fun b => ?_)
      by_cases same : b = a
      · simp [same, first]
      · simp [same]

/-- The item that is found is the one among those looked for that stands first. -/
theorem find?_eq_some_iff_idxOf_le {α : Type} [DecidableEq α] {p : α → Bool} {items : List α}
    {a : α} (mem : a ∈ items) (wanted : p a = true) :
    items.find? p = some a ↔ ∀ b ∈ items, p b = true → items.idxOf a ≤ items.idxOf b := by
  induction items with
  | nil => cases mem
  | cons first items ih =>
    by_cases found : p first = true
    · rw [List.find?_cons_of_pos found, Option.some.injEq]
      constructor
      · rintro rfl b - -
        rw [List.idxOf_cons_self]
        exact Nat.zero_le _
      · intro least
        have zero := least first (List.mem_cons_self ..) found
        rw [List.idxOf_cons_self, Nat.le_zero] at zero
        by_contra other
        rw [List.idxOf_cons_ne _ other] at zero
        exact absurd zero (Nat.succ_ne_zero _)
    · have apart {b : α} (looked : p b = true) : first ≠ b := by
        rintro rfl
        exact found looked
      have later := (List.mem_cons.mp mem).resolve_left (Ne.symm (apart wanted))
      rw [List.find?_cons_of_neg found, ih later]
      constructor
      · intro least b among looked
        rw [List.idxOf_cons_ne _ (apart wanted), List.idxOf_cons_ne _ (apart looked)]
        have among := (List.mem_cons.mp among).resolve_left (Ne.symm (apart looked))
        exact Nat.succ_le_succ (least b among looked)
      · intro least b among looked
        have order := least b (List.mem_cons_of_mem _ among) looked
        rw [List.idxOf_cons_ne _ (apart wanted), List.idxOf_cons_ne _ (apart looked)] at order
        exact Nat.le_of_succ_le_succ order

theorem ManifestEntry.mem_union {classes new : List QualifiedName} {name : QualifiedName} :
    name ∈ union classes new ↔ name ∈ classes ∨ name ∈ new := by
  rw [union_eq_append_fresh, List.mem_append, mem_fresh]
  tauto

namespace Manifest

variable {manifest : Manifest} {file other : RelativePath} {name : QualifiedName}
  {classes : List QualifiedName}

/-! ## Listings -/

def Lists (manifest : Manifest) (file : RelativePath) (name : QualifiedName) : Prop :=
  ∃ entry ∈ manifest.entries, entry.file = file ∧ name ∈ entry.classes

theorem not_lists_empty : ¬ empty.Lists file name := by
  rintro ⟨entry, mem, -⟩
  cases mem

/-- The file that a search finds lists the class. -/
theorem lists_of_lookup? (owned : manifest.lookup? name = some file) :
    manifest.Lists file name := by
  obtain ⟨entry, found, rfl⟩ := Option.map_eq_some_iff.mp owned
  have listed := List.find?_some found
  exact ⟨entry, List.mem_of_find?_eq_some found, rfl, of_decide_eq_true listed⟩

/-- Nothing is found just when no file lists the class. -/
theorem lookup?_eq_none : manifest.lookup? name = none ↔ ∀ file, ¬ manifest.Lists file name := by
  rw [lookup?, Option.map_eq_none_iff, List.find?_eq_none]
  constructor
  · rintro none file ⟨entry, mem, -, listed⟩
    exact none entry mem (decide_eq_true listed)
  · intro none entry mem listed
    exact none entry.file ⟨entry, mem, rfl, of_decide_eq_true listed⟩

/-- A class is contained when some file lists it. -/
theorem contains_iff :
    manifest.contains name = true ↔ ∃ file, manifest.Lists file name := by
  rw [contains, Option.isSome_iff_ne_none, Ne, lookup?_eq_none]
  simp

/-- After an insertion a file lists what it listed, and the file of the insertion also its classes.
-/
theorem exists_insertInto {entries : List ManifestEntry} :
    (∃ entry ∈ (insertInto file classes entries).1, entry.file = other ∧ name ∈ entry.classes) ↔
      (∃ entry ∈ entries, entry.file = other ∧ name ∈ entry.classes) ∨
        other = file ∧ name ∈ classes := by
  induction entries with
  | nil => simp [insertInto, ManifestEntry.mem_union, eq_comm]
  | cons entry entries ih =>
    unfold insertInto
    by_cases same : entry.file = file
    · simp only [same, if_true, List.mem_cons, or_and_right, exists_or, exists_eq_left,
        ManifestEntry.mem_union]
      grind
    · simp only [same, if_false, List.mem_cons, or_and_right, exists_or, exists_eq_left, ih]
      exact or_assoc.symm

/-- An insertion adds the classes to those of its file and takes none away from any. -/
theorem lists_insert :
    (manifest.insert file classes).1.Lists other name ↔
      manifest.Lists other name ∨ other = file ∧ name ∈ classes :=
  exists_insertInto

/-! ## After a run of insertions -/

/-- After a run a file lists what it listed and what the run says of it. -/
theorem lists_insertAll {insertions : List Insertion} :
    (manifest.insertAll insertions).Lists file name ↔
      manifest.Lists file name ∨
        ∃ insertion ∈ insertions, insertion.file = file ∧ name ∈ insertion.classes := by
  induction insertions generalizing manifest with
  | nil => simp
  | cons insertion insertions ih =>
    rw [insertAll_cons, ih, lists_insert, or_assoc, @eq_comm _ file]
    simp only [List.mem_cons, or_and_right, exists_or, exists_eq_left]

/-- The classes gathered for a file are those that some insertion names for it. -/
theorem mem_gathered {insertions : List Insertion} :
    name ∈ gathered insertions file ↔
      ∃ insertion ∈ insertions, insertion.file = file ∧ name ∈ insertion.classes := by
  simp only [gathered, List.mem_eraseDups, List.mem_flatMap, List.mem_filter, decide_eq_true_eq,
    and_assoc]

/-- Of the files that a class is named for, the one that was mentioned first owns it. -/
theorem lookup?_insertAll_empty (insertions : List Insertion) (name : QualifiedName) :
    (empty.insertAll insertions).lookup? name =
      (insertions.map Insertion.file).find? fun file =>
        ∃ insertion ∈ insertions, insertion.file = file ∧ name ∈ insertion.classes := by
  rw [lookup?, entries_insertAll_empty, gather, List.find?_map, Option.map_map]
  simp only [Function.comp_def, mem_gathered, Option.map_id']
  exact find?_eraseDups _ _

/-- The class goes to the file that was mentioned first, whatever was named for it then. So it goes
to the file it was first named for just when that one was mentioned before all others that the class
is named for. -/
theorem first_mentioned_owns {insertions : List Insertion} {first : Insertion}
    (earliest : insertions.find? (fun insertion => name ∈ insertion.classes) = some first) :
    let files := insertions.map Insertion.file
    let owner := (empty.insertAll insertions).lookup? name
    (owner = files.find? fun file =>
      ∃ insertion ∈ insertions, insertion.file = file ∧ name ∈ insertion.classes) ∧
    owner.isSome = true ∧
    (owner = some first.file ↔ ∀ insertion ∈ insertions, name ∈ insertion.classes →
      files.idxOf first.file ≤ files.idxOf insertion.file) := by
  intro files owner
  have told : owner = files.find? _ := lookup?_insertAll_empty insertions name
  have mem := List.mem_of_find?_eq_some earliest
  have named := List.find?_some earliest
  have named : name ∈ first.classes := of_decide_eq_true named
  have mentioned : first.file ∈ files := List.mem_map_of_mem mem
  have wanted : ∃ insertion ∈ insertions, insertion.file = first.file ∧
      name ∈ insertion.classes := ⟨first, mem, rfl, named⟩
  refine ⟨told, ?_, ?_⟩
  · rw [told, List.find?_isSome]
    exact ⟨first.file, mentioned, decide_eq_true wanted⟩
  · rw [told, find?_eq_some_iff_idxOf_le mentioned (decide_eq_true wanted)]
    constructor
    · intro least insertion among listed
      exact least insertion.file (List.mem_map_of_mem among)
        (decide_eq_true ⟨insertion, among, rfl, listed⟩)
    · intro least file _ looked
      obtain ⟨insertion, among, rfl, listed⟩ := of_decide_eq_true looked
      exact least insertion among listed

/-- A file that was mentioned earlier does not matter as long as the class is not named for it. -/
theorem first_mentioned_owns_after_another :
    let a : RelativePath := ⟨"a", by decide, by decide, by decide, by decide⟩
    let b : RelativePath := ⟨"b", by decide, by decide, by decide, by decide⟩
    let d : RelativePath := ⟨"d", by decide, by decide, by decide, by decide⟩
    let x : QualifiedName := ⟨["X"], by decide, by decide⟩
    let c : QualifiedName := ⟨["C"], by decide, by decide⟩
    let insertions : List Insertion := [⟨a, [x]⟩, ⟨b, [x, c]⟩, ⟨d, [c]⟩, ⟨a, [x]⟩]
    insertions.find? (fun insertion => c ∈ insertion.classes) = some ⟨b, [x, c]⟩ ∧
      (empty.insertAll insertions).lookup? c = some b := by
  intro a b d x c insertions
  have earliest : insertions.find? (fun insertion => c ∈ insertion.classes) =
      some ⟨b, [x, c]⟩ := by decide
  exact ⟨earliest, (first_mentioned_owns earliest).2.2.mpr (by decide)⟩

/-- A file that was mentioned earlier takes a class over when the class comes to be named for it,
too. -/
theorem older_file_takes_over :
    let a : RelativePath := ⟨"a", by decide, by decide, by decide, by decide⟩
    let b : RelativePath := ⟨"b", by decide, by decide, by decide, by decide⟩
    let x : QualifiedName := ⟨["X"], by decide, by decide⟩
    let c : QualifiedName := ⟨["C"], by decide, by decide⟩
    let insertions : List Insertion := [⟨a, [x]⟩, ⟨b, [c]⟩, ⟨a, [c]⟩]
    insertions.find? (fun insertion => c ∈ insertion.classes) = some ⟨b, [c]⟩ ∧
      (empty.insertAll insertions).lookup? c = some a ∧ a ≠ b := by
  decide

/-! ## One file for each class -/

def Exclusive (manifest : Manifest) : Prop :=
  ∀ name file other, manifest.Lists file name → manifest.Lists other name → file = other

theorem exclusive_empty : empty.Exclusive := fun _ _ _ listed _ => absurd listed not_lists_empty

/-- Where no class is listed twice, what is listed is what is found. -/
theorem Exclusive.lookup?_eq_some (exclusive : manifest.Exclusive) :
    manifest.lookup? name = some file ↔ manifest.Lists file name := by
  refine ⟨lists_of_lookup?, fun listed => ?_⟩
  cases found : manifest.lookup? name with
  | none => exact absurd listed (lookup?_eq_none.mp found file)
  | some owner => rw [exclusive name owner file (lists_of_lookup? found) listed]

/-- Classes that no other file owns may be inserted. -/
theorem Exclusive.insert (exclusive : manifest.Exclusive)
    (free : ∀ name ∈ classes, ∀ owner, manifest.Lists owner name → owner = file) :
    (manifest.insert file classes).1.Exclusive := by
  intro name one other listed also
  rcases lists_insert.mp listed with kept | ⟨rfl, new⟩
  · rcases lists_insert.mp also with still | ⟨rfl, new⟩
    · exact exclusive name one other kept still
    · exact free name new one kept
  · rcases lists_insert.mp also with still | ⟨rfl, -⟩
    · exact (free name new other still).symm
    · rfl

end Manifest

end PackageIndex
