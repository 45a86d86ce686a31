import PackageIndex.Manifest
import PackageIndex.Proofs.Json.Key
import PackageIndex.Proofs.Json.Record

/-!
# The documents of manifests

Which texts are manifests, and of what, told of the trees that they spell. A record is an object
that gives each of its fields once, and whatever else it likes; but it may also be the plain list of
its fields. So a text that is no object at all may be a manifest.
-/
namespace PackageIndex

namespace Manifest

open Json

/-! ## What the trees of a manifest list -/

def IsFile (tree : Tree) (file : RelativePath) : Prop :=
  ∃ text, tree.IsText text ∧ RelativePath.parse text = .ok file

def IsClass (tree : Tree) (name : QualifiedName) : Prop :=
  ∃ text, tree.IsText text ∧ QualifiedName.parse text = .ok name

/-- A record of the file and the list of its classes. -/
def Describes (tree : Tree) (entry : ManifestEntry) : Prop :=
  ∃ file classes, tree.Record ["file", "classes"] [file, .array classes] ∧
    IsFile file entry.file ∧ List.Forall₂ IsClass classes entry.classes

/-- A record of the list of the entries. -/
def Denotes (tree : Tree) (entries : List ManifestEntry) : Prop :=
  ∃ items, tree.Record ["files"] [.array items] ∧ List.Forall₂ Describes items entries

section
variable {draft : Draft} {tree : Tree}

/-- A file is decoded from a string that says it. -/
theorem decodeFile_draft {file : RelativePath} :
    decodeFile tree.draft = .ok file ↔ IsFile tree file := by
  rw [decodeFile, bind_eq_ok]
  simp only [toText_draft, rejecting_eq_ok, IsFile]

/-- A class is decoded from a string that says it. -/
theorem decodeClass_draft {name : QualifiedName} :
    decodeClass tree.draft = .ok name ↔ IsClass tree name := by
  rw [decodeClass, bind_eq_ok]
  simp only [toText_draft, rejecting_eq_ok, IsClass]

theorem decodeClasses_draft {names : List QualifiedName} :
    decodeClasses tree.draft = .ok names ↔
      ∃ items, tree = .array items ∧ List.Forall₂ IsClass items names := by
  rw [decodeClasses, toList_draft]
  simp only [decodeClass_draft]

/-! ## Entries -/

theorem take_file {fields next : EntryFields} :
    fields.take "file" draft = .ok next ↔
      fields.file = none ∧ ∃ file, decodeFile draft = .ok file ∧
        next = { fields with file := some file } :=
  once_bind_eq_ok

theorem take_classes {fields next : EntryFields} :
    fields.take "classes" draft = .ok next ↔
      fields.classes = none ∧ ∃ classes, decodeClasses draft = .ok classes ∧
        next = { fields with classes := some classes } :=
  once_bind_eq_ok

/-- Another key in an entry is passed over, if its value is whole. -/
theorem take_other {fields next : EntryFields} {name : String} (file : name ≠ "file")
    (classes : name ≠ "classes") :
    fields.take name draft = .ok next ↔ draft.skip = .ok () ∧ next = fields := by
  rw [EntryFields.take]
  · exact skip_bind_eq_ok
  · exact file
  · exact classes

theorem decodeEntry_eq_ok {entry : ManifestEntry} :
    decodeEntry draft = .ok entry ↔
      (∃ members, draft = .object members ∧ members.fold EntryFields.take ⟨none, none⟩ =
        .ok ⟨some entry.file, some entry.classes⟩) ∨
      (∃ file classes, draft = .array (.cons file (.cons classes .done)) ∧
        decodeFile file = .ok entry.file ∧ decodeClasses classes = .ok entry.classes) := by
  constructor
  · intro h
    unfold decodeEntry at h
    split at h
    · next members =>
      obtain ⟨⟨file?, classes?⟩, folded, h⟩ := bind_eq_ok.mp h
      obtain ⟨file, first, h⟩ := bind_eq_ok.mp h
      obtain ⟨classes, second, h⟩ := bind_eq_ok.mp h
      cases h
      obtain rfl := required_eq_ok.mp first
      obtain rfl := required_eq_ok.mp second
      exact .inl ⟨members, rfl, folded⟩
    · next items =>
      obtain ⟨item?, next, h⟩ := bind_eq_ok.mp h
      split at h
      · next file others =>
        have front := next?_eq_some.mp next
        obtain ⟨path, first, h⟩ := bind_eq_ok.mp h
        obtain ⟨item?, next, h⟩ := bind_eq_ok.mp h
        split at h
        · next classes others =>
          have behind := next?_eq_some.mp next
          obtain ⟨names, second, h⟩ := bind_eq_ok.mp h
          obtain ⟨⟨⟩, close, h⟩ := bind_eq_ok.mp h
          have last := close_eq_ok.mp (ofText_eq_ok close)
          cases h
          exact .inr ⟨file, classes, by rw [front, behind, last], first, second⟩
        · cases h
      · cases h
    · exact absurd h (mismatch_ne_ok _ _ _)
  · rintro (⟨members, rfl, folded⟩ | ⟨file, classes, rfl, first, second⟩)
    · rw [decodeEntry, folded]
      rfl
    · rw [decodeEntry]
      simp only [Items.next?, ok_bind]
      rw [first, ok_bind, second]
      rfl

/-- A member changes what is known of the field of its name. -/
theorem take_takes {fields last : EntryFields} {units : List Unit16} {name : String} {value : Tree}
    {members : List (List Unit16 × Tree)} (said : Says units name.toList) :
    (∃ next, fields.take name value.draft = .ok next ∧
        Takes decodeFile members "file" next.file last.file ∧
        Takes decodeClasses members "classes" next.classes last.classes) ↔
      Takes decodeFile ((units, value) :: members) "file" fields.file last.file ∧
        Takes decodeClasses ((units, value) :: members) "classes" fields.classes last.classes := by
  have free {other : String} (ne : name ≠ other) : ¬ Says units other.toList := fun same =>
    ne (String.toList_injective (said.unique same))
  by_cases isFile : name = "file"
  · subst isFile
    have apart : ¬ Says units "classes".toList := free (by decide)
    simp only [take_file, takes_cons_own said, takes_cons_other apart]
    constructor
    · rintro ⟨_, ⟨fresh, file, decoded, rfl⟩, own, other⟩
      exact ⟨⟨fresh, file, decoded, own⟩, other⟩
    · rintro ⟨⟨fresh, file, decoded, own⟩, other⟩
      exact ⟨_, ⟨fresh, file, decoded, rfl⟩, own, other⟩
  · by_cases isClasses : name = "classes"
    · subst isClasses
      simp only [take_classes, takes_cons_own said, takes_cons_other (free isFile)]
      constructor
      · rintro ⟨_, ⟨fresh, classes, decoded, rfl⟩, other, own⟩
        exact ⟨other, fresh, classes, decoded, own⟩
      · rintro ⟨other, fresh, classes, decoded, own⟩
        exact ⟨_, ⟨fresh, classes, decoded, rfl⟩, other, own⟩
    · simp only [take_other isFile isClasses, value.skip_draft, takes_cons_other (free isFile),
        takes_cons_other (free isClasses), true_and, exists_eq_left]

/-- All members together tell the two fields, beside whatever else they name. -/
theorem fold_take {members : List (List Unit16 × Tree)} {fields last : EntryFields} :
    (Members.ofTrees members).fold EntryFields.take fields = .ok last ↔
      Named members ∧ Takes decodeFile members "file" fields.file last.file ∧
        Takes decodeClasses members "classes" fields.classes last.classes := by
  refine fold_ofTrees (fun members (fields last : EntryFields) =>
    Takes decodeFile members "file" fields.file last.file ∧
      Takes decodeClasses members "classes" fields.classes last.classes)
    (fun fields last => ?_) take_takes
  rw [takes_nil, takes_nil]
  constructor
  · rintro ⟨file, classes⟩
    cases last
    cases file
    cases classes
    rfl
  · rintro rfl
    exact ⟨rfl, rfl⟩

/-- An entry is decoded from the trees that describe it. -/
theorem decodeEntry_draft {entry : ManifestEntry} :
    decodeEntry tree.draft = .ok entry ↔ Describes tree entry := by
  rw [decodeEntry_eq_ok]
  constructor
  · rintro (⟨drafts, same, folded⟩ | ⟨file, classes, same, first, second⟩)
    · obtain ⟨members, rfl, rfl⟩ := draft_eq_object same
      obtain ⟨named, file, classes⟩ := fold_take.mp folded
      obtain ⟨file, given, isFile⟩ := takes_some.mp file
      obtain ⟨classes, alsoGiven, listed⟩ := takes_some.mp classes
      obtain ⟨items, rfl, each⟩ := decodeClasses_draft.mp listed
      exact ⟨file, items, .object named (.cons given (.cons alsoGiven .nil)),
        decodeFile_draft.mp isFile, each⟩
    · obtain ⟨_, rfl, two⟩ := draft_eq_array same
      obtain ⟨file, _, rfl, rfl, one⟩ := ofTrees_eq_cons two
      obtain ⟨classes, _, rfl, rfl, none⟩ := ofTrees_eq_cons one
      obtain rfl := ofTrees_eq_done none
      obtain ⟨items, rfl, each⟩ := decodeClasses_draft.mp second
      exact ⟨file, items, .array rfl, decodeFile_draft.mp first, each⟩
  · rintro ⟨file, classes, record, isFile, each⟩
    have first := decodeFile_draft.mpr isFile
    have second := decodeClasses_draft.mpr ⟨classes, rfl, each⟩
    cases record with
    | object named given =>
      obtain _ | ⟨given, _ | ⟨alsoGiven, -⟩⟩ := given
      exact .inl ⟨_, rfl, fold_take.mpr ⟨named, takes_some.mpr ⟨file, given, first⟩,
        takes_some.mpr ⟨_, alsoGiven, second⟩⟩⟩
    | array => exact .inr ⟨_, _, rfl, first, second⟩

/-- Entries are decoded from an array, one by one. -/
theorem decodeEntries_draft {entries : List ManifestEntry} :
    decodeEntries tree.draft = .ok entries ↔
      ∃ items, tree = .array items ∧ List.Forall₂ Describes items entries := by
  rw [decodeEntries, toList_draft]
  simp only [decodeEntry_draft]

/-! ## Whole manifests -/

theorem takeFiles_files {seen next : Option (List ManifestEntry)} :
    takeFiles seen "files" draft = .ok next ↔
      seen = none ∧ ∃ entries, decodeEntries draft = .ok entries ∧ next = some entries := by
  rw [takeFiles, if_pos rfl, once_eq_ok]

/-- Another key beside the files is passed over, if its value is whole. -/
theorem takeFiles_other {seen next : Option (List ManifestEntry)} {name : String}
    (other : name ≠ "files") :
    takeFiles seen name draft = .ok next ↔ draft.skip = .ok () ∧ next = seen := by
  rw [takeFiles, if_neg other]
  exact skip_bind_eq_ok

theorem decode_eq_ok {entries : List ManifestEntry} :
    decode draft = .ok entries ↔
      (∃ members, draft = .object members ∧ members.fold takeFiles none = .ok (some entries)) ∨
      (∃ files, draft = .array (.cons files .done) ∧ decodeEntries files = .ok entries) := by
  constructor
  · intro h
    unfold decode at h
    split at h
    · next members =>
      obtain ⟨files?, folded, h⟩ := bind_eq_ok.mp h
      obtain rfl := required_eq_ok.mp h
      exact .inl ⟨members, rfl, folded⟩
    · next items =>
      obtain ⟨item?, next, h⟩ := bind_eq_ok.mp h
      split at h
      · next files others =>
        have front := next?_eq_some.mp next
        obtain ⟨listed, decoded, h⟩ := bind_eq_ok.mp h
        obtain ⟨⟨⟩, close, h⟩ := bind_eq_ok.mp h
        have last := close_eq_ok.mp (ofText_eq_ok close)
        cases h
        exact .inr ⟨files, by rw [front, last], decoded⟩
      · cases h
    · exact absurd h (mismatch_ne_ok _ _ _)
  · rintro (⟨members, rfl, folded⟩ | ⟨files, rfl, decoded⟩)
    · rw [decode, folded]
      rfl
    · rw [decode]
      simp only [Items.next?, ok_bind]
      rw [decoded]
      rfl

theorem takeFiles_takes {seen last : Option (List ManifestEntry)} {units : List Unit16}
    {name : String} {value : Tree} {members : List (List Unit16 × Tree)}
    (said : Says units name.toList) :
    (∃ next, takeFiles seen name value.draft = .ok next ∧
        Takes decodeEntries members "files" next last) ↔
      Takes decodeEntries ((units, value) :: members) "files" seen last := by
  by_cases isFiles : name = "files"
  · subst isFiles
    simp only [takeFiles_files, takes_cons_own said]
    constructor
    · rintro ⟨_, ⟨fresh, entries, decoded, rfl⟩, own⟩
      exact ⟨fresh, entries, decoded, own⟩
    · rintro ⟨fresh, entries, decoded, own⟩
      exact ⟨_, ⟨fresh, entries, decoded, rfl⟩, own⟩
  · have free : ¬ Says units "files".toList := fun same =>
      isFiles (String.toList_injective (said.unique same))
    simp only [takeFiles_other isFiles, value.skip_draft, takes_cons_other free, true_and,
      exists_eq_left]

/-- All members together tell the entries, beside whatever else they name. -/
theorem fold_takeFiles {members : List (List Unit16 × Tree)}
    {seen last : Option (List ManifestEntry)} :
    (Members.ofTrees members).fold takeFiles seen = .ok last ↔
      Named members ∧ Takes decodeEntries members "files" seen last :=
  fold_ofTrees (Takes decodeEntries · "files") (fun _ _ => takes_nil) takeFiles_takes

/-- Entries are decoded from the trees that denote them. -/
theorem decode_draft {entries : List ManifestEntry} :
    decode tree.draft = .ok entries ↔ Denotes tree entries := by
  rw [decode_eq_ok]
  constructor
  · rintro (⟨drafts, same, folded⟩ | ⟨files, same, listed⟩)
    · obtain ⟨members, rfl, rfl⟩ := draft_eq_object same
      obtain ⟨named, files⟩ := fold_takeFiles.mp folded
      obtain ⟨files, given, listed⟩ := takes_some.mp files
      obtain ⟨items, rfl, each⟩ := decodeEntries_draft.mp listed
      exact ⟨items, .object named (.cons given .nil), each⟩
    · obtain ⟨_, rfl, one⟩ := draft_eq_array same
      obtain ⟨files, _, rfl, rfl, none⟩ := ofTrees_eq_cons one
      obtain rfl := ofTrees_eq_done none
      obtain ⟨items, rfl, each⟩ := decodeEntries_draft.mp listed
      exact ⟨items, .array rfl, each⟩
  · rintro ⟨items, record, each⟩
    have listed := decodeEntries_draft.mpr ⟨items, rfl, each⟩
    cases record with
    | object named given =>
      obtain _ | ⟨given, -⟩ := given
      exact .inl ⟨_, rfl, fold_takeFiles.mpr ⟨named, takes_some.mpr ⟨_, given, listed⟩⟩⟩
    | array => exact .inr ⟨_, rfl, listed⟩

/-! ## Gaps -/

theorem wary_decodeFile : Wary decodeFile := by
  intro draft file h
  obtain ⟨text, given, -⟩ := bind_eq_ok.mp h
  exact wary_toText draft text given

theorem wary_decodeClasses : Wary decodeClasses := by
  refine wary_toList fun draft name h => ?_
  obtain ⟨text, given, -⟩ := bind_eq_ok.mp h
  exact wary_toText draft text given

/-- No key of an entry is taken from what is broken. -/
theorem wary_take (fields : EntryFields) (name : String) : Wary (fields.take name) := by
  intro draft next taken
  by_cases isFile : name = "file"
  · subst isFile
    obtain ⟨-, file, decoded, -⟩ := take_file.mp taken
    exact wary_decodeFile draft file decoded
  · by_cases isClasses : name = "classes"
    · subst isClasses
      obtain ⟨-, classes, decoded, -⟩ := take_classes.mp taken
      exact wary_decodeClasses draft classes decoded
    · exact ((take_other isFile isClasses).mp taken).1

theorem wary_decodeEntries : Wary decodeEntries := by
  refine wary_toList fun draft entry h => ?_
  obtain ⟨members, rfl, folded⟩ | ⟨file, classes, rfl, first, second⟩ := decodeEntry_eq_ok.mp h
  · exact skip_of_fold wary_take members folded
  · exact Items.skip_cons.mpr ⟨wary_decodeFile _ _ first,
      Items.skip_cons.mpr ⟨wary_decodeClasses _ _ second, rfl⟩⟩

theorem wary_takeFiles (seen : Option (List ManifestEntry)) (name : String) :
    Wary (takeFiles seen name) := by
  intro draft next taken
  by_cases isFiles : name = "files"
  · subst isFiles
    obtain ⟨-, entries, decoded, -⟩ := takeFiles_files.mp taken
    exact wary_decodeEntries draft entries decoded
  · exact ((takeFiles_other isFiles).mp taken).1

/-- A manifest is never decoded from what is broken. -/
theorem wary_decode : Wary decode := by
  intro draft entries h
  obtain ⟨members, rfl, folded⟩ | ⟨files, rfl, listed⟩ := decode_eq_ok.mp h
  · exact skip_of_fold wary_takeFiles members folded
  · exact Items.skip_cons.mpr ⟨wary_decodeEntries _ _ listed, rfl⟩

/-! ## Texts -/

/-- A text is a manifest just when its entries are decoded from it. -/
theorem ofJson_eq_ok {text : String} {manifest : Manifest} :
    ofJson text = .ok manifest ↔ decodeText decode text = .ok manifest.entries := by
  unfold ofJson
  split
  · next fault refused => simp [refused]
  · next entries decoded =>
    rw [decoded]
    split
    · next repeats =>
      constructor
      · intro h
        cases h
      · intro h
        cases h
        rw [repeated?_eq_none.mpr ⟨manifest.distinct, by simp⟩] at repeats
        cases repeats
    · next none =>
      obtain ⟨listed, distinct⟩ := manifest
      simp

/-- A text is accepted as a manifest just when it spells a tree that lists entries of different
files, and the manifest has then those entries, in their order. -/
theorem ofJson_denotes (text : String) (entries : List ManifestEntry) :
    (∃ manifest, ofJson text = .ok manifest ∧ manifest.entries = entries) ↔
      (entries.map ManifestEntry.file).Nodup ∧
        ∃ tree : Tree, tree.Stands text.toList ∧ Denotes tree entries := by
  have decoded (entries : List ManifestEntry) : decodeText decode text = .ok entries ↔
      ∃ tree : Tree, tree.Stands text.toList ∧ Denotes tree entries := by
    rw [decodeText_eq_ok fun draft => wary_decode draft entries]
    simp only [decode_draft]
  constructor
  · rintro ⟨manifest, accepted, rfl⟩
    exact ⟨manifest.distinct, (decoded _).mp (ofJson_eq_ok.mp accepted)⟩
  · rintro ⟨distinct, listed⟩
    exact ⟨⟨entries, distinct⟩, ofJson_eq_ok.mpr ((decoded _).mpr listed), rfl⟩

/-- A list of a list of entries is accepted, each of them a list in its turn, and so there is no
object in the text at all. -/
theorem list_is_accepted :
    let text := "[[[\"a.php\",[\"A\"]]]]"
    (ofJson text).map (fun manifest => manifest.entries.map fun entry =>
        (entry.file.text, entry.classes.map QualifiedName.text)) = .ok [("a.php", ["A"])] ∧
      ¬ ∃ members, (Tree.object members).Stands text.toList := by
  intro text
  have list : (read text).1.value mostLevels =
      .ok (.array [.array [.array [.string "a.php", .array [.string "A"]]]]) := by decide +kernel
  refine ⟨by decide +kernel, ?_⟩
  rintro ⟨members, stands⟩
  obtain ⟨trail, whole, -⟩ := stands.read
  rw [whole] at list
  obtain ⟨items, room, same, -⟩ := shaped_of_value list
  cases same

end

end Manifest

end PackageIndex
