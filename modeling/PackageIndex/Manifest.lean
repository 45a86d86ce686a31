import PackageIndex.Json.Decode
import PackageIndex.Json.Render
import PackageIndex.Name.Qualified
import PackageIndex.RelativePath

/-!
# Manifests

The manifest of a package lists its files and, for each, the classes it declares. Entries keep the
order in which their files were first added, and a class that stands in several entries belongs to
the first. Files only ever enter through `insert`, which never makes a second entry for one.
-/
namespace PackageIndex

structure ManifestEntry where
  file : RelativePath
  classes : List QualifiedName
  deriving DecidableEq, Repr

structure Manifest where
  entries : List ManifestEntry
  distinct : (entries.map ManifestEntry.file).Nodup
  deriving DecidableEq, Repr

namespace ManifestEntry

/-- The classes with those of `new` that are not among them at the end, each once. -/
def union (classes new : List QualifiedName) : List QualifiedName :=
  new.foldl (fun done name => if name ∈ done then done else done ++ [name]) classes

@[simp] theorem union_nil (classes : List QualifiedName) : union classes [] = classes := rfl

theorem union_cons (classes new : List QualifiedName) (name : QualifiedName) :
    union classes (name :: new) =
      union (if name ∈ classes then classes else classes ++ [name]) new := rfl

def encode (entry : ManifestEntry) : Json.Value :=
  .object [("file", .string entry.file.text),
    ("classes", .array (entry.classes.map fun name => .string name.text))]

end ManifestEntry

namespace Manifest

def empty : Manifest := ⟨[], List.nodup_nil⟩

def isEmpty (manifest : Manifest) : Bool := manifest.entries.isEmpty

@[simp] theorem isEmpty_empty : empty.isEmpty = true := rfl

/-- The file of the first entry that lists the class. -/
def lookup? (manifest : Manifest) (name : QualifiedName) : Option RelativePath :=
  (manifest.entries.find? fun entry => name ∈ entry.classes).map ManifestEntry.file

@[simp] theorem lookup?_empty (name : QualifiedName) : empty.lookup? name = none := rfl

def contains (manifest : Manifest) (name : QualifiedName) : Bool :=
  (manifest.lookup? name).isSome

/-- The entries after `insert`, and how many classes are new to the entry of the file. -/
def insertInto (file : RelativePath) (classes : List QualifiedName) :
    List ManifestEntry → List ManifestEntry × Nat
  | [] =>
    let all := ManifestEntry.union [] classes
    ([⟨file, all⟩], all.length)
  | entry :: rest =>
    if entry.file = file then
      let all := ManifestEntry.union entry.classes classes
      (⟨file, all⟩ :: rest, all.length - entry.classes.length)
    else
      let (rest, added) := insertInto file classes rest
      (entry :: rest, added)

theorem files_insertInto (file : RelativePath) (classes : List QualifiedName)
    (entries : List ManifestEntry) :
    (insertInto file classes entries).1.map ManifestEntry.file =
      if file ∈ entries.map ManifestEntry.file then entries.map ManifestEntry.file
      else entries.map ManifestEntry.file ++ [file] := by
  induction entries with
  | nil => rfl
  | cons entry entries ih =>
    unfold insertInto
    by_cases same : entry.file = file
    · simp [same]
    · simp only [same, if_false, List.map_cons, ih, List.mem_cons, Ne.symm same, false_or]
      split <;> rfl

/-- Adds classes to the entry of a file, which is made at the end if there is none; also tells how
many of the classes were not in that entry before. -/
def insert (manifest : Manifest) (file : RelativePath) (classes : List QualifiedName) :
    Manifest × Nat :=
  let inserted := insertInto file classes manifest.entries
  have distinct : (inserted.1.map ManifestEntry.file).Nodup := by
    rw [files_insertInto]
    split
    · exact manifest.distinct
    · next fresh =>
      refine List.nodup_append.mpr ⟨manifest.distinct, by simp, fun a ha b hb => ?_⟩
      rw [List.mem_singleton.mp hb]
      rintro rfl
      exact fresh ha
  (⟨inserted.1, distinct⟩, inserted.2)

/-! ## The document -/

def documentName : String := "autoloader"

def encode (manifest : Manifest) : Json.Value :=
  .object [("files", .array (manifest.entries.map ManifestEntry.encode))]

def toJson (manifest : Manifest) : String := manifest.encode.document

open Json

def rejecting {α : Type} (result : Except Fault α) : Decoded α :=
  result.mapError fun fault => .rejected fault.message

theorem rejecting_eq_ok {α : Type} {result : Except Fault α} {a : α} :
    rejecting result = .ok a ↔ result = .ok a := by
  cases result with
  | ok value =>
    have kept : rejecting (.ok value) = .ok value := rfl
    rw [kept, Except.ok.injEq, Except.ok.injEq]
  | error fault =>
    have refused : (rejecting (.error fault) : Decoded α) =
        .error (.rejected fault.message) := rfl
    simp [refused]

def decodeFile (draft : Draft) : Decoded RelativePath := do
  let text ← draft.toText
  rejecting (RelativePath.parse text)

def decodeClass (draft : Draft) : Decoded QualifiedName := do
  let text ← draft.toText
  rejecting (QualifiedName.parse text)

def decodeClasses (draft : Draft) : Decoded (List QualifiedName) := draft.toList decodeClass

/-- The fields of an entry that have been seen. -/
structure EntryFields where
  file : Option RelativePath
  classes : Option (List QualifiedName)

def EntryFields.take (fields : EntryFields) (name : String) (value : Draft) :
    Decoded EntryFields :=
  match name with
  | "file" => do
    let file ← once name fields.file fun _ => decodeFile value
    pure { fields with file }
  | "classes" => do
    let classes ← once name fields.classes fun _ => decodeClasses value
    pure { fields with classes }
  | _ => do
    ofText value.skip
    pure fields

/-- An entry is an object; its two fields may also stand in a list. -/
def decodeEntry : Draft → Decoded ManifestEntry
  | .object members => do
    let fields ← members.fold EntryFields.take ⟨none, none⟩
    let file ← required "file" fields.file
    let classes ← required "classes" fields.classes
    pure ⟨file, classes⟩
  | .array items => do
    let short (n : Nat) : DecodeFault := .wrongLength n "struct ManifestEntry with 2 elements"
    let some (file, items) ← items.next? | .error (short 0)
    let file ← decodeFile file
    let some (classes, items) ← items.next? | .error (short 1)
    let classes ← decodeClasses classes
    ofText items.close
    pure ⟨file, classes⟩
  | draft => mismatch "struct ManifestEntry" draft

def decodeEntries (draft : Draft) : Decoded (List ManifestEntry) := draft.toList decodeEntry

def takeFiles (seen : Option (List ManifestEntry)) (name : String) (value : Draft) :
    Decoded (Option (List ManifestEntry)) :=
  if name = "files" then once name seen fun _ => decodeEntries value
  else do
    ofText value.skip
    pure seen

def decode : Draft → Decoded (List ManifestEntry)
  | .object members => do
    let files ← members.fold takeFiles none
    required "files" files
  | .array items => do
    let some (files, items) ← items.next?
      | .error (.wrongLength 0 "struct Manifest with 1 element")
    let entries ← decodeEntries files
    ofText items.close
    pure entries
  | draft => mismatch "struct Manifest" draft

/-- The first file that an earlier one equals. -/
def repeated? : (earlier files : List RelativePath) → Option RelativePath
  | _, [] => none
  | earlier, file :: rest =>
    if file ∈ earlier then some file else repeated? (file :: earlier) rest

theorem repeated?_eq_none {earlier files : List RelativePath} :
    repeated? earlier files = none ↔ files.Nodup ∧ ∀ file ∈ files, file ∉ earlier := by
  induction files generalizing earlier with
  | nil => simp [repeated?]
  | cons file files ih =>
    unfold repeated?
    split
    · next seen => simp [seen]
    · next fresh =>
      rw [ih]
      simp only [List.nodup_cons, List.mem_cons, not_or]
      grind

/-- A document may list a file only once. -/
def ofJson (text : String) : Except Fault Manifest :=
  match decodeText decode text with
  | .error fault => .error (.undecodable documentName fault.message)
  | .ok entries =>
    match repeats : repeated? [] (entries.map ManifestEntry.file) with
    | some file =>
      .error (.undecodable documentName s!"file '{file.text}' is listed more than once")
    | none => .ok ⟨entries, (repeated?_eq_none.mp repeats).1⟩

end Manifest

end PackageIndex
