import PackageIndex.Proofs.Store.Outcome
import PackageIndex.Proofs.Store.Perform
import PackageIndex.Workspace

/-!
# Where the files of a package are

What a store holds as the descriptor of a package decides which files its operations look for. Each
of these files is below the directory of the package.
-/
namespace PackageIndex

theorem toOption_eq_some {ε α : Type} {result : Except ε α} {a : α} :
    result.toOption = some a ↔ result = .ok a := by
  cases result <;> simp [Except.toOption]

namespace Workspace

open MemoryStore (Grants Parser Reads)

variable {parser : Parser} {store : MemoryStore}

section
variable (workspace : Workspace) (package : PackageName)

def descriptorFile : Path := (workspace.directory package).join Descriptor.fileName

def descriptor? (store : MemoryStore) : Option Descriptor :=
  (store.file? (workspace.descriptorFile package)).bind fun text =>
    (Descriptor.ofJson text).toOption

def autoloaderIn? (store : MemoryStore) : Option Path :=
  (workspace.descriptor? package store).bind fun descriptor =>
    descriptor.autoload.map (workspace.resolve package)

def routingIn? (store : MemoryStore) : Option Path :=
  (workspace.descriptor? package store).bind fun descriptor =>
    descriptor.routing.map (workspace.resolve package)

/-! ## Judgements -/

/-- A package that is required has its directory. -/
theorem reads_require :
    Reads parser store (workspace.require package) fun directory =>
      directory = workspace.directory package ∧
        store.isPresent (workspace.directory package) = true := by
  unfold require
  refine (Reads.isPresent _).bind fun found same => ?_
  split
  · next present => exact .pure ⟨rfl, same ▸ present⟩
  · exact .fail _

/-- The descriptor is what the store has. -/
theorem reads_descriptor :
    Reads parser store (workspace.descriptor package) fun descriptor =>
      workspace.descriptor? package store = some descriptor := by
  unfold descriptor
  refine Reads.bind (P := fun text => store.file? (workspace.descriptorFile package) = some text)
    (Reads.rescue (Reads.read _) fun failure => ?_) fun text found => ?_
  · split <;> exact .fail _
  · split
    · exact .fail _
    · next descriptor decoded =>
      refine (Reads.note _).bind fun _ _ => .pure ?_
      simp [descriptor?, found, decoded, Except.toOption]

/-- A file that the descriptor names is where the descriptor in the store has it. -/
theorem reads_requireFile (file? : Descriptor → Option RelativePath) {missing : Failure}
    {next : Option Path → Work Path} (without : next none = Work.fail missing)
    (given : ∀ path, next (some path) = pure path) :
    Reads parser store
      ((workspace.descriptor package >>= fun descriptor =>
        pure ((file? descriptor).map (workspace.resolve package))) >>= next)
      fun path => ((workspace.descriptor? package store).bind fun descriptor =>
        (file? descriptor).map (workspace.resolve package)) = some path := by
  refine Reads.bind (P := fun path? => ((workspace.descriptor? package store).bind
    fun descriptor => (file? descriptor).map (workspace.resolve package)) = path?) ?_ ?_
  · refine (workspace.reads_descriptor package).bind fun descriptor found => .pure ?_
    rw [found, Option.bind_some]
  · intro path? found
    cases path? with
    | none =>
      rw [without]
      exact .fail missing
    | some path =>
      rw [given]
      exact .pure found

theorem reads_requireAutoloader :
    Reads parser store (workspace.requireAutoloader package) fun path =>
      workspace.autoloaderIn? package store = some path :=
  workspace.reads_requireFile package Descriptor.autoload rfl fun _ => rfl

theorem reads_requireRouting :
    Reads parser store (workspace.requireRouting package) fun path =>
      workspace.routingIn? package store = some path :=
  workspace.reads_requireFile package Descriptor.routing rfl fun _ => rfl

/-! ## Below the directory of the package -/

theorem text_directory_ne_empty : (workspace.directory package).text ≠ "" := by
  have slashless : '/' ∉ package.text.toList :=
    Name.not_mem_of_isIdentifier package.identifier (by decide)
  unfold directory
  by_cases empty : workspace.packagesDirectory.text = ""
  · simp [Path.join, Path.isAbsolute_of_not_mem slashless, empty,
      Name.ne_empty_of_isIdentifier package.identifier]
  · exact Path.text_join_ne_empty empty slashless

theorem isWithin_descriptorFile :
    (workspace.descriptorFile package).isWithin (workspace.directory package) = true :=
  Path.isWithin_join (workspace.text_directory_ne_empty package) (by decide)

/-- A file of a package is inside the directory of the package. -/
theorem isWithin_resolve (file : RelativePath) :
    (workspace.resolve package file).isWithin (workspace.directory package) = true :=
  file.isWithin_resolve (workspace.text_directory_ne_empty package)

end

/-! ## When another file is put -/

section
variable {workspace : Workspace} {package : PackageName} {after : MemoryStore} {path : Path}

/-- The autoloader is named by files alone. -/
theorem autoloaderIn?_congr (kept : after.files = store.files) :
    workspace.autoloaderIn? package after = workspace.autoloaderIn? package store := by
  rw [autoloaderIn?, descriptor?, MemoryStore.file?_eq, kept, ← MemoryStore.file?_eq,
    ← descriptor?, ← autoloaderIn?]

/-- A file that is put beside the descriptor leaves it as it is. -/
theorem autoloaderIn?_putFile {text : String}
    (beside : path.components ≠ (workspace.descriptorFile package).components)
    (puts : after.files = MemoryStore.putFile path text store.files) :
    workspace.autoloaderIn? package after = workspace.autoloaderIn? package store := by
  rw [autoloaderIn?, descriptor?, MemoryStore.file?_eq, puts,
    MemoryStore.content?_putFile_other (Ne.symm beside), ← MemoryStore.file?_eq, ← descriptor?,
    ← autoloaderIn?]

end

/-! ## When nothing is refused -/

section
variable {workspace : Workspace} {package : PackageName}

/-- A package that is there is granted. -/
theorem grants_require (present : store.isPresent (workspace.directory package) = true) :
    Grants parser store (workspace.require package) (workspace.directory package) := by
  unfold require
  refine (Grants.isPresent _).bind ?_
  rw [present]
  exact .pure _

theorem grants_descriptor {descriptor : Descriptor}
    (described : workspace.descriptor? package store = some descriptor) :
    Grants parser store (workspace.descriptor package) descriptor := by
  obtain ⟨text, found, decoded⟩ := Option.bind_eq_some_iff.mp described
  unfold Workspace.descriptor
  refine ((Grants.read found).rescue _).bind ?_
  rw [toOption_eq_some.mp decoded]
  exact (Grants.note _).bind (.pure _)

theorem grants_requireAutoloader {path : Path}
    (named : workspace.autoloaderIn? package store = some path) :
    Grants parser store (workspace.requireAutoloader package) path := by
  obtain ⟨descriptor, described, resolved⟩ := Option.bind_eq_some_iff.mp named
  unfold requireAutoloader autoloaderFile?
  refine ((grants_descriptor described).bind
    (.pure (descriptor.autoload.map (workspace.resolve package)))).bind ?_
  rw [resolved]
  exact .pure _

end

end Workspace

end PackageIndex
