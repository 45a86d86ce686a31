import PackageIndex.Proofs.Store.Confined
import PackageIndex.Proofs.Workspace
import PackageIndex.Workspace.Operation

/-!
# Operations stay inside their package

Paths come from the descriptor, from manifests and from requests. All of them are relative paths,
and these resolve below the directory of the package, so no operation sees or changes a file
elsewhere.
-/
namespace PackageIndex

open MemoryStore (Confined)

variable {setting : MemoryStore.Setting}

namespace Workspace

variable (workspace : Workspace) (package : PackageName)

theorem confined_require :
    Confined setting (workspace.directory package) (workspace.require package) fun directory =>
      directory = workspace.directory package := by
  unfold require isPackage
  refine (Confined.isPresent (Path.isWithin_self _)).bind fun found _ => ?_
  split
  · exact .pure rfl
  · exact .fail _

theorem confined_descriptor :
    Confined setting (workspace.directory package) (workspace.descriptor package)
      fun _ => True := by
  unfold descriptor
  have inside := workspace.isWithin_descriptorFile package
  refine Confined.bind (P := fun _ => True)
    (Confined.rescue (Confined.read inside) fun failure => ?_) fun text _ => ?_
  · split <;> exact .fail _
  · split
    · exact .fail _
    · exact (Confined.note _).bind fun _ _ => .pure trivial

/-- A file that the descriptor names is below the directory of the package. -/
theorem confined_requireFile (file? : Descriptor → Option RelativePath) {missing : Failure}
    {next : Option Path → Work Path} (without : next none = Work.fail missing)
    (given : ∀ path, next (some path) = pure path) :
    Confined setting (workspace.directory package)
      ((workspace.descriptor package >>= fun descriptor =>
        pure ((file? descriptor).map (workspace.resolve package))) >>= next)
      fun path => path.isWithin (workspace.directory package) = true := by
  refine Confined.bind (P := fun path? => ∀ path ∈ path?,
    path.isWithin (workspace.directory package) = true) ?_ fun path? inside => ?_
  · refine (workspace.confined_descriptor package).bind fun descriptor _ => .pure ?_
    intro path named
    obtain ⟨file, -, rfl⟩ := Option.map_eq_some_iff.mp named
    exact workspace.isWithin_resolve package file
  · cases path? with
    | none =>
      rw [without]
      exact .fail missing
    | some path =>
      rw [given]
      exact .pure (inside path rfl)

theorem confined_requireAutoloader :
    Confined setting (workspace.directory package) (workspace.requireAutoloader package)
      fun path => path.isWithin (workspace.directory package) = true :=
  workspace.confined_requireFile package Descriptor.autoload rfl fun _ => rfl

theorem confined_requireRouting :
    Confined setting (workspace.directory package) (workspace.requireRouting package)
      fun path => path.isWithin (workspace.directory package) = true :=
  workspace.confined_requireFile package Descriptor.routing rfl fun _ => rfl

end Workspace

/-! ## The autoloader -/

namespace Autoloader

section
variable {directory path : Path} (inside : path.isWithin directory = true)
include inside

theorem confined_readManifest :
    Confined setting directory (readManifest path) fun _ => True := by
  unfold readManifest
  refine (Confined.read inside).bind fun text _ => ?_
  split
  · exact .pure trivial
  · exact .fail _

theorem confined_parseFile : Confined setting directory (parseFile path) fun _ => True := by
  unfold parseFile
  refine (Confined.read inside).bind fun text _ => (Confined.parse text).bind fun parsed _ => ?_
  split
  · exact (Confined.note _).bind fun _ _ => .pure trivial
  · exact .fail _

theorem confined_scanFile (file : RelativePath) :
    Confined setting directory (scanFile path file) fun _ => True := by
  unfold scanFile
  exact (confined_parseFile inside).bind fun nodes _ => .lift _

end

theorem confined_sortOut {directory : Path} (package : PackageName) (found : List Declaration) :
    Confined setting directory (sortOut package found) fun _ => True := by
  induction found with
  | nil => exact .pure trivial
  | cons declaration found ih =>
    unfold sortOut
    split
    · exact ih.bind fun names _ => .pure trivial
    · exact (Confined.note _).bind fun _ _ => ih.bind fun names _ => .pure trivial

theorem confined_takeFile {directory source : Path} (inside : source.isWithin directory = true)
    (package : PackageName) (progress : Progress) :
    Confined setting directory (takeFile package directory progress source) fun _ => True := by
  unfold takeFile
  refine (Confined.lift _).bind fun file _ => (confined_scanFile inside file).bind fun found _ =>
    (confined_sortOut package found).bind fun names _ => ?_
  dsimp only
  split <;> exact .pure trivial

/-- Sources that are inside are taken in without looking beyond. -/
theorem confined_takeFiles {directory : Path} (package : PackageName) (progress : Progress)
    (sources : List Path) (inside : ∀ source ∈ sources, source.isWithin directory = true) :
    Confined setting directory (takeFiles package directory progress sources) fun _ => True := by
  induction sources generalizing progress with
  | nil => exact .pure trivial
  | cons source sources ih =>
    unfold takeFiles
    exact (confined_takeFile (inside source (List.mem_cons_self ..)) package progress).bind
      fun next _ => ih next fun other mem => inside other (List.mem_cons_of_mem _ mem)

variable (workspace : Workspace) (package : PackageName)

theorem confined_init :
    Confined setting (workspace.directory package) (init workspace package) fun _ => True := by
  unfold init writeManifest
  exact (workspace.confined_require package).bind fun _ _ =>
    (workspace.confined_requireAutoloader package).bind fun path inside =>
    (Confined.store inside _).bind fun _ _ => (Confined.note _).bind fun _ _ => .pure trivial

theorem confined_load :
    Confined setting (workspace.directory package) (load workspace package) fun _ => True := by
  unfold load
  exact (workspace.confined_requireAutoloader package).bind fun path inside =>
    confined_readManifest inside

theorem confined_lookup? (name : QualifiedName) :
    Confined setting (workspace.directory package) (lookup? workspace package name)
      fun _ => True := by
  unfold lookup?
  exact (confined_load workspace package).bind fun manifest _ => .pure trivial

theorem confined_contains (name : QualifiedName) :
    Confined setting (workspace.directory package) (contains workspace package name)
      fun _ => True := by
  unfold contains
  exact (confined_lookup? workspace package name).bind fun file _ => .pure trivial

theorem confined_declaredClasses (file : RelativePath) :
    Confined setting (workspace.directory package) (declaredClasses workspace package file)
      fun _ => True := by
  unfold declaredClasses
  exact (confined_scanFile (workspace.isWithin_resolve package file) file).bind fun found _ =>
    (Confined.note _).bind fun _ _ => .lift _

/-- Merging classes stays in the package. -/
theorem confined_merge (file : RelativePath) (classes : List QualifiedName) (exclusive : Bool) :
    Confined setting (workspace.directory package)
      (merge workspace package file classes exclusive) fun _ => True := by
  unfold merge
  refine (workspace.confined_requireAutoloader package).bind fun path inside =>
    (confined_readManifest inside).bind fun manifest _ => ?_
  have last (addition : Addition) (event : Event) (text : String) :
      Confined setting (workspace.directory package)
        (Work.store path text >>= fun _ => Work.note event >>= fun _ => pure addition)
        fun _ => True :=
    (Confined.store inside text).bind fun _ _ => (Confined.note event).bind fun _ _ => .pure trivial
  cases exclusive with
  | false => exact last _ _ _
  | true =>
    dsimp only
    cases owned? manifest file classes with
    | none => exact last _ _ _
    | some conflict => exact (Confined.fail (P := fun _ => True) _).bind fun _ _ => last _ _ _

theorem confined_add (file : RelativePath) (classes : Option (List String)) :
    Confined setting (workspace.directory package) (add workspace package file classes)
      fun _ => True := by
  unfold add
  refine (workspace.confined_require package).bind fun _ _ => ?_
  cases classes with
  | some given =>
    exact (Confined.lift _).bind fun names _ => confined_merge workspace package file names false
  | none =>
    exact (confined_declaredClasses workspace package file).bind fun names _ =>
      confined_merge workspace package file names false

theorem confined_register (file : RelativePath) (classes : List String) :
    Confined setting (workspace.directory package) (register workspace package file classes)
      fun _ => True := by
  unfold register
  exact (workspace.confined_require package).bind fun _ _ => (Confined.lift _).bind fun names _ =>
    confined_merge workspace package file names true

/-- Rebuilding lists and reads below the directory alone. -/
theorem confined_rebuild :
    Confined setting (workspace.directory package) (rebuild workspace package) fun _ => True := by
  unfold rebuild writeManifest
  refine (workspace.confined_require package).bind fun directory found => ?_
  subst found
  exact (workspace.confined_requireAutoloader package).bind fun path inside =>
    (Confined.list "php").bind fun sources listed =>
    (confined_takeFiles package .start sources listed).bind fun progress _ =>
    (Confined.store inside _).bind fun _ _ => (Confined.note _).bind fun _ _ => .pure trivial

end Autoloader

/-! ## Controllers and routes -/

variable (workspace : Workspace) (package : PackageName)

theorem Controllers.confined_isPresent (reference : ControllerRef) :
    Confined setting (workspace.directory package) (isPresent workspace package reference)
      fun _ => True := by
  unfold isPresent
  refine (Autoloader.confined_lookup? workspace package _).bind fun file _ => ?_
  cases file with
  | none => exact (Confined.note _).bind fun _ _ => .pure trivial
  | some file =>
    have inside := workspace.isWithin_resolve package file
    refine (Confined.isPresent inside).bind fun found _ => ?_
    split
    · refine (Autoloader.confined_parseFile inside).bind fun nodes _ => ?_
      split
      · exact .pure trivial
      · exact .fail _
    · exact .fail _

namespace Routing

theorem confined_readTable {directory path : Path} (inside : path.isWithin directory = true) :
    Confined setting directory (readTable path) fun _ => True := by
  unfold readTable
  refine (Confined.read inside).bind fun text _ => ?_
  split
  · exact .pure trivial
  · exact .fail _

theorem confined_init :
    Confined setting (workspace.directory package) (init workspace package) fun _ => True := by
  unfold init writeTable
  exact (workspace.confined_require package).bind fun _ _ =>
    (workspace.confined_requireRouting package).bind fun path inside =>
    (Confined.store inside _).bind fun _ _ => (Confined.note _).bind fun _ _ => .pure trivial

theorem confined_list :
    Confined setting (workspace.directory package) (list workspace package) fun _ => True := by
  unfold list
  exact (workspace.confined_require package).bind fun _ _ =>
    (workspace.confined_requireRouting package).bind fun path inside => confined_readTable inside

theorem confined_checkController (reference : String) :
    Confined setting (workspace.directory package) (checkController workspace package reference)
      fun _ => True := by
  unfold checkController
  refine (Confined.lift _).bind fun reference _ =>
    (Controllers.confined_isPresent workspace package reference).bind fun found _ => ?_
  split
  · exact .pure trivial
  · exact .fail _

theorem confined_checkPermission (permission : Option Permission) :
    Confined setting (workspace.directory package) (checkPermission workspace package permission)
      fun _ => True := by
  unfold checkPermission
  split
  · next reference =>
    exact (confined_checkController workspace package reference).bind fun _ _ => .pure trivial
  · exact .pure trivial

theorem confined_add (request : RouteRequest) :
    Confined setting (workspace.directory package) (add workspace package request)
      fun _ => True := by
  unfold add writeTable
  exact (workspace.confined_require package).bind fun _ _ =>
    (workspace.confined_requireRouting package).bind fun path inside =>
    (confined_readTable inside).bind fun table _ => (Confined.lift _).bind fun address _ =>
    (confined_checkController workspace package _).bind fun controller _ =>
    (confined_checkPermission workspace package _).bind fun api _ =>
    (confined_checkPermission workspace package _).bind fun ajax _ =>
    (Confined.store inside _).bind fun _ _ => (Confined.note _).bind fun _ _ => .pure trivial

end Routing

/-! ## Operations -/

namespace Operation

open MemoryStore (perform)

/-- No operation leaves the directory of its package. -/
theorem confined_work (operation : Operation) :
    Confined setting (workspace.directory package) (operation.work workspace package)
      fun _ => True := by
  cases operation with
  | initAutoloader => exact Autoloader.confined_init workspace package
  | load => exact Autoloader.confined_load workspace package
  | add file classes => exact Autoloader.confined_add workspace package file classes
  | register file classes => exact Autoloader.confined_register workspace package file classes
  | lookup name => exact Autoloader.confined_lookup? workspace package name
  | contains name => exact Autoloader.confined_contains workspace package name
  | rebuild => exact Autoloader.confined_rebuild workspace package
  | checkController reference => exact Controllers.confined_isPresent workspace package reference
  | initRouting => exact Routing.confined_init workspace package
  | listRoutes => exact Routing.confined_list workspace package
  | addRoute request => exact Routing.confined_add workspace package request

/-- Stores that agree below the directory of a package cannot be told apart by an operation on it,
they agree there afterwards, and outside each holds the files it held. -/
theorem work_confined (setting : MemoryStore.Setting) (operation : Operation) {s t : MemoryStore}
    (reachableLeft : s.Reachable) (reachableRight : t.Reachable)
    (agree : MemoryStore.AgreeBelow (workspace.directory package) s t) :
    let ran (store : MemoryStore) := perform setting (operation.work workspace package) store
    (ran s).1 = (ran t).1 ∧
    MemoryStore.AgreeBelow (workspace.directory package) (ran s).2 (ran t).2 ∧
    (∀ file : Path × String, file.1.isWithin (workspace.directory package) = false →
      (file ∈ (ran s).2.files ↔ file ∈ s.files) ∧ (file ∈ (ran t).2.files ↔ file ∈ t.files)) := by
  have twins : MemoryStore.Twins (workspace.directory package) s t :=
    ⟨reachableLeft.ordered, reachableRight.ordered, agree⟩
  have confined : Confined setting (workspace.directory package)
      (operation.work workspace package) fun _ => True := operation.confined_work workspace package
  refine ⟨confined.alike s t twins, (confined.agrees s t twins).agree, fun file outside => ?_⟩
  have kept (store : MemoryStore) :
      file ∈ (perform setting (operation.work workspace package) store).2.files ↔
        file ∈ store.files := by
    have same : file ∈ MemoryStore.beyond (workspace.directory package)
        (perform setting (operation.work workspace package) store).2.files ↔
          file ∈ MemoryStore.beyond (workspace.directory package) store.files := by
      rw [confined.keeps]
    simpa [MemoryStore.mem_beyond, outside] using same
  exact ⟨kept s, kept t⟩

/-- Rebuilding a package gives the same whether or not a file of another package is there. -/
theorem rebuild_confined_beside_package :
    let workspace : Workspace := ⟨⟨"packages"⟩⟩
    let shop : PackageName := ⟨"shop", by decide⟩
    let setting : MemoryStore.Setting := ⟨fun _ _ => false, fun _ => .ok []⟩
    let s := MemoryStore.empty.withFile ⟨"packages/shop/package.json"⟩
      "\x7b\"autoload\":\"autoload.json\"\x7d"
    let t := s.withFile ⟨"packages/blog/a.php"⟩ "<?php"
    s.Reachable ∧ t.Reachable ∧ s ≠ t ∧
      MemoryStore.AgreeBelow (workspace.directory shop) s t ∧
      (perform setting (Operation.rebuild.work workspace shop) s).1 =
        (perform setting (Operation.rebuild.work workspace shop) t).1 := by
  intro workspace shop setting s t
  have reachableLeft : s.Reachable := .withFile _ _ .empty
  have reachableRight : t.Reachable := .withFile _ _ reachableLeft
  have agree : MemoryStore.AgreeBelow (workspace.directory shop) s t := by
    have files : t.files = (⟨"packages/blog/a.php"⟩, "<?php") :: s.files := by rfl
    have directories : t.directories =
        s.directories ++ [[.name "packages", .name "blog"]] := by rfl
    refine ⟨fun file inside => ?_, fun inner inside => ?_⟩
    · rw [files, List.mem_cons]
      refine ⟨.inr, fun mem => mem.resolve_left ?_⟩
      rintro rfl
      exact absurd inside (by decide)
    · rw [directories, List.mem_append, List.mem_singleton]
      refine ⟨.inl, fun mem => mem.resolve_right ?_⟩
      rintro rfl
      exact absurd inside (by decide)
  exact ⟨reachableLeft, reachableRight, by decide, agree,
    (work_confined workspace shop setting .rebuild reachableLeft reachableRight agree).1⟩

end Operation

end PackageIndex
