import PackageIndex.Proofs.Workspace
import PackageIndex.Workspace.Autoloader

/-!
# What the operations on an autoloader do

A successful operation has read a descriptor and, unless it starts anew, a manifest; it puts the
document of the new manifest at the place the descriptor names. Rebuilding takes the source files in
the order of their paths into a manifest that begins empty.
-/
namespace PackageIndex.Autoloader

open MemoryStore (Grants Parser Reads Writes perform)

variable {parser : Parser} {store : MemoryStore}

/-- What the file at a path says as a manifest; nothing if there is no file. -/
def stored? (store : MemoryStore) (path : Path) : Option (Except Fault Manifest) :=
  (store.file? path).map Manifest.ofJson

theorem reads_readManifest (path : Path) :
    Reads parser store (readManifest path) fun manifest =>
      stored? store path = some (.ok manifest) := by
  unfold readManifest
  refine (Reads.read path).bind fun text found => ?_
  split
  · next manifest decoded => exact .pure (by simp [stored?, found, decoded])
  · exact .fail _

/-! ## Sources -/

def parsed? (parser : Parser) (store : MemoryStore) (path : Path) : Option (List SourceNode) :=
  (store.file? path).bind fun text => (parser text).toOption

def scanned? (parser : Parser) (store : MemoryStore) (path : Path) (file : RelativePath) :
    Option (List Declaration) :=
  (parsed? parser store path).bind fun nodes => (SourceNode.scan nodes file).toOption

theorem reads_parseFile (path : Path) :
    Reads parser store (parseFile path) fun nodes => parsed? parser store path = some nodes := by
  unfold parseFile
  refine (Reads.read path).bind fun text found => (Reads.parse text).bind fun parsed same => ?_
  subst same
  split
  · next nodes parses =>
    refine (Reads.note _).bind fun _ _ => .pure ?_
    simp [parsed?, found, parses, Except.toOption]
  · exact .fail _

/-- What is scanned is the source that the store holds. -/
theorem reads_scanFile (path : Path) (file : RelativePath) :
    Reads parser store (scanFile path file) fun found =>
      scanned? parser store path file = some found := by
  unfold scanFile
  refine (reads_parseFile path).bind fun nodes parses => (Reads.lift _).mono fun found scans => ?_
  simp [scanned?, parses, scans, Except.toOption]

/-- What is read off a source depends on its text alone. -/
theorem scanned?_congr {after : MemoryStore} {path other : Path}
    (same : after.file? other = store.file? path) (file : RelativePath) :
    scanned? parser after other file = scanned? parser store path file := by
  rw [scanned?, parsed?, same, ← parsed?, ← scanned?]

def own (package : PackageName) (found : List Declaration) : List QualifiedName :=
  found.filterMap fun declaration => (declaration.name.withoutPackage package).toOption

def foreign (package : PackageName) (found : List Declaration) : List QualifiedName :=
  (found.filter fun declaration => !(declaration.name.withoutPackage package).isOk).map
    Declaration.name

/-- Declarations are sorted into those of the package and the others. -/
theorem reads_sortOut (package : PackageName) (found : List Declaration) :
    Reads parser store (sortOut package found) fun names =>
      names = (own package found, foreign package found) := by
  induction found with
  | nil => exact .pure rfl
  | cons declaration found ih =>
    unfold sortOut
    cases parted : declaration.name.withoutPackage package with
    | ok name =>
      refine ih.bind fun names same => .pure ?_
      subst same
      simp [own, foreign, parted, Except.toOption, Except.isOk, Except.toBool]
    | error fault =>
      refine (Reads.note _).bind fun _ _ => ih.bind fun names same => .pure ?_
      subst same
      simp [own, foreign, parted, Except.toOption, Except.isOk, Except.toBool]

def Progress.take? (parser : Parser) (store : MemoryStore) (package : PackageName)
    (directory : Path) (progress : Progress) (source : Path) : Option Progress := do
  let file ← (RelativePath.ofPackagePath directory source).toOption
  let found ← scanned? parser store source file
  let skipped := progress.skipped ++ foreign package found
  if (own package found).isEmpty then pure { progress with skipped }
  else
    let (manifest, added) := progress.manifest.insert file (own package found)
    pure ⟨manifest, progress.classes + added, skipped⟩

theorem reads_takeFile (package : PackageName) (directory : Path) (progress : Progress)
    (source : Path) :
    Reads parser store (takeFile package directory progress source) fun next =>
      progress.take? parser store package directory source = some next := by
  unfold takeFile
  refine (Reads.lift _).bind fun file inside => (reads_scanFile source file).bind fun found scans =>
    (reads_sortOut package found).bind fun names same => ?_
  subst same
  dsimp only
  split
  · next none =>
    have none := List.isEmpty_iff.mp none
    exact .pure (by simp [Progress.take?, inside, scans, none, Except.toOption])
  · next some =>
    have some : own package found ≠ [] := fun empty => some (by simp [empty])
    exact .pure (by simp [Progress.take?, inside, scans, some, Except.toOption])

/-- Sources are taken in one after the other. -/
theorem reads_takeFiles (package : PackageName) (directory : Path) (progress : Progress)
    (sources : List Path) :
    Reads parser store (takeFiles package directory progress sources) fun last =>
      sources.foldlM (Progress.take? parser store package directory) progress = some last := by
  induction sources generalizing progress with
  | nil => exact .pure rfl
  | cons source sources ih =>
    unfold takeFiles
    refine (reads_takeFile package directory progress source).bind fun next taken =>
      (ih next).mono fun last more => ?_
    simp [taken, more]

section
variable (workspace : Workspace) (package : PackageName)

def index? (parser : Parser) (store : MemoryStore) : Option Progress :=
  (store.list (workspace.directory package) "php").foldlM
    (Progress.take? parser store package (workspace.directory package)) .start

/-! ## Operations that read -/

theorem reads_load :
    Reads parser store (load workspace package) fun manifest =>
      ∃ path, workspace.autoloaderIn? package store = some path ∧
        stored? store path = some (.ok manifest) := by
  unfold load
  exact (workspace.reads_requireAutoloader package).bind fun path named =>
    (reads_readManifest path).mono fun manifest holds => ⟨path, named, holds⟩

/-- A class is looked up in the manifest that is stored. -/
theorem reads_lookup? (name : QualifiedName) :
    Reads parser store (lookup? workspace package name) fun file =>
      ∃ path manifest, workspace.autoloaderIn? package store = some path ∧
        stored? store path = some (.ok manifest) ∧ file = manifest.lookup? name := by
  unfold lookup?
  refine (reads_load workspace package).bind fun manifest found => ?_
  obtain ⟨path, named, holds⟩ := found
  exact .pure ⟨path, manifest, named, holds, rfl⟩

theorem reads_contains (name : QualifiedName) :
    Reads parser store (contains workspace package name) fun found =>
      ∃ path manifest, workspace.autoloaderIn? package store = some path ∧
        stored? store path = some (.ok manifest) ∧ found = manifest.contains name := by
  unfold contains
  refine (reads_lookup? workspace package name).bind fun file found => ?_
  obtain ⟨path, manifest, named, holds, same⟩ := found
  refine .pure ⟨path, manifest, named, holds, ?_⟩
  rw [same, Manifest.contains]

/-- The classes of a file are those that are scanned, without the package. -/
theorem reads_declaredClasses (file : RelativePath) :
    Reads parser store (declaredClasses workspace package file) fun classes =>
      ∃ found, scanned? parser store (workspace.resolve package file) file = some found ∧
        found.mapM (fun declaration => declaration.name.withoutPackage package) = .ok classes := by
  unfold declaredClasses
  refine (reads_scanFile _ file).bind fun found scans => (Reads.note _).bind fun _ _ =>
    (Reads.lift _).mono fun classes parted => ⟨found, scans, parted⟩

/-! ## Operations that write -/

theorem writes_init :
    Writes parser store (init workspace package) fun path other text =>
      workspace.autoloaderIn? package store = some other ∧ path = other ∧
        text = Manifest.empty.toJson := by
  unfold init writeManifest
  refine (workspace.reads_require package).bind_writes fun _ _ =>
    (workspace.reads_requireAutoloader package).bind_writes fun path named => ?_
  refine (Writes.store_then path Manifest.empty.toJson _ path).mono fun a other text h => ?_
  obtain ⟨rfl, rfl, rfl⟩ := h
  exact ⟨named, rfl, rfl⟩

/-- What a merge that succeeded has read, put and told. -/
structure Merged (store : MemoryStore) (file : RelativePath) (exclusive : Bool)
    (addition : Addition) (other : Path) (text : String) : Prop where
  named : workspace.autoloaderIn? package store = some other
  autoloader : addition.autoloader = other
  entry : addition.file = file
  merged : ∃ manifest, stored? store other = some (.ok manifest) ∧
    (exclusive = true → owned? manifest file addition.classes = none) ∧
    addition.added = (manifest.insert file addition.classes).2 ∧
    text = (manifest.insert file addition.classes).1.toJson

/-- Merging writes the manifest with the classes of the file, and tells how many are new. -/
theorem writes_merge (file : RelativePath) (classes : List QualifiedName) (exclusive : Bool) :
    Writes parser store (merge workspace package file classes exclusive)
      fun addition other text => addition.classes = classes ∧
        Merged workspace package store file exclusive addition other text := by
  unfold merge
  refine (workspace.reads_requireAutoloader package).bind_writes fun path named =>
    (reads_readManifest path).bind_writes fun manifest holds => ?_
  have last (free : exclusive = true → owned? manifest file classes = none) :
      Writes parser store
        (writeManifest path (manifest.insert file classes).1 >>= fun _ =>
          Work.note ⟨.info, target, "Autoloader updated",
            [("added", count (manifest.insert file classes).2), ("total", count classes.length)]⟩
          >>= fun _ => pure ⟨path, file, classes, (manifest.insert file classes).2⟩)
        fun addition other text => addition.classes = classes ∧
          Merged workspace package store file exclusive addition other text := by
    refine (Writes.store_then path _ _ _).mono fun addition other text h => ?_
    obtain ⟨rfl, rfl, rfl⟩ := h
    exact ⟨rfl, named, rfl, rfl, manifest, holds, free, rfl, rfl⟩
  cases exclusive with
  | false => exact last (by simp)
  | true =>
    dsimp only
    cases free : owned? manifest file classes with
    | none => exact last fun _ => free
    | some conflict => exact (Reads.fail (P := fun _ => False) _).bind_writes fun _ h => h.elim

/-- The classes an addition is asked for, as a person gives them or as the file declares them. -/
def asked? (parser : Parser) (store : MemoryStore) (file : RelativePath) :
    Option (List String) → Option (List QualifiedName)
  | some names => (classNames names).toOption
  | none => (scanned? parser store (workspace.resolve package file) file).bind fun found =>
    (found.mapM fun declaration : Declaration =>
      declaration.name.withoutPackage package).toOption

/-- Adding merges the classes that were asked for. -/
theorem writes_add (file : RelativePath) (classes : Option (List String)) :
    Writes parser store (add workspace package file classes) fun addition other text =>
      asked? workspace package parser store file classes = some addition.classes ∧
        Merged workspace package store file false addition other text := by
  have last (names : List QualifiedName)
      (asked : asked? workspace package parser store file classes = some names) :
      Writes parser store (merge workspace package file names false) fun addition other text =>
        asked? workspace package parser store file classes = some addition.classes ∧
          Merged workspace package store file false addition other text := by
    refine (writes_merge workspace package file names false).mono fun addition other text h => ?_
    obtain ⟨rfl, merged⟩ := h
    exact ⟨asked, merged⟩
  unfold add
  refine (workspace.reads_require package).bind_writes fun _ _ => ?_
  cases classes with
  | some given =>
    exact (Reads.lift _).bind_writes fun names parsed =>
      last names (by simp [asked?, parsed, Except.toOption])
  | none =>
    refine (reads_declaredClasses workspace package file).bind_writes fun names h => last names ?_
    obtain ⟨found, scans, parted⟩ := h
    simp only [asked?, scans, Option.bind_some, parted, Except.toOption]

/-- Registering merges the classes that were asked for, if no other file owns one of them. -/
theorem writes_register (file : RelativePath) (classes : List String) :
    Writes parser store (register workspace package file classes) fun addition other text =>
      asked? workspace package parser store file (some classes) = some addition.classes ∧
        Merged workspace package store file true addition other text := by
  unfold register
  refine (workspace.reads_require package).bind_writes fun _ _ =>
    (Reads.lift _).bind_writes fun names parsed => ?_
  refine (writes_merge workspace package file names true).mono fun addition other text h => ?_
  obtain ⟨rfl, merged⟩ := h
  exact ⟨by simp [asked?, parsed, Except.toOption], merged⟩

/-- Rebuilding writes the manifest of all that was taken in. -/
theorem writes_rebuild :
    Writes parser store (rebuild workspace package) fun rebuilt other text =>
      workspace.autoloaderIn? package store = some other ∧
        ∃ progress, index? workspace package parser store = some progress ∧
          rebuilt = ⟨other, progress.manifest.entries.length, progress.classes,
            progress.skipped⟩ ∧ text = progress.manifest.toJson := by
  unfold rebuild
  refine (workspace.reads_require package).bind_writes fun directory found => ?_
  obtain ⟨rfl, -⟩ := found
  refine (workspace.reads_requireAutoloader package).bind_writes fun path named =>
    (Reads.list _ _).bind_writes fun sources listed => ?_
  subst listed
  refine (reads_takeFiles package _ _ _).bind_writes fun progress taken => ?_
  refine (Writes.store_then path _ _ _).mono fun rebuilt other text h => ?_
  obtain ⟨rfl, rfl, rfl⟩ := h
  exact ⟨named, progress, taken, rfl, rfl⟩

end

/-! ## When nothing is refused -/

section
variable {workspace : Workspace} {package : PackageName} {path : Path}

theorem grants_readManifest {manifest : Manifest}
    (holds : stored? store path = some (.ok manifest)) :
    Grants parser store (readManifest path) manifest := by
  obtain ⟨text, found, decoded⟩ := Option.map_eq_some_iff.mp holds
  unfold readManifest
  refine (Grants.read found).bind ?_
  rw [decoded]
  exact .pure _

theorem grants_load {manifest : Manifest}
    (named : workspace.autoloaderIn? package store = some path)
    (holds : stored? store path = some (.ok manifest)) :
    Grants parser store (load workspace package) manifest := by
  unfold load
  exact (Workspace.grants_requireAutoloader named).bind (grants_readManifest holds)

theorem grants_lookup? {manifest : Manifest} (name : QualifiedName)
    (named : workspace.autoloaderIn? package store = some path)
    (holds : stored? store path = some (.ok manifest)) :
    Grants parser store (lookup? workspace package name) (manifest.lookup? name) := by
  unfold lookup?
  exact (grants_load named holds).bind (.pure _)

theorem grants_parseFile {nodes : List SourceNode}
    (parses : parsed? parser store path = some nodes) :
    Grants parser store (parseFile path) nodes := by
  obtain ⟨text, found, parsed⟩ := Option.bind_eq_some_iff.mp parses
  unfold parseFile
  refine (Grants.read found).bind ((Grants.parse text).bind ?_)
  rw [toOption_eq_some.mp parsed]
  exact (Grants.note _).bind (.pure _)

theorem grants_scanFile {file : RelativePath} {found : List Declaration}
    (scans : scanned? parser store path file = some found) :
    Grants parser store (scanFile path file) found := by
  obtain ⟨nodes, parses, scans⟩ := Option.bind_eq_some_iff.mp scans
  unfold scanFile
  exact (grants_parseFile parses).bind (.lift (toOption_eq_some.mp scans))

theorem grants_declaredClasses {file : RelativePath} {found : List Declaration}
    {classes : List QualifiedName}
    (scans : scanned? parser store (workspace.resolve package file) file = some found)
    (parted : found.mapM (fun declaration => declaration.name.withoutPackage package) =
      .ok classes) :
    Grants parser store (declaredClasses workspace package file) classes := by
  unfold declaredClasses
  exact (grants_scanFile scans).bind ((Grants.note _).bind (.lift parted))

theorem grants_sortOut (found : List Declaration) :
    Grants parser store (sortOut package found) (own package found, foreign package found) := by
  induction found with
  | nil => exact .pure _
  | cons declaration found ih =>
    unfold sortOut
    cases parted : declaration.name.withoutPackage package with
    | ok name =>
      refine ih.bind ?_
      simp only [own, foreign, List.filterMap_cons, List.filter_cons, parted]
      exact .pure _
    | error fault =>
      refine (Grants.note _).bind (ih.bind ?_)
      simp only [own, foreign, List.filterMap_cons, List.filter_cons, parted]
      exact .pure _

theorem grants_takeFile {directory : Path} {progress next : Progress} {source : Path}
    (taken : progress.take? parser store package directory source = some next) :
    Grants parser store (takeFile package directory progress source) next := by
  unfold Progress.take? at taken
  obtain ⟨file, inside, taken⟩ := Option.bind_eq_some_iff.mp taken
  obtain ⟨found, scans, taken⟩ := Option.bind_eq_some_iff.mp taken
  unfold takeFile
  refine (Grants.lift (toOption_eq_some.mp inside)).bind
    ((grants_scanFile scans).bind ((grants_sortOut found).bind ?_))
  dsimp only at taken ⊢
  split at taken
  · next none =>
    rw [if_pos none, ← Option.some.inj taken]
    exact .pure _
  · next some =>
    rw [if_neg some, ← Option.some.inj taken]
    exact .pure _

theorem grants_takeFiles {directory : Path} {progress last : Progress} {sources : List Path}
    (taken : sources.foldlM (Progress.take? parser store package directory) progress =
      some last) :
    Grants parser store (takeFiles package directory progress sources) last := by
  induction sources generalizing progress with
  | nil =>
    cases taken
    exact .pure _
  | cons source sources ih =>
    rw [List.foldlM_cons] at taken
    obtain ⟨next, first, more⟩ := Option.bind_eq_some_iff.mp taken
    unfold takeFiles
    exact (grants_takeFile first).bind (ih more)

/-- What can be parsed is there. -/
theorem isPresent_of_parsed? {nodes : List SourceNode}
    (parses : parsed? parser store path = some nodes) : store.isPresent path = true := by
  obtain ⟨text, found, -⟩ := Option.bind_eq_some_iff.mp parses
  rw [MemoryStore.isPresent, found]
  rfl

theorem perform_init (present : store.isPresent (workspace.directory package) = true)
    (named : workspace.autoloaderIn? package store = some path) :
    perform (.granting parser) (init workspace package) store =
      (.ok path, store.withFile path Manifest.empty.toJson) := by
  unfold init writeManifest
  rw [(Workspace.grants_require present).perform_bind,
    (Workspace.grants_requireAutoloader named).perform_bind, MemoryStore.perform_store_then]

/-- Where nothing is refused, merging writes the manifest that is merged. -/
theorem perform_merge (named : workspace.autoloaderIn? package store = some path)
    {manifest : Manifest} (holds : stored? store path = some (.ok manifest)) (file : RelativePath)
    (classes : List QualifiedName) :
    perform (.granting parser) (merge workspace package file classes false) store =
      (.ok ⟨path, file, classes, (manifest.insert file classes).2⟩,
        store.withFile path (manifest.insert file classes).1.toJson) := by
  unfold merge writeManifest
  rw [(Workspace.grants_requireAutoloader named).perform_bind,
    (grants_readManifest holds).perform_bind]
  exact MemoryStore.perform_store_then parser path _ _ _

/-- A file is added by what it declares if all of that is in the namespace of the package. -/
theorem perform_add (present : store.isPresent (workspace.directory package) = true)
    (named : workspace.autoloaderIn? package store = some path) {manifest : Manifest}
    (holds : stored? store path = some (.ok manifest)) {file : RelativePath}
    {found : List Declaration} {classes : List QualifiedName}
    (scans : scanned? parser store (workspace.resolve package file) file = some found)
    (parted : found.mapM (fun declaration => declaration.name.withoutPackage package) =
      .ok classes) :
    perform (.granting parser) (add workspace package file none) store =
      (.ok ⟨path, file, classes, (manifest.insert file classes).2⟩,
        store.withFile path (manifest.insert file classes).1.toJson) := by
  unfold add
  rw [(Workspace.grants_require present).perform_bind,
    (grants_declaredClasses scans parted).perform_bind, perform_merge named holds]

/-- A rebuilding succeeds as soon as every source can be taken in. -/
theorem perform_rebuild (present : store.isPresent (workspace.directory package) = true)
    (named : workspace.autoloaderIn? package store = some path) {progress : Progress}
    (indexed : index? workspace package parser store = some progress) :
    perform (.granting parser) (rebuild workspace package) store =
      (.ok ⟨path, progress.manifest.entries.length, progress.classes, progress.skipped⟩,
        store.withFile path progress.manifest.toJson) := by
  unfold rebuild writeManifest
  rw [(Workspace.grants_require present).perform_bind,
    (Workspace.grants_requireAutoloader named).perform_bind, (Grants.list _ _).perform_bind,
    (grants_takeFiles indexed).perform_bind, MemoryStore.perform_store_then]

end

end PackageIndex.Autoloader
