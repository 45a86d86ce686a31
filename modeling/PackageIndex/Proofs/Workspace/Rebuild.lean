import PackageIndex.Proofs.Attempts
import PackageIndex.Proofs.Manifest.Insertion
import PackageIndex.Proofs.RelativePath
import PackageIndex.Proofs.Workspace.Autoloader

/-!
# What rebuilding makes of the sources

Rebuilding reads the source files of a package in the order of their paths and inserts, file by
file, what stands in the namespace of the package. So the manifest it writes is told by the sources
alone: which files it has an entry for, what each entry lists and in which order, what is left out,
and both counts.
-/
namespace PackageIndex

/-! ## Names in the namespace of a package -/

namespace QualifiedName

/-- The name is one that the package prefixes, so something follows the prefix. -/
def IsIn (package : PackageName) (name : QualifiedName) : Prop :=
  ∃ inner : QualifiedName, inner.withPackage package = name

/-- The names that have a form in the package are those in its namespace. -/
theorem isOk_withoutPackage {package : PackageName} {name : QualifiedName} :
    (name.withoutPackage package).isOk = true ↔ name.IsIn package := by
  constructor
  · intro stripped
    cases parted : name.withoutPackage package with
    | ok inner => exact ⟨inner, withoutPackage_eq_ok.mp parted⟩
    | error fault => rw [parted] at stripped; cases stripped
  · rintro ⟨inner, prefixed⟩
    rw [withoutPackage_eq_ok.mpr prefixed]
    rfl

instance (package : PackageName) : DecidablePred (IsIn package) := fun _ =>
  decidable_of_iff _ isOk_withoutPackage

theorem withPackage_inj {package : PackageName} {a b : QualifiedName} :
    a.withPackage package = b.withPackage package ↔ a = b := by
  refine ⟨fun same => eq_of_segments ?_, fun same => by rw [same]⟩
  have segments := congrArg segments same
  rw [segments_withPackage, segments_withPackage] at segments
  exact (List.cons.inj (List.cons.inj segments).2).2

/-- The package takes over all of some names when it finds names of its own that are written so. -/
theorem mapM_withoutPackage_eq_ok {package : PackageName} {found : List Declaration}
    {classes : List QualifiedName} :
    found.mapM (fun declaration => declaration.name.withoutPackage package) = .ok classes ↔
      classes.map (withPackage package) = found.map Declaration.name := by
  rw [mapM_eq_ok_iff, @eq_comm _ (classes.map _), ← List.forall₂_eq_eq_eq,
    List.forall₂_map_left_iff, List.forall₂_map_right_iff]
  simp only [withoutPackage_eq_ok, @eq_comm _ (withPackage package _)]

end QualifiedName

/-- A map that keeps items apart keeps first occurrences. -/
theorem eraseDups_map {α β : Type} [DecidableEq α] [DecidableEq β] {f : α → β}
    (apart : ∀ a b, f a = f b → a = b) (items : List α) :
    items.eraseDups.map f = (items.map f).eraseDups := by
  induction items using eraseDups_induct with
  | nil => rfl
  | cons a items ih =>
    have others : (items.map f).filter (fun b => !b == f a) =
        (items.filter fun b => !b == a).map f := by
      rw [List.filter_map]
      refine congrArg _ (List.filter_congr fun b _ => ?_)
      by_cases same : b = a
      · simp [same]
      · simp [same, mt (apart b a) same]
    rw [List.eraseDups_cons, List.map_cons, List.map_cons, List.eraseDups_cons, others, ih]

namespace Autoloader

open MemoryStore (Outcome Parser Reads Writes perform)

/-! ## Sources -/

structure Source where
  file : RelativePath
  found : List Declaration
  deriving DecidableEq, Repr

def Source.declared (source : Source) : List QualifiedName := source.found.map Declaration.name

def source? (parser : Parser) (store : MemoryStore) (directory path : Path) : Option Source := do
  let file ← (RelativePath.ofPackagePath directory path).toOption
  let found ← scanned? parser store path file
  pure ⟨file, found⟩

variable {parser : Parser} {store after : MemoryStore} {package : PackageName}

theorem source?_eq_some {directory path : Path} {source : Source} :
    source? parser store directory path = some source ↔
      RelativePath.ofPackagePath directory path = .ok source.file ∧
        scanned? parser store path source.file = some source.found := by
  unfold source?
  constructor
  · intro read
    obtain ⟨file, called, read⟩ := Option.bind_eq_some_iff.mp read
    obtain ⟨found, scans, same⟩ := Option.bind_eq_some_iff.mp read
    cases same
    exact ⟨toOption_eq_some.mp called, scans⟩
  · rintro ⟨called, scans⟩
    simp [toOption_eq_some.mpr called, scans]

/-- A class of the package is declared with the package before it. -/
theorem mem_own {found : List Declaration} {name : QualifiedName} :
    name ∈ own package found ↔ name.withPackage package ∈ found.map Declaration.name := by
  simp only [own, List.mem_filterMap, toOption_eq_some, QualifiedName.withoutPackage_eq_ok,
    List.mem_map, @eq_comm _ (name.withPackage package)]

theorem map_withPackage_own (found : List Declaration) :
    (own package found).map (QualifiedName.withPackage package) =
      (found.map Declaration.name).filter (QualifiedName.IsIn package) := by
  induction found with
  | nil => rfl
  | cons declaration found ih =>
    rw [own] at ih ⊢
    rw [List.map_cons]
    cases parted : declaration.name.withoutPackage package with
    | ok inner =>
      have prefixed := QualifiedName.withoutPackage_eq_ok.mp parted
      rw [List.filterMap_cons_some (by rw [parted]; rfl), List.map_cons, ih, prefixed,
        List.filter_cons_of_pos (by simpa using ⟨inner, prefixed⟩)]
    | error fault =>
      have outside : ¬ declaration.name.IsIn package := by
        rw [← QualifiedName.isOk_withoutPackage, parted]
        exact Bool.false_ne_true
      rw [List.filterMap_cons_none (by rw [parted]; rfl), ih,
        List.filter_cons_of_neg (by simpa using outside)]

theorem own_eq_nil {source : Source} :
    own package source.found = [] ↔ ¬ ∃ name ∈ source.declared, name.IsIn package := by
  rw [← List.map_eq_nil_iff, map_withPackage_own, List.filter_eq_nil_iff, Source.declared]
  simp

theorem foreign_eq (found : List Declaration) :
    foreign package found =
      (found.map Declaration.name).filter fun name => ¬ name.IsIn package := by
  rw [foreign, List.filter_map]
  refine congrArg _ (List.filter_congr fun declaration _ => ?_)
  rw [Function.comp_apply, Bool.eq_iff_iff, decide_eq_true_iff,
    ← QualifiedName.isOk_withoutPackage]
  simp

/-! ## Taking sources in -/

def Progress.takeIn (package : PackageName) (progress : Progress) (source : Source) : Progress :=
  let skipped := progress.skipped ++ foreign package source.found
  if (own package source.found).isEmpty then { progress with skipped }
  else
    let (manifest, added) := progress.manifest.insert source.file (own package source.found)
    ⟨manifest, progress.classes + added, skipped⟩

/-- A source is taken in if it can be read. -/
theorem Progress.take?_eq (directory : Path) (progress : Progress) (path : Path) :
    progress.take? parser store package directory path =
      (source? parser store directory path).map (progress.takeIn package) := by
  unfold Progress.take? source?
  cases (RelativePath.ofPackagePath directory path).toOption with
  | none => rfl
  | some file =>
    simp only [Option.bind_eq_bind, Option.bind_some]
    cases scanned? parser store path file with
    | none => rfl
    | some found =>
      simp only [Option.bind_some, Option.pure_def, Option.map_some, Progress.takeIn]
      split <;> rfl

/-- All sources are taken in if each can be read. -/
theorem foldlM_take?_eq (directory : Path) (progress : Progress) (paths : List Path) :
    paths.foldlM (Progress.take? parser store package directory) progress =
      (paths.mapM (source? parser store directory)).map fun sources =>
        sources.foldl (Progress.takeIn package) progress := by
  induction paths generalizing progress with
  | nil => rfl
  | cons path paths ih =>
    rw [List.foldlM_cons, Progress.take?_eq, List.mapM_cons]
    cases source? parser store directory path with
    | none => rfl
    | some source =>
      simp only [Option.map_some, Option.bind_eq_bind, Option.bind_some, ih]
      cases paths.mapM (source? parser store directory) <;> rfl

/-- What the sources have inserted: one that declares nothing of the package inserts nothing. -/
def insertions (package : PackageName) (sources : List Source) : List Insertion :=
  (sources.filter fun source => ∃ name ∈ source.declared, name.IsIn package).map fun source =>
    ⟨source.file, own package source.found⟩

/-- The class count of a rebuilding keeps up with what the manifest lists. -/
structure Progress.After (package : PackageName) (first : Progress) (sources : List Source)
    (last : Progress) : Prop where
  manifest : last.manifest = first.manifest.insertAll (insertions package sources)
  skipped : last.skipped = first.skipped ++ sources.flatMap fun source =>
    source.declared.filter fun name => ¬ name.IsIn package
  classes : first.classes = Manifest.listings first.manifest.entries →
    last.classes = Manifest.listings last.manifest.entries

/-- What was taken in is told by the sources alone. -/
theorem Progress.after_foldl (first : Progress) (sources : List Source) :
    Progress.After package first sources (sources.foldl (Progress.takeIn package) first) := by
  induction sources generalizing first with
  | nil => exact ⟨rfl, (List.append_nil _).symm, id⟩
  | cons source sources ih =>
    obtain ⟨manifest, skipped, classes⟩ := ih (first.takeIn package source)
    have passed : (first.takeIn package source).skipped =
        first.skipped ++ source.declared.filter fun name => ¬ name.IsIn package := by
      unfold Progress.takeIn
      rw [Source.declared, ← foreign_eq]
      dsimp only
      split <;> rfl
    rw [List.foldl_cons]
    by_cases empty : own package source.found = []
    · have idle : (first.takeIn package source).manifest = first.manifest ∧
          (first.takeIn package source).classes = first.classes := by
        simp [Progress.takeIn, empty]
      refine ⟨?_, ?_, fun counted => classes (by rw [idle.1, idle.2, counted])⟩
      · rw [manifest, idle.1, insertions, insertions,
          List.filter_cons_of_neg (by simpa using own_eq_nil.mp empty)]
      · rw [skipped, passed, List.flatMap_cons, List.append_assoc]
    · have inserts : (first.takeIn package source).manifest =
            (first.manifest.insert source.file (own package source.found)).1 ∧
          (first.takeIn package source).classes = first.classes +
            (first.manifest.insert source.file (own package source.found)).2 := by
        simp [Progress.takeIn, empty]
      refine ⟨?_, ?_, fun counted => classes ?_⟩
      · have declares := of_not_not (mt own_eq_nil.mpr empty)
        rw [manifest, inserts.1, insertions, insertions,
          List.filter_cons_of_pos (by simpa using declares), List.map_cons,
          Manifest.insertAll_cons]
      · rw [skipped, passed, List.flatMap_cons, List.append_assoc]
      · rw [inserts.1, inserts.2, counted]
        exact (Manifest.listings_insertInto _ _ _).symm

/-! ## The manifest that is written -/

/-- The source files of a package, in the order of their paths, with what each is read as. -/
structure Surveys (parser : Parser) (store : MemoryStore) (directory : Path) (paths : List Path)
    (sources : List Source) : Prop where
  ordered : paths.Pairwise fun a b => precedes a.components b.components = true
  complete : ∀ path, path ∈ paths ↔
    path ∈ store.paths ∧ path.isWithin directory = true ∧ path.extension? = some "php"
  read : paths.mapM (source? parser store directory) = some sources

/-- What a rebuilt manifest and its report say of sources. The classes of an entry are told by their
full names: the package takes its prefix off them. -/
structure Indexes (package : PackageName) (sources : List Source) (rebuilt : Rebuilt)
    (manifest : Manifest) : Prop where
  files : manifest.entries.map ManifestEntry.file =
    ((sources.filter fun source => ∃ name ∈ source.declared, name.IsIn package).map
      Source.file).eraseDups
  classes : ∀ entry ∈ manifest.entries,
    entry.classes.map (QualifiedName.withPackage package) =
      ((sources.filter fun source => source.file = entry.file).flatMap fun source =>
        source.declared.filter fun name => name.IsIn package).eraseDups
  skipped : rebuilt.skipped = sources.flatMap fun source =>
    source.declared.filter fun name => ¬ name.IsIn package
  fileCount : rebuilt.files = manifest.entries.length
  classCount : rebuilt.classes = (manifest.entries.map fun entry => entry.classes.length).sum

/-- The listing of a package surveys its sources, each once and in order. -/
theorem surveys_list {directory : Path} (reachable : store.Reachable) {sources : List Source}
    (read : (store.list directory "php").mapM (source? parser store directory) = some sources) :
    Surveys parser store directory (store.list directory "php") sources :=
  ⟨reachable.ordered.list directory "php", fun _ => MemoryStore.mem_list, read⟩

/-- The sources under one name insert what they declare of the package, whoever declares nothing. -/
theorem flatMap_insertions (sources : List Source) (file : RelativePath) :
    ((insertions package sources).filter fun insertion => insertion.file = file).flatMap
        Insertion.classes =
      (sources.filter fun source => source.file = file).flatMap fun source =>
        own package source.found := by
  induction sources with
  | nil => rfl
  | cons source sources ih =>
    rw [insertions] at ih ⊢
    by_cases declares : ∃ name ∈ source.declared, name.IsIn package
    · rw [List.filter_cons_of_pos (by simpa using declares), List.map_cons]
      by_cases same : source.file = file
      · rw [List.filter_cons_of_pos (by simpa using same),
          List.filter_cons_of_pos (by simpa using same), List.flatMap_cons, List.flatMap_cons, ih]
      · rw [List.filter_cons_of_neg (by simpa using same),
          List.filter_cons_of_neg (by simpa using same), ih]
    · rw [List.filter_cons_of_neg (by simpa using declares), ih]
      by_cases same : source.file = file
      · rw [List.filter_cons_of_pos (by simpa using same), List.flatMap_cons,
          own_eq_nil.mpr declares, List.nil_append]
      · rw [List.filter_cons_of_neg (by simpa using same)]

theorem indexes_foldl (sources : List Source) (path : Path) :
    let last := sources.foldl (Progress.takeIn package) .start
    Indexes package sources
      ⟨path, last.manifest.entries.length, last.classes, last.skipped⟩ last.manifest := by
  intro last
  have after : Progress.After package .start sources last := Progress.after_foldl .start sources
  have made : last.manifest.entries = Manifest.gather (insertions package sources) := by
    rw [after.manifest]
    exact Manifest.entries_insertAll_empty _
  refine ⟨?_, fun entry mem => ?_, after.skipped, rfl, after.classes rfl⟩
  · rw [made, Manifest.files_gather, insertions, List.map_map]
    rfl
  · rw [made] at mem
    obtain ⟨file, -, rfl⟩ := List.mem_map.mp mem
    rw [Manifest.gathered, flatMap_insertions,
      eraseDups_map fun _ _ => QualifiedName.withPackage_inj.mp, List.map_flatMap]
    simp only [map_withPackage_own, Source.declared]

structure Rebuilds (workspace : Workspace) (package : PackageName) (parser : Parser)
    (store : MemoryStore) (sources : List Source) (rebuilt : Rebuilt) (after : MemoryStore) :
    Prop where
  read : (store.list (workspace.directory package) "php").mapM
    (source? parser store (workspace.directory package)) = some sources
  named : workspace.autoloaderIn? package store = some rebuilt.autoloader
  classes : rebuilt.classes = (sources.foldl (Progress.takeIn package) .start).classes
  skipped : rebuilt.skipped = (sources.foldl (Progress.takeIn package) .start).skipped
  puts : after.files = MemoryStore.putFile rebuilt.autoloader
    (sources.foldl (Progress.takeIn package) .start).manifest.toJson store.files

/-- A rebuild that succeeds has read all sources. -/
theorem exists_rebuilds {workspace : Workspace} {rebuilt : Rebuilt}
    (outcome : Outcome parser (rebuild workspace package).run store (.ok rebuilt) after) :
    ∃ sources, Rebuilds workspace package parser store sources rebuilt after := by
  obtain ⟨other, text, ⟨named, progress, indexed, rfl, rfl⟩, puts⟩ :=
    (writes_rebuild workspace package).puts outcome
  rw [index?, foldlM_take?_eq] at indexed
  obtain ⟨sources, read, rfl⟩ := Option.map_eq_some_iff.mp indexed
  exact ⟨sources, read, named, rfl, rfl, puts⟩

/-- A source that has been read is one of the files that are listed; and its name leads back to that
file if the path has no backslash below the package. -/
theorem Rebuilds.listed {workspace : Workspace} {sources : List Source} {rebuilt : Rebuilt}
    (rebuilds : Rebuilds workspace package parser store sources rebuilt after) {source : Source}
    (mem : source ∈ sources) :
    ∃ place ∈ store.list (workspace.directory package) "php",
      RelativePath.ofPackagePath (workspace.directory package) place = .ok source.file ∧
        scanned? parser store place source.file = some source.found ∧
        (Path.PlainBelow (workspace.directory package) place →
          (workspace.resolve package source.file).components = place.components) := by
  obtain ⟨place, among, read⟩ := exists_mem_left (mapM_eq_some_iff.mp rebuilds.read) mem
  obtain ⟨called, scans⟩ := source?_eq_some.mp read
  obtain ⟨-, within, -⟩ := MemoryStore.mem_list.mp among
  exact ⟨place, among, called, scans, fun plain =>
    RelativePath.components_resolve_ofPackagePath (workspace.text_directory_ne_empty package)
      within plain called⟩

theorem isPresent_of_rebuild {workspace : Workspace} {rebuilt : Rebuilt}
    (outcome : Outcome parser (rebuild workspace package).run store (.ok rebuilt) after) :
    store.isPresent (workspace.directory package) = true := by
  unfold rebuild at outcome
  rcases outcome.of_work_bind with ⟨_, failed, -⟩ | ⟨_, _, required, -⟩
  · cases failed
  · exact ((workspace.reads_require package).gives required).2

/-- A rebuilding that succeeds has read every source of the package and written the manifest that
indexes just these, whatever the autoloader file was before. -/
theorem rebuild_indexes (workspace : Workspace) (reachable : store.Reachable) {rebuilt : Rebuilt}
    (outcome : Outcome parser (rebuild workspace package).run store (.ok rebuilt) after) :
    ∃ paths sources manifest,
      Surveys parser store (workspace.directory package) paths sources ∧
        workspace.autoloaderIn? package store = some rebuilt.autoloader ∧
          after.file? rebuilt.autoloader = some manifest.toJson ∧
            Indexes package sources rebuilt manifest := by
  obtain ⟨other, text, ⟨named, progress, indexed, rfl, rfl⟩, puts⟩ :=
    (writes_rebuild workspace package).puts outcome
  rw [index?, foldlM_take?_eq] at indexed
  obtain ⟨sources, read, rfl⟩ := Option.map_eq_some_iff.mp indexed
  refine ⟨_, sources, _, surveys_list reachable read, named, ?_, indexes_foldl sources other⟩
  rw [MemoryStore.file?_eq, puts, MemoryStore.content?_putFile_self]

/-- Two sources that the package calls alike, one of them with a name from elsewhere, replace an
autoloader file that is no document. -/
theorem rebuild_indexes_sources_called_alike :
    let workspace : Workspace := ⟨⟨"p"⟩⟩
    let shop : PackageName := ⟨"shop", by decide⟩
    let store := (((MemoryStore.empty.withFile ⟨"p/shop/package.json"⟩
      "\x7b\"autoload\":\"a\"\x7d").withFile ⟨"p/shop/a"⟩ "?").withFile
        ⟨"p/shop/b/c.php"⟩ "first").withFile ⟨"p/shop/b\\c.php"⟩ "second"
    let declares (kind : TypeKind) (name : String) : SourceNode := .declared ⟨kind, name, [], 1, 1⟩
    let parser : Parser := fun text => .ok (
      if text = "first" then
        [.inNamespace "packages\\shop" [declares .classType "B", declares .traitType "C"]]
      else [.inNamespace "packages\\shop" [declares .classType "B", declares .classType "D"],
        .inNamespace "elsewhere" [declares .classType "B"]])
    let ran := perform (.granting parser) (rebuild workspace shop) store
    let rebuilt : Rebuilt := ⟨⟨"p/shop/a"⟩, 1, 3, [⟨["elsewhere", "B"], by decide, by decide⟩]⟩
    store.Reachable ∧ ran.1 = .ok rebuilt ∧ ∃ paths sources manifest,
      Surveys parser store (workspace.directory shop) paths sources ∧
        workspace.autoloaderIn? shop store = some rebuilt.autoloader ∧
          ran.2.file? rebuilt.autoloader = some manifest.toJson ∧
            Indexes shop sources rebuilt manifest := by
  intro workspace shop store declares parser ran rebuilt
  have reachable : store.Reachable :=
    .withFile _ _ (.withFile _ _ (.withFile _ _ (.withFile _ _ .empty)))
  have succeeded : ran.1 = .ok rebuilt := by decide +kernel
  have outcome := MemoryStore.outcome_perform (.granting parser) (rebuild workspace shop) store
  exact ⟨reachable, succeeded, rebuild_indexes workspace reachable (succeeded ▸ outcome)⟩

end Autoloader

end PackageIndex
