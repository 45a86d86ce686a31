import PackageIndex.Proofs.Manifest.Ownership
import PackageIndex.Proofs.Workspace.Rebuild
import PackageIndex.Proofs.Workspace.Refinement

/-!
# Where a rebuilt autoloader leads

A rebuilt manifest finds a class just where a source of that name declares it. A source is named by
its path in the package, which is written with slashes alone: a source whose own name has a
backslash in it is named as if it stood in a directory. So the file that is found for a class need
not be there. Where no source has a backslash below the package, it is there and declares the class.
-/
namespace PackageIndex.Autoloader

open MemoryStore (Grants Outcome Parser perform)

variable {parser : Parser} {store after last : MemoryStore} {workspace : Workspace}
  {package : PackageName} {path : Path} {file : RelativePath} {name : QualifiedName}

/-- A rebuilt manifest lists what the sources declare of the package, under their names. -/
theorem lists_foldl_takeIn {sources : List Source} :
    (sources.foldl (Progress.takeIn package) .start).manifest.Lists file name ↔
      ∃ source ∈ sources, source.file = file ∧ name.withPackage package ∈ source.declared := by
  rw [(Progress.after_foldl .start sources).manifest, Manifest.lists_insertAll]
  constructor
  · rintro (listed | ⟨insertion, mem, rfl, named⟩)
    · exact absurd listed Manifest.not_lists_empty
    · obtain ⟨source, among, rfl⟩ := List.mem_map.mp mem
      exact ⟨source, List.mem_of_mem_filter among, rfl, mem_own.mp named⟩
  · rintro ⟨source, mem, rfl, declared⟩
    have declares : ∃ name ∈ source.declared, name.IsIn package := ⟨_, declared, name, rfl⟩
    have among : source ∈ sources.filter fun source =>
        ∃ name ∈ source.declared, name.IsIn package :=
      List.mem_filter.mpr ⟨mem, decide_eq_true declares⟩
    exact .inr ⟨_, List.mem_map_of_mem among, rfl, mem_own.mpr declared⟩

/-- What a package calls `file` is there and declares the class. -/
structure Leads (workspace : Workspace) (package : PackageName) (parser : Parser)
    (store : MemoryStore) (file : RelativePath) (name : QualifiedName) : Prop where
  isPresent : store.isPresent (workspace.resolve package file) = true
  declares : ∃ found, Grants parser store (scanFile (workspace.resolve package file) file) found ∧
    name.withPackage package ∈ found.map Declaration.name

/-- A file leads to a class where the text that is read there declares it. -/
theorem Leads.of_scanned? {found : List Declaration}
    (scans : scanned? parser store (workspace.resolve package file) file = some found)
    (declared : name.withPackage package ∈ found.map Declaration.name) :
    Leads workspace package parser store file name := by
  obtain ⟨nodes, parses, -⟩ := Option.bind_eq_some_iff.mp scans
  exact ⟨isPresent_of_parsed? parses, found, grants_scanFile scans, declared⟩

/-- A file that is found for a class after rebuilding is the name of a source that declares the
class; it leads to the class when the sources of that name have no backslash below the package. -/
theorem rebuild_resolves (named : workspace.autoloaderIn? package store = some path)
    (plain : path.extension? ≠ some "php")
    (beside : path.components ≠ (workspace.descriptorFile package).components) {rebuilt : Rebuilt}
    (outcome : Outcome parser (rebuild workspace package).run store (.ok rebuilt) after)
    (looked : Outcome parser (lookup? workspace package name).run after (.ok (some file)) last) :
    let directory := workspace.directory package
    let sources := store.list directory "php"
    (∃ source ∈ sources, RelativePath.ofPackagePath directory source = .ok file ∧
      ∃ found, Grants parser after (scanFile source file) found ∧
        name.withPackage package ∈ found.map Declaration.name) ∧
    ((∀ source ∈ sources, RelativePath.ofPackagePath directory source = .ok file →
        Path.PlainBelow directory source) →
      Leads workspace package parser after file name) := by
  intro directory listed
  obtain ⟨sources, rebuilds⟩ := exists_rebuilds outcome
  obtain rfl : path = rebuilt.autoloader := Option.some.inj (named.symm.trans rebuilds.named)
  obtain ⟨other, manifest, names, stored, found⟩ :=
    (reads_lookup? workspace package name).gives looked
  rw [Workspace.autoloaderIn?_putFile beside rebuilds.puts, named] at names
  cases names
  rw [stored?_putFile rebuilds.puts] at stored
  cases stored
  obtain ⟨source, mem, rfl, declared⟩ :=
    lists_foldl_takeIn.mp (Manifest.lists_of_lookup? found.symm)
  obtain ⟨place, among, called, scans, back⟩ := rebuilds.listed mem
  obtain ⟨-, -, extended⟩ := MemoryStore.mem_list.mp among
  have kept : after.file? place = store.file? place :=
    MemoryStore.file?_putFile_of_extension rebuilds.puts plain extended
  constructor
  · refine ⟨place, among, called, source.found, grants_scanFile ?_, declared⟩
    rw [scanned?_congr kept, scans]
  · intro slashes
    have same : after.file? (workspace.resolve package source.file) = store.file? place := by
      rw [MemoryStore.file?_of_components_eq (back (slashes place among called)), kept]
    exact .of_scanned? ((scanned?_congr same _).trans scans) declared

/-- A source in a directory, beside one with a backslash in its name that declares nothing. -/
theorem rebuild_resolves_beside_backslash :
    let workspace : Workspace := ⟨⟨"p"⟩⟩
    let shop : PackageName := ⟨"shop", by decide⟩
    let file : RelativePath := ⟨"c/f.php", by decide, by decide, by decide, by decide⟩
    let name : QualifiedName := ⟨["A"], by decide, by decide⟩
    let store := ((MemoryStore.empty.withFile ⟨"p/shop/package.json"⟩
      "\x7b\"autoload\":\"a\"\x7d").withFile ⟨"p/shop/c/f.php"⟩ "A").withFile
        ⟨"p/shop/c\\g.php"⟩ ""
    let parser : Parser := fun text =>
      .ok (if text = "" then []
        else [.inNamespace "packages\\shop" [.declared ⟨.classType, text, [], 1, 1⟩]])
    let rebuilding := perform (.granting parser) (rebuild workspace shop) store
    let after := rebuilding.2
    rebuilding.1 = .ok ⟨⟨"p/shop/a"⟩, 1, 1, []⟩ ∧
      (perform (.granting parser) (lookup? workspace shop name) after).1 = .ok (some file) ∧
      Leads workspace shop parser after file name := by
  intro workspace shop file name store parser rebuilding after
  have named : workspace.autoloaderIn? shop store = some ⟨"p/shop/a"⟩ := by decide +kernel
  have rebuilt : rebuilding.1 = .ok ⟨⟨"p/shop/a"⟩, 1, 1, []⟩ := by decide +kernel
  have found : (perform (.granting parser) (lookup? workspace shop name) after).1 =
      .ok (some file) := by decide +kernel
  have outcome := MemoryStore.outcome_perform (.granting parser) (rebuild workspace shop) store
  have looked := MemoryStore.outcome_perform (.granting parser) (lookup? workspace shop name) after
  have resolves := rebuild_resolves named (by decide) (by decide) (rebuilt ▸ outcome)
    (found ▸ looked)
  exact ⟨rebuilt, found, resolves.2 (by decide +kernel)⟩

/-- The one source of a package has a backslash in its name: its class is found, in a file that is
not there. -/
theorem backslash_misleads_lookup :
    let workspace : Workspace := ⟨⟨"p"⟩⟩
    let shop : PackageName := ⟨"shop", by decide⟩
    let file : RelativePath := ⟨"c/g.php", by decide, by decide, by decide, by decide⟩
    let name : QualifiedName := ⟨["A"], by decide, by decide⟩
    let path : Path := ⟨"p/shop/a"⟩
    let store := (MemoryStore.empty.withFile ⟨"p/shop/package.json"⟩
      "\x7b\"autoload\":\"a\"\x7d").withFile ⟨"p/shop/c\\g.php"⟩ ""
    let parser : Parser := fun _ =>
      .ok [.inNamespace "packages\\shop" [.declared ⟨.classType, "A", [], 1, 1⟩]]
    let rebuilding := perform (.granting parser) (rebuild workspace shop) store
    let after := rebuilding.2
    (workspace.autoloaderIn? shop store = some path ∧ path.extension? ≠ some "php" ∧
      path.components ≠ (workspace.descriptorFile shop).components) ∧
      rebuilding.1 = .ok ⟨path, 1, 1, []⟩ ∧
      (perform (.granting parser) (lookup? workspace shop name) after).1 = .ok (some file) ∧
      after.isPresent (workspace.resolve shop file) = false ∧
      ¬ Leads workspace shop parser after file name := by
  intro workspace shop file name path store parser rebuilding after
  have absent : after.isPresent (workspace.resolve shop file) = false := by decide +kernel
  refine ⟨by decide +kernel, by decide +kernel, by decide +kernel, absent, fun leads => ?_⟩
  rw [leads.isPresent] at absent
  cases absent

end PackageIndex.Autoloader
