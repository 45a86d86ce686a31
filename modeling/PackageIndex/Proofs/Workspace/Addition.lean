import PackageIndex.Proofs.Workspace.Rebuild
import PackageIndex.Proofs.Workspace.Refinement

/-!
# Adding the sources one by one

Rebuilding makes a manifest of all sources in one pass and writes it once. Initialising the
autoloader and adding the sources one after the other writes a manifest for each and reads it back
for the next. Where every class is in the namespace of the package and no source has a backslash
below the package, both leave the same document.
-/
namespace PackageIndex.Autoloader

open MemoryStore (Outcome Parser perform)

def addEach (workspace : Workspace) (package : PackageName) :
    List RelativePath → Work (List Addition)
  | [] => pure []
  | file :: files => do
    let addition ← add workspace package file none
    let additions ← addEach workspace package files
    pure (addition :: additions)

def initAddEach (workspace : Workspace) (package : PackageName) (files : List RelativePath) :
    Work (List Addition) := do
  let _ ← init workspace package
  addEach workspace package files

variable {parser : Parser} {store middle after : MemoryStore} {workspace : Workspace}
  {package : PackageName} {path : Path} {manifest : Manifest}

theorem mapM_withoutPackage {found : List Declaration}
    (inside : ∀ name ∈ found.map Declaration.name, name.IsIn package) :
    found.mapM (fun declaration => declaration.name.withoutPackage package) =
      .ok (own package found) := by
  rw [QualifiedName.mapM_withoutPackage_eq_ok, map_withPackage_own, List.filter_eq_self]
  exact fun name mem => decide_eq_true (inside name mem)

/-! ## One addition -/

/-- After some additions the autoloader holds a manifest, and nothing else has been written. -/
structure Holding (workspace : Workspace) (package : PackageName) (store : MemoryStore)
    (path : Path) (manifest : Manifest) (middle : MemoryStore) : Prop where
  files : middle.files = MemoryStore.putFile path manifest.toJson store.files
  present : middle.isPresent (workspace.directory package) = true

/-- A source that is added by its name as it stands: its name leads back to it, the autoloader does
not take its place, and all that it declares is in the namespace of the package. -/
structure Addable (workspace : Workspace) (package : PackageName) (parser : Parser)
    (store : MemoryStore) (path : Path) (source : Source) : Prop where
  scans : scanned? parser store (workspace.resolve package source.file) source.file =
    some source.found
  apart : (workspace.resolve package source.file).components ≠ path.components
  inside : ∀ name ∈ source.declared, name.IsIn package

theorem Holding.write (holding : Holding workspace package store path manifest middle)
    (next : Manifest) :
    Holding workspace package store path next (middle.withFile path next.toJson) := by
  refine ⟨?_, MemoryStore.isPresent_withFile holding.present _ _⟩
  rw [MemoryStore.files_withFile, holding.files, MemoryStore.putFile_putFile]

/-- An addition inserts what the source declares. -/
theorem Holding.add (named : workspace.autoloaderIn? package store = some path)
    (beside : path.components ≠ (workspace.descriptorFile package).components)
    (holding : Holding workspace package store path manifest middle) {source : Source}
    (addable : Addable workspace package parser store path source) :
    let inserted := manifest.insert source.file (own package source.found)
    ∃ addition next,
      perform (.granting parser) (add workspace package source.file none) middle =
        (.ok addition, next) ∧
      Holding workspace package store path inserted.1 next ∧ addition.added = inserted.2 := by
  intro inserted
  have still : workspace.autoloaderIn? package middle = some path := by
    rw [Workspace.autoloaderIn?_putFile beside holding.files, named]
  have kept : middle.file? (workspace.resolve package source.file) =
      store.file? (workspace.resolve package source.file) := by
    rw [MemoryStore.file?_eq, holding.files, MemoryStore.content?_putFile_other addable.apart,
      MemoryStore.file?_eq]
  have scans : scanned? parser middle (workspace.resolve package source.file) source.file =
      some source.found := by
    rw [scanned?_congr kept, addable.scans]
  have performed := perform_add holding.present still (stored?_putFile holding.files) scans
    (mapM_withoutPackage addable.inside)
  exact ⟨_, _, performed, holding.write inserted.1, rfl⟩

/-! ## All additions -/

/-- The additions insert what their sources declare, and count what they insert. -/
theorem Holding.addEach (named : workspace.autoloaderIn? package store = some path)
    (beside : path.components ≠ (workspace.descriptorFile package).components)
    {sources : List Source}
    (addable : ∀ source ∈ sources, Addable workspace package parser store path source)
    (holding : Holding workspace package store path manifest middle) :
    let last := manifest.insertAll (sources.map fun source =>
      ⟨source.file, own package source.found⟩)
    ∃ additions after,
      perform (.granting parser) (addEach workspace package (sources.map Source.file)) middle =
        (.ok additions, after) ∧
      Holding workspace package store path last after ∧
      Manifest.listings last.entries =
        Manifest.listings manifest.entries + (additions.map Addition.added).sum := by
  induction sources generalizing manifest middle with
  | nil => exact ⟨[], middle, rfl, holding, rfl⟩
  | cons source sources ih =>
    intro last
    obtain ⟨addition, next, performed, holding, added⟩ :=
      holding.add named beside (addable source (List.mem_cons_self ..))
    obtain ⟨additions, after, more, holding, counted⟩ :=
      ih (fun other mem => addable other (List.mem_cons_of_mem _ mem)) holding
    refine ⟨addition :: additions, after, ?_, holding, ?_⟩
    · rw [List.map_cons, Autoloader.addEach, MemoryStore.perform_bind, performed]
      dsimp only
      rw [MemoryStore.perform_bind, more]
      rfl
    · have grown := Manifest.listings_insertInto source.file (own package source.found)
        manifest.entries
      rw [List.map_cons, List.sum_cons, ← Nat.add_assoc, added]
      exact counted.trans (congrArg (· + _) grown)

/-- The sources that insert something are those that declare something if none is outside. -/
theorem insertions_of_inside {sources : List Source}
    (inside : ∀ source ∈ sources, ∀ name ∈ source.declared, name.IsIn package) :
    insertions package sources = (sources.filter fun source => source.found ≠ []).map fun source =>
      ⟨source.file, own package source.found⟩ := by
  refine congrArg _ (List.filter_congr fun source mem => decide_eq_decide.mpr ?_)
  constructor
  · rintro ⟨name, declared, -⟩ none
    rw [Source.declared, none] at declared
    cases declared
  · intro some
    obtain ⟨declaration, found⟩ := List.exists_mem_of_ne_nil _ some
    have declared : declaration.name ∈ source.declared := List.mem_map_of_mem found
    exact ⟨_, declared, inside source mem _ declared⟩

/-- A rebuilding that leaves nothing out does what initialising does and then adding each source
that declares something, in the order of the paths: all of that succeeds, the same document is
written, and the counts come to the same. -/
theorem rebuild_adds_each (named : workspace.autoloaderIn? package store = some path)
    (plain : path.extension? ≠ some "php")
    (beside : path.components ≠ (workspace.descriptorFile package).components)
    (slashes : ∀ other ∈ store.paths, other.isWithin (workspace.directory package) = true →
      Path.PlainBelow (workspace.directory package) other) {rebuilt : Rebuilt}
    (outcome : Outcome parser (rebuild workspace package).run store (.ok rebuilt) after)
    (complete : rebuilt.skipped = []) :
    ∃ sources additions last text,
      (store.list (workspace.directory package) "php").mapM
          (source? parser store (workspace.directory package)) = some sources ∧
        perform (.granting parser) (initAddEach workspace package
          ((sources.filter fun source => source.found ≠ []).map Source.file)) store =
            (.ok additions, last) ∧
        after.file? path = some text ∧ last.file? path = some text ∧ last.files = after.files ∧
        (additions.map Addition.added).sum = rebuilt.classes := by
  obtain ⟨sources, rebuilds⟩ := exists_rebuilds outcome
  obtain rfl : path = rebuilt.autoloader := Option.some.inj (named.symm.trans rebuilds.named)
  have taken : Progress.After package .start sources _ := Progress.after_foldl .start sources
  have made : (sources.foldl (Progress.takeIn package) .start).manifest =
      Manifest.empty.insertAll (insertions package sources) := taken.manifest
  have inside : ∀ source ∈ sources, ∀ name ∈ source.declared, name.IsIn package := by
    have none := taken.skipped.symm.trans (rebuilds.skipped.symm.trans complete)
    simpa [Progress.start] using none
  have addable : ∀ source ∈ sources,
      Addable workspace package parser store rebuilt.autoloader source := by
    intro source mem
    obtain ⟨place, among, -, scans, back⟩ := rebuilds.listed mem
    obtain ⟨held, within, extended⟩ := MemoryStore.mem_list.mp among
    have back := back (slashes place held within)
    refine ⟨?_, ?_, inside source mem⟩
    · rw [scanned?_congr (MemoryStore.file?_of_components_eq back store), scans]
    · intro same
      rw [← Path.extension?_congr (back.symm.trans same)] at plain
      exact plain extended
  have present := isPresent_of_rebuild outcome
  have begun : Holding workspace package store rebuilt.autoloader .empty
      (store.withFile rebuilt.autoloader Manifest.empty.toJson) :=
    ⟨MemoryStore.files_withFile .., MemoryStore.isPresent_withFile present _ _⟩
  obtain ⟨additions, last, performed, holding, counted⟩ := begun.addEach named beside
    fun source mem => addable source (List.mem_of_mem_filter mem)
  rw [← insertions_of_inside inside, ← made] at holding counted
  refine ⟨sources, additions, last,
    (sources.foldl (Progress.takeIn package) .start).manifest.toJson, rebuilds.read, ?_, ?_, ?_,
    holding.files.trans rebuilds.puts.symm, ?_⟩
  · rw [initAddEach, MemoryStore.perform_bind, perform_init present named]
    exact performed
  · rw [MemoryStore.file?_eq, rebuilds.puts, MemoryStore.content?_putFile_self]
  · rw [MemoryStore.file?_eq, holding.files, MemoryStore.content?_putFile_self]
  · have none : Manifest.listings Manifest.empty.entries = 0 := rfl
    rw [rebuilds.classes, taken.classes rfl, counted, none, Nat.zero_add]

/-- Two sources are added, and one between them that declares nothing is passed over; the autoloader
file was no document before. -/
theorem rebuild_adds_each_over_silent_source :
    let workspace : Workspace := ⟨⟨"p"⟩⟩
    let shop : PackageName := ⟨"shop", by decide⟩
    let path : Path := ⟨"p/shop/a"⟩
    let store := ((((MemoryStore.empty.withFile ⟨"p/shop/package.json"⟩
      "\x7b\"autoload\":\"a\"\x7d").withFile path "?").withFile ⟨"p/shop/b/c.php"⟩ "A").withFile
        ⟨"p/shop/d.php"⟩ "").withFile ⟨"p/shop/e.php"⟩ "B"
    let parser : Parser := fun text =>
      .ok (if text = "" then []
        else [.inNamespace "packages\\shop" [.declared ⟨.classType, text, [], 1, 1⟩]])
    let rebuilding := perform (.granting parser) (rebuild workspace shop) store
    rebuilding.1 = .ok ⟨path, 2, 2, []⟩ ∧
      ∃ sources additions last text,
        (store.list (workspace.directory shop) "php").mapM
            (source? parser store (workspace.directory shop)) = some sources ∧
          perform (.granting parser) (initAddEach workspace shop
            ((sources.filter fun source => source.found ≠ []).map Source.file)) store =
              (.ok additions, last) ∧
          rebuilding.2.file? path = some text ∧ last.file? path = some text ∧
          last.files = rebuilding.2.files ∧ (additions.map Addition.added).sum = 2 := by
  intro workspace shop path store parser rebuilding
  have named : workspace.autoloaderIn? shop store = some path := by decide +kernel
  have rebuilt : rebuilding.1 = .ok ⟨path, 2, 2, []⟩ := by decide +kernel
  have outcome := MemoryStore.outcome_perform (.granting parser) (rebuild workspace shop) store
  exact ⟨rebuilt, rebuild_adds_each named (by decide) (by decide) (by decide +kernel)
    (rebuilt ▸ outcome) rfl⟩

end PackageIndex.Autoloader
