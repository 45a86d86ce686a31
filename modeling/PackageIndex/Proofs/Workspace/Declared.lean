import PackageIndex.Proofs.Workspace.Rebuild

/-!
# Declared names and the namespace of a package

A name in the namespace of package `p` is written `packages\p\` and something more, and what the
package itself calls it is just that. Adding a file by what it declares and rebuilding both go by
this: the one stops at the first name from elsewhere, the other leaves such names out and goes on.
Either way the names that are taken over keep their order, and the namespace put before them gives
back what was declared.
-/
namespace PackageIndex

namespace QualifiedName

variable {package : PackageName} {name : QualifiedName}

/-- The name is written with the namespace of the package and something behind it. -/
def IsWrittenIn (package : PackageName) (name : QualifiedName) : Prop :=
  ∃ rest, rest ≠ "" ∧ name.text = "packages\\" ++ package.text ++ "\\" ++ rest

/-- With its package a name is written behind `packages` and the name of the package. -/
theorem text_withPackage (package : PackageName) (name : QualifiedName) :
    (name.withPackage package).text = "packages\\" ++ package.text ++ "\\" ++ name.text := by
  obtain ⟨first, rest, segments⟩ := List.exists_cons_of_ne_nil name.nonempty
  simp [text, segments, Text.join, Name.root, Name.separator, String.append_assoc]

/-- What stands behind the namespace of a package is the name of something in it. -/
theorem isWrittenIn_iff : name.IsWrittenIn package ↔ name.IsIn package := by
  constructor
  · rintro ⟨rest, -, written⟩
    have owner : Text.pieces Name.separator package.text = [package.text] :=
      Text.pieces_of_not_mem (Name.not_mem_of_isIdentifier package.identifier (by decide))
    have segments : name.segments =
        Name.root :: package.text :: Text.pieces Name.separator rest := by
      have split := name.pieces_text
      rw [written] at split
      change Text.pieces Name.separator (Name.root ++ String.singleton Name.separator ++
        package.text ++ String.singleton Name.separator ++ rest) = _ at split
      rw [Text.pieces_append, Text.pieces_append, owner,
        Text.pieces_of_not_mem (by decide : Name.separator ∉ Name.root.toList)] at split
      exact split.symm
    have identifiers := name.identifiers
    rw [segments] at identifiers
    simp only [List.all_cons, Bool.and_eq_true] at identifiers
    exact ⟨⟨_, Text.pieces_ne_nil _ rest, identifiers.2.2⟩, eq_of_segments segments.symm⟩
  · rintro ⟨inner, rfl⟩
    exact ⟨inner.text, inner.text_ne_empty, text_withPackage package inner⟩

instance (package : PackageName) : DecidablePred (IsWrittenIn package) := fun _ =>
  decidable_of_iff _ isWrittenIn_iff.symm

/-- A name outside the package has no form in it. -/
theorem withoutPackage_of_not_isIn (outside : ¬ name.IsIn package) :
    name.withoutPackage package = .error (.badQualifiedName name.text
      ("expected the prefix packages\\" ++ package.text ++ "\\")) := by
  have unparted {inner : QualifiedName} : name.withoutPackage package ≠ .ok inner :=
    fun parted => outside ⟨inner, withoutPackage_eq_ok.mp parted⟩
  revert unparted
  fun_cases withoutPackage package name with
  | case1 | case2 | case3 | case5 =>
    intro _
    rfl
  | case4 =>
    intro unparted
    exact absurd rfl unparted

end QualifiedName

namespace Autoloader

open MemoryStore (Grants Outcome Parser perform)

variable {workspace : Workspace} {package : PackageName} {parser : Parser} {store : MemoryStore}
  {file : RelativePath} {found : List Declaration}

/-! ## Adding a file -/

/-- A file gives the classes that it declares under the names that the package has for them. -/
theorem grants_declaredClasses_iff
    (scans : scanned? parser store (workspace.resolve package file) file = some found)
    {classes : List QualifiedName} :
    Grants parser store (declaredClasses workspace package file) classes ↔
      classes.map (QualifiedName.withPackage package) = found.map Declaration.name := by
  rw [← QualifiedName.mapM_withoutPackage_eq_ok]
  constructor
  · intro granted
    have outcome := MemoryStore.outcome_perform (.granting parser)
      (declaredClasses workspace package file) store
    rw [Grants] at granted
    rw [granted] at outcome
    obtain ⟨also, scans', parted⟩ := (reads_declaredClasses workspace package file).gives outcome
    cases scans.symm.trans scans'
    exact parted
  · exact grants_declaredClasses scans

/-- What adding a file comes to once it has been scanned. -/
structure AddsDeclared (workspace : Workspace) (package : PackageName) (parser : Parser)
    (store : MemoryStore) (file : RelativePath) (found : List Declaration) : Prop where
  passes : (∃ classes, Grants parser store (declaredClasses workspace package file) classes) ↔
    ∀ declaration ∈ found, declaration.name.IsWrittenIn package
  /-- Past the scan, what is left to do is the merge. -/
  merges : store.isPresent (workspace.directory package) = true → ∀ classes,
    Grants parser store (declaredClasses workspace package file) classes →
      perform (.granting parser) (add workspace package file none) store =
        perform (.granting parser) (merge workspace package file classes false) store
  /-- The first name from elsewhere is the fault. -/
  stops : store.isPresent (workspace.directory package) = true → ∀ before declaration rest,
    found = before ++ declaration :: rest →
      (∀ earlier ∈ before, earlier.name.IsWrittenIn package) →
        ¬ declaration.name.IsWrittenIn package →
          perform (.granting parser) (add workspace package file none) store =
            (.error (.input (.badQualifiedName declaration.name.text
              ("expected the prefix packages\\" ++ package.text ++ "\\"))), store)
  /-- Whatever else may fail: a success tells the declared names. -/
  classes : ∀ addition after,
    Outcome parser (add workspace package file none).run store (.ok addition) after →
      addition.classes.map (QualifiedName.withPackage package) = found.map Declaration.name

/-- The fault of the first declaration outside the package is told. -/
theorem perform_declaredClasses_of_fault
    (scans : scanned? parser store (workspace.resolve package file) file = some found)
    {fault : Fault}
    (faulty : found.mapM (fun declaration => declaration.name.withoutPackage package) =
      .error fault) :
    perform (.granting parser) (declaredClasses workspace package file) store =
      (.error (.input fault), store) := by
  unfold declaredClasses
  rw [(grants_scanFile scans).perform_bind, (Grants.note _).perform_bind, faulty]
  rfl

/-- Adding a file takes in what it declares. -/
theorem addsDeclared
    (scans : scanned? parser store (workspace.resolve package file) file = some found) :
    AddsDeclared workspace package parser store file found where
  passes := by
    simp only [grants_declaredClasses_iff scans, ← QualifiedName.mapM_withoutPackage_eq_ok,
      exists_mapM_eq_ok, QualifiedName.withoutPackage_eq_ok, QualifiedName.isWrittenIn_iff]
    rfl
  merges := by
    intro present classes granted
    unfold add
    rw [(Workspace.grants_require present).perform_bind, granted.perform_bind]
  stops := by
    intro present before declaration rest split inside outside
    have fails := QualifiedName.withoutPackage_of_not_isIn
      (mt QualifiedName.isWrittenIn_iff.mpr outside)
    have fine : ∀ earlier ∈ before, ∃ inner, earlier.name.withoutPackage package = .ok inner := by
      intro earlier mem
      obtain ⟨inner, whole⟩ := QualifiedName.isWrittenIn_iff.mp (inside earlier mem)
      exact ⟨inner, QualifiedName.withoutPackage_eq_ok.mpr whole⟩
    have stopped := perform_declaredClasses_of_fault scans
      (split ▸ mapM_append_cons_eq_error fine fails)
    unfold add
    rw [(Workspace.grants_require present).perform_bind,
      MemoryStore.perform_bind_error _ (congrArg Prod.fst stopped), stopped]
  classes := by
    intro addition after outcome
    obtain ⟨path, text, ⟨asked, -⟩, -⟩ := (writes_add workspace package file none).puts outcome
    rw [asked?, scans, Option.bind_some, toOption_eq_some] at asked
    exact QualifiedName.mapM_withoutPackage_eq_ok.mp asked

/-! ## Rebuilding -/

/-- What rebuilding comes to once the sources have been scanned. -/
structure RebuildsDeclared (workspace : Workspace) (package : PackageName) (parser : Parser)
    (store : MemoryStore) (sources : List Source) : Prop where
  /-- No name stops it. -/
  passes : store.isPresent (workspace.directory package) = true → ∀ path,
    workspace.autoloaderIn? package store = some path → ∃ rebuilt after,
      perform (.granting parser) (rebuild workspace package) store = (.ok rebuilt, after)
  skipped : ∀ rebuilt after,
    Outcome parser (rebuild workspace package).run store (.ok rebuilt) after →
      rebuilt.skipped = sources.flatMap fun source =>
        source.declared.filter fun name => ¬ name.IsWrittenIn package
  /-- Source by source, the other names are inserted. -/
  inserts : ∀ rebuilt after,
    Outcome parser (rebuild workspace package).run store (.ok rebuilt) after →
      ∃ insertions : List Insertion,
        after.file? rebuilt.autoloader = some (Manifest.empty.insertAll insertions).toJson ∧
          List.Forall₂ (fun source insertion => insertion.file = source.file ∧
            insertion.classes.map (QualifiedName.withPackage package) =
              source.declared.filter fun name => name.IsWrittenIn package)
            (sources.filter fun source => ∃ name ∈ source.declared, name.IsWrittenIn package)
            insertions

theorem filter_isWrittenIn (names : List QualifiedName) :
    (names.filter fun name => name.IsWrittenIn package) =
      names.filter fun name => name.IsIn package :=
  List.filter_congr fun _ _ => decide_eq_decide.mpr QualifiedName.isWrittenIn_iff

theorem filter_not_isWrittenIn (names : List QualifiedName) :
    (names.filter fun name => ¬ name.IsWrittenIn package) =
      names.filter fun name => ¬ name.IsIn package :=
  List.filter_congr fun _ _ => decide_eq_decide.mpr (not_congr QualifiedName.isWrittenIn_iff)

/-- Rebuilding takes in what all sources declare. -/
theorem rebuildsDeclared {sources : List Source}
    (read : (store.list (workspace.directory package) "php").mapM
      (source? parser store (workspace.directory package)) = some sources) :
    RebuildsDeclared workspace package parser store sources := by
  have same {rebuilt : Rebuilt} {after : MemoryStore}
      (outcome : Outcome parser (rebuild workspace package).run store (.ok rebuilt) after) :
      Rebuilds workspace package parser store sources rebuilt after := by
    obtain ⟨others, rebuilds⟩ := exists_rebuilds outcome
    cases read.symm.trans rebuilds.read
    exact rebuilds
  have taken : Progress.After package .start sources _ := Progress.after_foldl .start sources
  refine ⟨fun present path named => ?_, fun rebuilt after outcome => ?_,
    fun rebuilt after outcome => ?_⟩
  · have indexed : index? workspace package parser store =
        some (sources.foldl (Progress.takeIn package) .start) := by
      rw [index?, foldlM_take?_eq, read]
      rfl
    exact ⟨_, _, perform_rebuild present named indexed⟩
  · rw [(same outcome).skipped, taken.skipped]
    simp only [filter_not_isWrittenIn]
    rfl
  · refine ⟨insertions package sources, ?_, ?_⟩
    · rw [MemoryStore.file?_eq, (same outcome).puts, MemoryStore.content?_putFile_self,
        taken.manifest]
      rfl
    · have declaring : (sources.filter fun source =>
            ∃ name ∈ source.declared, name.IsWrittenIn package) =
          sources.filter fun source => ∃ name ∈ source.declared, name.IsIn package := by
        refine List.filter_congr fun source _ => decide_eq_decide.mpr ?_
        simp only [QualifiedName.isWrittenIn_iff]
      rw [declaring, insertions, List.forall₂_map_right_iff, List.forall₂_same]
      exact fun source _ => ⟨rfl, (map_withPackage_own _).trans (filter_isWrittenIn _).symm⟩

/-- What a package calls a name is what it prefixes to that name, whatever the name. So where a file
has been scanned, adding it goes on to the merge just when each declared name is written in the
namespace of the package, and then takes over all of them in order; and rebuilding leaves out just
the names that are not written so, and takes over the others in order. -/
theorem declared_parted_by_package (workspace : Workspace) (package : PackageName)
    (parser : Parser) (store : MemoryStore) :
    (∀ (owner : PackageName) (name inner : QualifiedName),
      name.withoutPackage owner = .ok inner ↔ inner.withPackage owner = name) ∧
    (∀ file found, scanned? parser store (workspace.resolve package file) file = some found →
      AddsDeclared workspace package parser store file found) ∧
    ∀ sources, (store.list (workspace.directory package) "php").mapM
        (source? parser store (workspace.directory package)) = some sources →
      RebuildsDeclared workspace package parser store sources :=
  ⟨fun _ _ _ => QualifiedName.withoutPackage_eq_ok, fun _ _ => addsDeclared,
    fun _ => rebuildsDeclared⟩

/-- Of two files one declares three names: the namespace itself between a name in it and a name that
repeats it. Its addition stops at the second name; a rebuilding leaves out that name alone. -/
theorem declared_parted_by_package_bare_namespace :
    let workspace : Workspace := ⟨⟨"p"⟩⟩
    let shop : PackageName := ⟨"shop", by decide⟩
    let mixed : RelativePath := ⟨"m.php", by decide, by decide, by decide, by decide⟩
    let plain : RelativePath := ⟨"n.php", by decide, by decide, by decide, by decide⟩
    let store := ((MemoryStore.empty.withFile ⟨"p/shop/package.json"⟩
      "\x7b\"autoload\":\"a\"\x7d").withFile ⟨"p/shop/m.php"⟩ "mixed").withFile ⟨"p/shop/n.php"⟩ ""
    let parser : Parser := fun text => .ok (
      let inside (space name : String) : SourceNode :=
        .inNamespace space [.declared ⟨.classType, name, [], 1, 1⟩]
      if text = "mixed" then [inside "packages\\shop" "A", inside "packages" "shop",
        inside "packages\\shop\\packages" "shop"]
      else [inside "packages\\shop" "A"])
    let own : QualifiedName := ⟨["packages", "shop", "A"], by decide, by decide⟩
    let bare : QualifiedName := ⟨["packages", "shop"], by decide, by decide⟩
    let again : QualifiedName := ⟨["packages", "shop", "packages", "shop"], by decide, by decide⟩
    let found : List Declaration :=
      [own, bare, again].map fun name => ⟨name, .classType, mixed⟩
    let sources : List Source := [⟨mixed, found⟩, ⟨plain, [⟨own, .classType, plain⟩]⟩]
    scanned? parser store (workspace.resolve shop mixed) mixed = some found ∧
      perform (.granting parser) (add workspace shop mixed none) store =
        (.error (.input (.badQualifiedName "packages\\shop"
          "expected the prefix packages\\shop\\")), store) ∧
      (store.list (workspace.directory shop) "php").mapM
        (source? parser store (workspace.directory shop)) = some sources ∧
      ∃ rebuilt after, perform (.granting parser) (rebuild workspace shop) store =
        (.ok rebuilt, after) ∧ rebuilt.skipped = [bare] := by
  intro workspace shop mixed plain store parser own bare again found sources
  have present : store.isPresent (workspace.directory shop) = true := by decide +kernel
  have scans : scanned? parser store (workspace.resolve shop mixed) mixed = some found := by
    decide +kernel
  have read : (store.list (workspace.directory shop) "php").mapM
      (source? parser store (workspace.directory shop)) = some sources := by decide +kernel
  obtain ⟨-, adds, rebuilds⟩ := declared_parted_by_package workspace shop parser store
  have stops := (adds mixed found scans).stops present [⟨own, .classType, mixed⟩]
    ⟨bare, .classType, mixed⟩ [⟨again, .classType, mixed⟩] rfl (by decide +kernel)
    (by decide +kernel)
  obtain ⟨rebuilt, after, performed⟩ :=
    (rebuilds sources read).passes present ⟨"p/shop/a"⟩ (by decide +kernel)
  have outcome := MemoryStore.outcome_perform (.granting parser) (rebuild workspace shop) store
  rw [performed] at outcome
  have skipped := (rebuilds sources read).skipped rebuilt after outcome
  have left : (sources.flatMap fun source =>
      source.declared.filter fun name => ¬ name.IsWrittenIn shop) = [bare] := by decide +kernel
  exact ⟨scans, stops, read, rebuilt, after, performed, skipped.trans left⟩

end Autoloader

end PackageIndex
