import PackageIndex.Proofs.Store.Race
import PackageIndex.Proofs.Workspace.Registration

/-!
# Adding at once

Nothing locks an autoloader. Of two additions that have both read it before either writes, the later
one wins, and what the earlier one added is gone. But every addition writes all that it has read and
its own classes, so what was there before the first of them is there ever after, and nothing comes
in but by one of them.
-/
namespace PackageIndex.Autoloader

/-- A call that adds classes under a file: those that are given or declared, or, where none of them
may belong to another file, those that are given. -/
inductive Adding where
  | add (file : RelativePath) (classes : Option (List String))
  | register (file : RelativePath) (classes : List String)
  deriving DecidableEq, Repr

namespace Adding

def file : Adding → RelativePath
  | add file _ | register file _ => file

def work (workspace : Workspace) (package : PackageName) : Adding → Work Addition
  | add file classes => Autoloader.add workspace package file classes
  | register file classes => Autoloader.register workspace package file classes

end Adding

/-! ## The pact -/

/-- A manifest lists all that the first one did, and else only what has been added since. -/
structure Between (first : Manifest) (log : List Addition) (manifest : Manifest) : Prop where
  keeps : ∀ file name, first.Lists file name → manifest.Lists file name
  adds : ∀ file name, manifest.Lists file name →
    first.Lists file name ∨ ∃ addition ∈ log, addition.file = file ∧ name ∈ addition.classes

/-- An insertion that comes later stays between. -/
theorem Between.insert {first manifest : Manifest} {since now : List Addition}
    (between : Between first since manifest) (later : since <:+ now) (addition : Addition) :
    Between first (addition :: now) (manifest.insert addition.file addition.classes).1 := by
  constructor
  · intro file name listed
    exact Manifest.lists_insert.mpr (.inl (between.keeps file name listed))
  · intro file name listed
    rcases Manifest.lists_insert.mp listed with old | ⟨rfl, mem⟩
    · refine (between.adds file name old).imp_right fun ⟨earlier, mem, same⟩ => ?_
      exact ⟨earlier, List.mem_cons_of_mem _ (later.mem mem), same⟩
    · exact .inr ⟨addition, List.mem_cons_self .., rfl, mem⟩

/-- While classes are only added, the file at the path holds a manifest with all that the latest
addition has put there. It is the autoloader, unless it has taken the place of the descriptor. -/
structure Growing (workspace : Workspace) (package : PackageName) (path : Path) (first : Manifest)
    (log : List Addition) (store : MemoryStore) : Prop where
  named : ∀ other, workspace.autoloaderIn? package store = some other → other = path
  stored : ∃ manifest, stored? store path = some (.ok manifest) ∧ Between first log manifest ∧
    ∀ addition ∈ log.head?, ∀ name ∈ addition.classes, manifest.Lists addition.file name

variable {workspace : Workspace} {package : PackageName} {path : Path} {first : Manifest}
  {store after : MemoryStore} {log : List Addition}

theorem Growing.congr (growing : Growing workspace package path first log store)
    (kept : after.files = store.files) : Growing workspace package path first log after := by
  refine ⟨fun other named => growing.named other ?_, ?_⟩
  · rwa [Workspace.autoloaderIn?_congr kept] at named
  · rw [stored?_congr kept]
    exact growing.stored

/-- A manifest that was read at some time is written with an addition. What has been written since
it was read is lost, but nothing that was there at first. -/
theorem Growing.write {since : List Addition} {manifest : Manifest}
    (growing : Growing workspace package path first log store)
    (between : Between first since manifest) (later : since <:+ log) (addition : Addition)
    (puts : after.files = MemoryStore.putFile path
      (manifest.insert addition.file addition.classes).1.toJson store.files) :
    Growing workspace package path first (addition :: log) after := by
  refine ⟨fun other named => ?_, _, stored?_putFile puts, between.insert later addition, ?_⟩
  · by_cases atop : path.components = (workspace.descriptorFile package).components
    · rw [Workspace.autoloaderIn?_over_descriptor atop puts] at named
      cases named
    · rw [Workspace.autoloaderIn?_putFile atop puts] at named
      exact growing.named other named
  · intro latest same name mem
    cases same
    exact Manifest.lists_insert.mpr (.inr ⟨rfl, mem⟩)

/-! ## What keeps the pact -/

section
variable {pact : Pact Addition}

theorem looks_require : pact.Looks (workspace.require package) := by
  unfold Workspace.require
  refine (Pact.Looks.isPresent _).bind fun found => ?_
  split
  · exact .pure _
  · exact .fail _

theorem looks_parseFile (source : Path) : pact.Looks (parseFile source) := by
  unfold parseFile
  refine (Pact.Looks.read source).bind fun text => (Pact.Looks.parse text).bind fun parsed => ?_
  split
  · exact (Pact.Looks.note _).bind fun _ => .pure _
  · exact .fail _

theorem looks_declaredClasses (file : RelativePath) :
    pact.Looks (declaredClasses workspace package file) := by
  unfold declaredClasses scanFile
  exact ((looks_parseFile _).bind fun _ => .lift _).bind fun _ =>
    (Pact.Looks.note _).bind fun _ => .lift _

end

variable (workspace package path first)

def growingPact : Pact Addition where
  Holds := Growing workspace package path first
  congr kept growing := growing.congr kept

variable {workspace package path first}

/-- Whenever it is read, the descriptor names the path or nothing. -/
theorem keeps_requireAutoloader :
    (growingPact workspace package path first).Keeps none log
      (workspace.requireAutoloader package) fun own _ other => own = none ∧ other = path := by
  have descriptor : (growingPact workspace package path first).Keeps none log
      (workspace.descriptor package) fun own _ descriptor => own = none ∧
        ∀ other ∈ descriptor.autoload.map (workspace.resolve package), other = path := by
    unfold Workspace.descriptor
    refine Pact.Keeps.bind (P := fun own now text => own = none ∧ ∃ store,
      Growing workspace package path first now store ∧
        store.file? (workspace.descriptorFile package) = some text)
      (Pact.Keeps.rescue (Pact.Keeps.read _) fun log failure => ?_) fun own log text told => ?_
    · split <;> exact .fail _
    · obtain ⟨rfl, store, growing, found⟩ := told
      split
      · exact .fail _
      · next descriptor decoded =>
        refine (Pact.Keeps.note _).bind fun own _ _ same => .pure ⟨same, fun other named => ?_⟩
        refine growing.named other ?_
        simpa [Workspace.autoloaderIn?, Workspace.descriptor?, found, decoded, Except.toOption]
          using named
  unfold Workspace.requireAutoloader Workspace.autoloaderFile?
  refine Pact.Keeps.bind (P := fun own _ path? => own = none ∧ ∀ other ∈ path?, other = path)
    (descriptor.bind fun own _ descriptor told => .pure told) fun own _ path? told => ?_
  obtain ⟨rfl, named⟩ := told
  cases path? with
  | none => exact .fail _
  | some other => exact .pure ⟨rfl, named other rfl⟩

/-- The manifest that is read has grown from the first one. -/
theorem keeps_readManifest :
    (growingPact workspace package path first).Keeps none log (readManifest path)
      fun own now manifest => own = none ∧ Between first now manifest := by
  unfold readManifest
  refine (Pact.Keeps.read path).bind fun own now text told => ?_
  obtain ⟨rfl, store, growing, found⟩ := told
  obtain ⟨manifest, holds, between, -⟩ := growing.stored
  rw [stored?, found, Option.map_some] at holds
  rw [Option.some.inj holds]
  exact .pure ⟨rfl, between⟩

/-- A merge ends with the one write that it makes, and gives what it has entered. -/
theorem keeps_merge (file : RelativePath) (classes : List QualifiedName) (exclusive : Bool) :
    (growingPact workspace package path first).Keeps none log
      (merge workspace package file classes exclusive) fun own _ addition =>
        own = some addition ∧ addition.file = file := by
  unfold merge
  refine keeps_requireAutoloader.bind fun own log other told => ?_
  obtain ⟨rfl, rfl⟩ := told
  refine keeps_readManifest.bind fun own log manifest told => ?_
  obtain ⟨rfl, between⟩ := told
  have last : (growingPact workspace package other first).Keeps none log
      (writeManifest other (manifest.insert file classes).1 >>= fun _ =>
        Work.note ⟨.info, target, "Autoloader updated",
          [("added", count (manifest.insert file classes).2), ("total", count classes.length)]⟩
        >>= fun _ => pure ⟨other, file, classes, (manifest.insert file classes).2⟩)
      fun own _ addition => own = some addition ∧ addition.file = file := by
    let addition : Addition := ⟨other, file, classes, (manifest.insert file classes).2⟩
    refine (Pact.Keeps.store addition fun later growing puts =>
      Growing.write growing between later addition puts).bind fun own _ _ same => ?_
    exact (Pact.Keeps.note _).bind fun own _ _ same' => .pure ⟨same'.trans same, rfl⟩
  cases exclusive with
  | false => exact last
  | true =>
    dsimp only
    cases owned? manifest file classes with
    | none => exact last
    | some conflict =>
      exact (Pact.Keeps.fail (P := fun _ _ _ => False) _).bind fun _ _ _ h => h.elim

/-- Each call puts its own addition into the log. -/
theorem keeps_work (call : Adding) :
    (growingPact workspace package path first).Keeps none log (call.work workspace package)
      fun own _ addition => own = some addition ∧ addition.file = call.file := by
  cases call with
  | add file classes =>
    unfold Adding.work Autoloader.add
    refine looks_require.bind_keeps fun log _ => ?_
    cases classes with
    | some given => exact (Pact.Looks.lift _).bind_keeps fun _ names => keeps_merge file names false
    | none =>
      exact (looks_declaredClasses file).bind_keeps fun _ names => keeps_merge file names false
  | register file classes =>
    unfold Adding.work Autoloader.register
    exact looks_require.bind_keeps fun _ _ => (Pact.Looks.lift _).bind_keeps fun _ names =>
      keeps_merge file names true

/-! ## Races of additions -/

/-- Before any call the manifest is the first one. -/
theorem Growing.start (named : workspace.autoloaderIn? package store = some path)
    (holds : stored? store path = some (.ok first)) :
    Growing workspace package path first [] store := by
  refine ⟨fun other names => ?_, first, holds, ⟨fun _ _ listed => listed, fun _ _ => .inl⟩, ?_⟩
  · exact Option.some.inj (names.symm.trans named)
  · exact fun addition none => by cases none

variable {ι : Type} [DecidableEq ι]

/-- Additions at once, however many: whatever fails and in whatever order their requests are
answered, at every moment the autoloader is a manifest that lists all it listed at first. Whatever
else it lists is what one of the additions comes to, and all that the addition which has written
last comes to is there. -/
theorem race_keeps {calls : ι → Adding} {race : Race ι (Except Failure Addition)}
    (named : workspace.autoloaderIn? package store = some path)
    (holds : stored? store path = some (.ok first))
    (reaches : (Race.start (fun i => ((calls i).work workspace package).run) store).Reaches race) :
    ∃ manifest, stored? race.store path = some (.ok manifest) ∧
      (∀ file name, first.Lists file name → manifest.Lists file name) ∧
      (∀ file name, manifest.Lists file name → first.Lists file name ∨
        ∃ i addition, (race.left i).result? = some (.ok addition) ∧ (calls i).file = file ∧
          name ∈ addition.classes) ∧
      ∀ i ∈ race.writers.head?, ∃ addition, (race.left i).result? = some (.ok addition) ∧
        ∀ name ∈ addition.classes, manifest.Lists (calls i).file name := by
  obtain ⟨log, kept⟩ := (Race.Kept.start (growingPact workspace package path first)
    (Growing.start named holds) fun i => (keeps_work (calls i)).amid).reaches reaches
  have comes {i : ι} {addition : Addition} (mem : (i, addition) ∈ log) :
      (race.left i).result? = some (.ok addition) ∧ addition.file = (calls i).file := by
    obtain ⟨result, since, comes, told⟩ := kept.result?_eq mem
    cases result with
    | error failure => cases told
    | ok other =>
      obtain ⟨same, file⟩ := told
      cases same
      exact ⟨comes, file⟩
  obtain ⟨manifest, stored, between, latest⟩ := kept.holds.stored
  refine ⟨manifest, stored, between.keeps, fun file name listed => ?_, fun i last => ?_⟩
  · refine (between.adds file name listed).imp_right fun ⟨addition, mem, same, among⟩ => ?_
    obtain ⟨⟨i, _⟩, entered, rfl⟩ := List.mem_map.mp mem
    exact ⟨i, _, (comes entered).1, (comes entered).2.symm.trans same, among⟩
  · rw [kept.writers] at last
    cases log with
    | nil => cases last
    | cons entry log =>
      cases last
      have mem : entry ∈ entry :: log := List.mem_cons_self ..
      refine ⟨entry.2, (comes mem).1, fun name among => ?_⟩
      rw [← (comes mem).2]
      exact latest entry.2 rfl name among

/-- Two additions have both read the autoloader before either writes. What the first to write has
added is lost; what was there before is not, and what the other one has added is there. -/
theorem race_keeps_lost_update :
    let workspace : Workspace := ⟨⟨"p"⟩⟩
    let shop : PackageName := ⟨"shop", by decide⟩
    let f : RelativePath := ⟨"f", by decide, by decide, by decide, by decide⟩
    let a : QualifiedName := ⟨["A"], by decide, by decide⟩
    let b : QualifiedName := ⟨["B"], by decide, by decide⟩
    let c : QualifiedName := ⟨["C"], by decide, by decide⟩
    let path : Path := ⟨"p/shop/a"⟩
    let store := (MemoryStore.empty.withFile ⟨"p/shop/package.json"⟩
      "\x7b\"autoload\":\"a\"\x7d").withFile path "[[[\"f\",[\"A\"]]]]"
    let first : Manifest := ⟨[⟨f, [a]⟩], by decide⟩
    let manifest : Manifest := ⟨[⟨f, [a, c]⟩], by decide⟩
    let calls (isSecond : Bool) : Adding :=
      if isSecond then .register f ["C"] else .add f (some ["B"])
    let last := (Race.start (fun i => ((calls i).work workspace shop).run) store).schedule
      (fun _ => .ok []) [false, false, false, false, true, true, true, true,
        false, false, false, false, true, true, true, true]
    stored? store path = some (.ok first) ∧ last.writers = [true, false] ∧
      (last.left false).result? = some (.ok ⟨path, f, [b], 1⟩) ∧
      stored? last.store path = some (.ok manifest) ∧
      (∀ file name, first.Lists file name → manifest.Lists file name) ∧
      (∀ file name, manifest.Lists file name → first.Lists file name ∨
        ∃ i addition, (last.left i).result? = some (.ok addition) ∧ (calls i).file = file ∧
          name ∈ addition.classes) ∧
      ∃ addition, (last.left true).result? = some (.ok addition) ∧
        ∀ name ∈ addition.classes, manifest.Lists f name := by
  intro workspace shop f a b c path store first manifest calls last
  have named : workspace.autoloaderIn? shop store = some path := by decide +kernel
  have holds : stored? store path = some (.ok first) := by decide +kernel
  have ran : last.writers = [true, false] ∧
      (last.left false).result? = some (.ok ⟨path, f, [b], 1⟩) ∧
      last.store.file? path = some manifest.toJson := by
    decide +kernel
  obtain ⟨written, lost, text⟩ := ran
  have stored : stored? last.store path = some (.ok manifest) := by
    rw [stored?, text, Option.map_some, Manifest.ofJson_toJson]
  obtain ⟨other, same, keeps, adds, latest⟩ :=
    race_keeps named holds (Race.reaches_schedule _ _ _ : Race.Reaches _ last)
  rw [stored] at same
  cases same
  exact ⟨holds, written, lost, stored, keeps, adds, latest true (by rw [written]; rfl)⟩

end PackageIndex.Autoloader
