import PackageIndex.Proofs.Manifest
import PackageIndex.Proofs.Workspace.Separate

/-!
# An autoloader file as a manifest in memory

What the autoloader file says can be kept in memory instead: an empty manifest after initialising,
the manifest with one more insertion after adding or registering, a manifest made from the sources
after rebuilding, and otherwise what it was. Every course of operations agrees with that memory at
every moment, however many of them fail.
-/
namespace PackageIndex

open MemoryStore (Outcome Parser perform)

/-! ## A store without its autoloader file -/

def MemoryStore.without (store : MemoryStore) (path : Path) : MemoryStore :=
  { store with files := store.files.filter fun file => file.1.components ≠ path.components }

/-- Another file stays where it is. -/
theorem MemoryStore.file?_without {path other : Path} (h : other.components ≠ path.components)
    (store : MemoryStore) : (store.without path).file? other = store.file? other := by
  rw [file?_eq, file?_eq, without]
  induction store.files with
  | nil => rfl
  | cons file files ih =>
    by_cases here : file.1.components = path.components
    · rw [List.filter_cons_of_neg (by simp [here]), ih, content?_cons,
        if_neg fun same => h (same.symm.trans here)]
    · rw [List.filter_cons_of_pos (by simp [here]), content?_cons, ih, ← content?_cons]

/-- A file with another extension is not missed in a listing. -/
theorem MemoryStore.list_without {path : Path} {extension : String}
    (other : path.extension? ≠ some extension) (store : MemoryStore) (directory : Path) :
    (store.without path).list directory extension = store.list directory extension := by
  rw [list, paths, list, paths, without, List.filter_map, List.filter_map, List.filter_filter]
  congr 1
  refine List.filter_congr fun file _ => ?_
  by_cases here : file.1.components = path.components
  · have none : file.1.extension? ≠ some extension := by rwa [Path.extension?_congr here]
    simp [here, none]
  · simp [here]

namespace Autoloader

variable {workspace : Workspace} {package : PackageName} {store : MemoryStore} {path : Path}

/-- Taking in sources depends on the store only by what it holds at them. -/
theorem foldlM_take?_congr {parser : Parser} {other : MemoryStore} {directory : Path}
    (progress : Progress) {sources : List Path}
    (same : ∀ source ∈ sources, other.file? source = store.file? source) :
    sources.foldlM (Progress.take? parser other package directory) progress =
      sources.foldlM (Progress.take? parser store package directory) progress := by
  induction sources generalizing progress with
  | nil => rw [List.foldlM_nil, List.foldlM_nil]
  | cons source sources ih =>
    have first : progress.take? parser other package directory source =
        progress.take? parser store package directory source := by
      simp only [Progress.take?, scanned?, parsed?, same source (List.mem_cons_self ..)]
    rw [List.foldlM_cons, List.foldlM_cons, first]
    exact bind_congr fun next => ih next fun other mem => same other (List.mem_cons_of_mem _ mem)

/-- A file that is no source does not matter to the manifest made from the sources. -/
theorem index?_without (plain : path.extension? ≠ some "php") (parser : Parser) :
    index? workspace package parser (store.without path) =
      index? workspace package parser store := by
  rw [index?, MemoryStore.list_without plain, index?]
  refine foldlM_take?_congr .start fun source mem => MemoryStore.file?_without ?_ store
  intro here
  rw [MemoryStore.list, List.mem_filter, Bool.and_eq_true, decide_eq_true_iff,
    Path.extension?_congr here] at mem
  exact plain mem.2.2

/-! ## The manifest in memory -/

/-- What is kept of an autoloader file: nothing if there is none, its fault if it is no document. -/
abbrev Memory := Option (Except Fault Manifest)

variable (workspace package path)

/-- What one operation does to the memory, and what it answers from it. -/
inductive Remembers : Memory → Moment → Memory → Prop where
  | failed {memory : Memory} {parser : Parser} {operation : Operation} {before : MemoryStore}
    {failure : Failure} :
    Remembers memory ⟨parser, operation, before, .error failure⟩ memory
  | init {memory : Memory} {parser : Parser} {before : MemoryStore} :
    Remembers memory ⟨parser, .initAutoloader, before, .ok path⟩ (some (.ok .empty))
  | add {manifest : Manifest} {parser : Parser} {before : MemoryStore} {file : RelativePath}
    {given : Option (List String)} {classes : List QualifiedName} :
    asked? workspace package parser before file given = some classes →
    Remembers (some (.ok manifest))
      ⟨parser, .add file given, before, .ok ⟨path, file, classes, (manifest.insert file classes).2⟩⟩
      (some (.ok (manifest.insert file classes).1))
  | register {manifest : Manifest} {parser : Parser} {before : MemoryStore} {file : RelativePath}
    {given : List String} {classes : List QualifiedName} :
    asked? workspace package parser before file (some given) = some classes →
    owned? manifest file classes = none →
    Remembers (some (.ok manifest))
      ⟨parser, .register file given, before,
        .ok ⟨path, file, classes, (manifest.insert file classes).2⟩⟩
      (some (.ok (manifest.insert file classes).1))
  /-- What the file said before plays no part: it is not even there. -/
  | rebuild {memory : Memory} {parser : Parser} {before : MemoryStore} {progress : Progress} :
    index? workspace package parser (before.without path) = some progress →
    Remembers memory
      ⟨parser, .rebuild, before,
        .ok ⟨path, progress.manifest.entries.length, progress.classes, progress.skipped⟩⟩
      (some (.ok progress.manifest))
  | load {manifest : Manifest} {parser : Parser} {before : MemoryStore} :
    Remembers (some (.ok manifest)) ⟨parser, .load, before, .ok manifest⟩ (some (.ok manifest))
  | lookup {manifest : Manifest} {parser : Parser} {before : MemoryStore} {name : QualifiedName} :
    Remembers (some (.ok manifest))
      ⟨parser, .lookup name, before, .ok (manifest.lookup? name)⟩ (some (.ok manifest))
  | contains {manifest : Manifest} {parser : Parser} {before : MemoryStore}
    {name : QualifiedName} :
    Remembers (some (.ok manifest))
      ⟨parser, .contains name, before, .ok (manifest.contains name)⟩ (some (.ok manifest))
  | checkController {manifest : Manifest} {parser : Parser} {before : MemoryStore}
    {reference : ControllerRef} {found : Bool} :
    Controllers.Answers workspace package parser before manifest reference found →
    Remembers (some (.ok manifest)) ⟨parser, .checkController reference, before, .ok found⟩
      (some (.ok manifest))
  | initRouting {memory : Memory} {parser : Parser} {before : MemoryStore} {routing : Path} :
    Remembers memory ⟨parser, .initRouting, before, .ok routing⟩ memory
  | listRoutes {memory : Memory} {parser : Parser} {before : MemoryStore} {table : RouteTable} :
    Remembers memory ⟨parser, .listRoutes, before, .ok table⟩ memory
  | addRoute {memory : Memory} {parser : Parser} {before : MemoryStore}
    {request : Routing.RouteRequest} {route : Route} :
    Remembers memory ⟨parser, .addRoute request, before, .ok route⟩ memory

/-- Before each moment the file says what the memory holds, and so it does at the end. -/
inductive Refines : Memory → List Moment → (last : Memory) → Prop where
  | done {memory : Memory} : Refines memory [] memory
  | step {memory next last : Memory} {moment : Moment} {moments : List Moment} :
    stored? moment.before path = memory → Remembers workspace package path memory moment next →
    Refines next moments last → Refines memory (moment :: moments) last

/-! ## Courses of operations -/

section
variable {workspace package path}

/-- A manifest that is put is stored. -/
theorem stored?_putFile {before after : MemoryStore} {manifest : Manifest}
    (puts : after.files = MemoryStore.putFile path manifest.toJson before.files) :
    stored? after path = some (.ok manifest) := by
  rw [stored?, MemoryStore.file?_eq, puts, MemoryStore.content?_putFile_self, Option.map_some,
    Manifest.ofJson_toJson]

theorem stored?_congr {before after : MemoryStore} (kept : after.files = before.files) :
    stored? after path = stored? before path := by
  rw [stored?, stored?, MemoryStore.file?_eq, MemoryStore.file?_eq, kept]

variable {descriptor : Descriptor} {autoload : RelativePath}
  (described : workspace.descriptor? package store = some descriptor)
  (declared : descriptor.autoload = some autoload)
include described declared

theorem autoloaderIn?_eq : workspace.autoloaderIn? package store =
    some (workspace.resolve package autoload) := by
  rw [Workspace.autoloaderIn?, described, Option.bind_some, declared, Option.map_some]

/-- A manifest that an operation has read is the one in memory. -/
theorem stored?_of_named {manifest : Manifest} {other : Path}
    (named : workspace.autoloaderIn? package store = some other)
    (holds : stored? store other = some (.ok manifest)) :
    stored? store (workspace.resolve package autoload) = some (.ok manifest) := by
  rw [autoloaderIn?_eq described declared] at named
  cases named
  exact holds

/-- A merge has inserted into the manifest in memory, and tells so. -/
theorem Merged.inserts {file : RelativePath} {exclusive : Bool} {addition : Addition} {other : Path}
    {text : String} (merged : Merged workspace package store file exclusive addition other text) :
    other = workspace.resolve package autoload ∧
      ∃ manifest, stored? store (workspace.resolve package autoload) = some (.ok manifest) ∧
        (exclusive = true → owned? manifest file addition.classes = none) ∧
        addition = ⟨workspace.resolve package autoload, file, addition.classes,
          (manifest.insert file addition.classes).2⟩ ∧
        text = (manifest.insert file addition.classes).1.toJson := by
  obtain ⟨named, autoloader, entry, manifest, holds, free, added, rfl⟩ := merged
  have place := autoloaderIn?_eq described declared
  rw [named] at place
  cases place
  refine ⟨rfl, manifest, holds, free, ?_, rfl⟩
  cases addition
  simp only [Addition.mk.injEq, true_and]
  exact ⟨autoloader, entry, added⟩

/-- One operation does to the file what it does to the memory. -/
theorem remembers_operation (separate : workspace.Separate package descriptor)
    (plain : (workspace.resolve package autoload).extension? ≠ some "php") {parser : Parser}
    {operation : Operation} {result : Except Failure operation.Result} {after : MemoryStore}
    (outcome : Outcome parser (operation.work workspace package).run store result after) :
    Remembers workspace package (workspace.resolve package autoload)
      (stored? store (workspace.resolve package autoload)) ⟨parser, operation, store, result⟩
      (stored? after (workspace.resolve package autoload)) := by
  have place := autoloaderIn?_eq described declared
  cases result with
  | error failure =>
    rw [stored?_congr (Operation.files_of_error outcome)]
    exact .failed
  | ok a =>
    cases operation with
    | initAutoloader =>
      obtain ⟨other, text, ⟨named, rfl, rfl⟩, puts⟩ := (writes_init workspace package).puts outcome
      rw [place] at named
      cases named
      rw [stored?_putFile puts]
      exact .init
    | add file given =>
      obtain ⟨other, text, ⟨asked, merged⟩, puts⟩ :=
        (writes_add workspace package file given).puts outcome
      obtain ⟨rfl, manifest, holds, -, answer, rfl⟩ := merged.inserts described declared
      rw [stored?_putFile puts, holds, answer]
      exact .add asked
    | register file given =>
      obtain ⟨other, text, ⟨asked, merged⟩, puts⟩ :=
        (writes_register workspace package file given).puts outcome
      obtain ⟨rfl, manifest, holds, free, answer, rfl⟩ := merged.inserts described declared
      rw [stored?_putFile puts, holds, answer]
      exact .register asked (free rfl)
    | rebuild =>
      obtain ⟨other, text, ⟨named, progress, indexed, rfl, rfl⟩, puts⟩ :=
        (writes_rebuild workspace package).puts outcome
      rw [place] at named
      cases named
      rw [stored?_putFile puts]
      exact .rebuild ((index?_without plain parser).trans indexed)
    | load =>
      have reads : MemoryStore.Reads parser store _ _ := reads_load workspace package
      obtain ⟨other, named, holds⟩ := reads.gives outcome
      rw [reads.kept outcome, stored?_of_named described declared named holds]
      exact .load
    | lookup name =>
      have reads : MemoryStore.Reads parser store _ _ := reads_lookup? workspace package name
      obtain ⟨other, manifest, named, holds, rfl⟩ := reads.gives outcome
      rw [reads.kept outcome, stored?_of_named described declared named holds]
      exact .lookup
    | contains name =>
      have reads : MemoryStore.Reads parser store _ _ := reads_contains workspace package name
      obtain ⟨other, manifest, named, holds, rfl⟩ := reads.gives outcome
      rw [reads.kept outcome, stored?_of_named described declared named holds]
      exact .contains
    | checkController reference =>
      have reads : MemoryStore.Reads parser store _ _ :=
        Controllers.reads_isPresent workspace package reference
      obtain ⟨other, manifest, named, holds, answers⟩ := reads.gives outcome
      rw [reads.kept outcome, stored?_of_named described declared named holds]
      exact .checkController answers
    | listRoutes =>
      rw [(Routing.reads_list workspace package).kept outcome]
      exact .listRoutes
    | initRouting =>
      rw [stored?, stored?, Workspace.file?_after described outcome fun routing targeted =>
        Ne.symm (separate.apart autoload declared routing targeted)]
      exact .initRouting
    | addRoute request =>
      rw [stored?, stored?, Workspace.file?_after described outcome fun routing targeted =>
        Ne.symm (separate.apart autoload declared routing targeted)]
      exact .addRoute

/-- In every course, whatever fails, the autoloader file says at each moment what the manifest in
memory comes to. -/
theorem course_refines (separate : workspace.Separate package descriptor)
    (plain : (workspace.resolve package autoload).extension? ≠ some "php") {moments : List Moment}
    {last : MemoryStore} (course : workspace.Course package store moments last) :
    Refines workspace package (workspace.resolve package autoload)
      (stored? store (workspace.resolve package autoload)) moments
      (stored? last (workspace.resolve package autoload)) := by
  induction course with
  | done => exact .done
  | step outcome course ih =>
    exact .step rfl (remembers_operation described declared separate plain outcome)
      (ih (Workspace.descriptor?_after described outcome separate))

end

/-- A package whose addition fails at first, because writing is refused, and then goes through. -/
theorem course_refines_refused_addition :
    let workspace : Workspace := ⟨⟨"p"⟩⟩
    let shop : PackageName := ⟨"shop", by decide⟩
    let autoload : RelativePath := ⟨"a", by decide, by decide, by decide, by decide⟩
    let source : RelativePath := ⟨"f", by decide, by decide, by decide, by decide⟩
    let store := MemoryStore.empty.withFile ⟨"p/shop/package.json"⟩
      "\x7b\"autoload\":\"a\"\x7d"
    let parser : Parser := fun _ => .ok []
    let free : MemoryStore.Setting := .granting parser
    let refusing : MemoryStore.Setting := ⟨fun access _ => access = .write, parser⟩
    let ran (setting : MemoryStore.Setting) (operation : Operation) (store : MemoryStore) :=
      perform setting (operation.work workspace shop) store
    let first := (ran free .initAutoloader store).2
    let second := (ran refusing (.add source (some ["A"])) first).2
    let third := (ran free (.add source (some ["B"])) second).2
    let path := workspace.resolve shop autoload
    workspace.descriptor? shop store = some ⟨some autoload, none, []⟩ ∧
      stored? third path = some (.ok ⟨[⟨source, [⟨["B"], by decide, by decide⟩]⟩], by decide⟩) ∧
      Refines workspace shop path none
        [⟨parser, .initAutoloader, store, (ran free .initAutoloader store).1⟩,
          ⟨parser, .add source (some ["A"]), first,
            (ran refusing (.add source (some ["A"])) first).1⟩,
          ⟨parser, .add source (some ["B"]), second,
            (ran free (.add source (some ["B"])) second).1⟩]
        (stored? third path) := by
  intro workspace shop autoload source store parser free refusing ran first second third path
  have described : workspace.descriptor? shop store = some ⟨some autoload, none, []⟩ := by
    decide +kernel
  have separate : workspace.Separate shop ⟨some autoload, none, []⟩ :=
    ⟨by decide, by decide, by decide⟩
  have plain : (workspace.resolve shop autoload).extension? ≠ some "php" := by decide
  have missing : stored? store path = none := by decide
  have course : workspace.Course shop store _ third :=
    .step (MemoryStore.outcome_perform free _ store) <|
    .step (MemoryStore.outcome_perform refusing _ first) <|
    .step (MemoryStore.outcome_perform free _ second) .done
  have refines := course_refines described rfl separate plain course
  rw [missing] at refines
  exact ⟨described, by decide +kernel, refines⟩

end Autoloader

end PackageIndex
