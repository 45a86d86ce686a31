import PackageIndex.Proofs.Attempts
import PackageIndex.Proofs.Manifest.Ownership
import PackageIndex.Proofs.Workspace.Refinement

/-!
# Registering classes

A registration asks for the owner of each of its classes before it inserts any. So from an empty
autoloader on, as long as classes are only registered, each class stands under one file; and the
file it was registered for is found for it ever after, whatever else is registered or fails.
-/
namespace PackageIndex

open MemoryStore (Outcome Parser perform)

def Operation.isRegistering : Operation → Bool
  | register _ _ | load | lookup _ | contains _ => true
  | initAutoloader | add _ _ | rebuild | checkController _ | initRouting | listRoutes
  | addRoute _ => false

def Moment.Registers (moment : Moment) (name : QualifiedName) (file : RelativePath) : Prop :=
  ∃ parser given before addition,
    moment = ⟨parser, .register file given, before, .ok addition⟩ ∧
      ∃ text ∈ given, QualifiedName.parse (Name.normalize text) = .ok name

/-- A course up to one of its moments, the operation carried out then, and the course after it. -/
theorem Workspace.Course.at {workspace : Workspace} {package : PackageName}
    {store last : MemoryStore} {first more : List Moment} {moment : Moment}
    (course : workspace.Course package store (first ++ moment :: more) last) :
    workspace.Course package store first moment.before ∧
      ∃ next, Outcome moment.parser (moment.operation.work workspace package).run moment.before
          moment.result next ∧ workspace.Course package next more last := by
  induction first generalizing store with
  | nil =>
    cases course with
    | step outcome rest => exact ⟨.done, _, outcome, rest⟩
  | cons earlier first ih =>
    cases course with
    | step outcome rest =>
      obtain ⟨before, here⟩ := ih rest
      exact ⟨.step outcome before, here⟩

/-! ## What the descriptor says -/

open Json in
/-- The document of a manifest can be read as a descriptor, but it names nothing. -/
theorem Manifest.descriptor_toJson (manifest : Manifest) :
    ∃ extra, Descriptor.ofJson manifest.toJson = .ok ⟨none, none, extra⟩ := by
  let files : Value := .array (manifest.entries.map ManifestEntry.encode)
  have taken : Descriptor.Fields.take ⟨none, none, []⟩ "files" (Draft.ofValue files) =
      .ok ⟨none, none, [("files", files.sorted)]⟩ := by
    have shallow : files.depth ≤ mostLevels - 1 :=
      Nat.le_trans (depth_encodeEntries_le manifest.entries) (by decide)
    rw [Descriptor.Fields.take, value_ofValue files shallow]
    · rfl
    · decide
    · decide
  have decoded : ∃ extra, Descriptor.decode (Draft.ofValue manifest.encode) =
      .ok ⟨none, none, extra⟩ := by
    rw [encode, Draft.ofValue, Descriptor.decode, fold_ofValues_cons taken]
    exact ⟨_, rfl⟩
  obtain ⟨extra, decoded⟩ := decoded
  refine ⟨extra, ?_⟩
  rw [Descriptor.ofJson, toJson, decodeText_document (by simp [numbers_encode]) decoded]
  rfl

namespace Workspace

variable {workspace : Workspace} {package : PackageName} {store after : MemoryStore} {path : Path}
  {manifest : Manifest}

/-- A manifest in place of the descriptor names no autoloader. -/
theorem autoloaderIn?_over_descriptor
    (atop : path.components = (workspace.descriptorFile package).components)
    (puts : after.files = MemoryStore.putFile path manifest.toJson store.files) :
    workspace.autoloaderIn? package after = none := by
  have found : after.file? (workspace.descriptorFile package) = some manifest.toJson := by
    rw [← MemoryStore.file?_of_components_eq atop, MemoryStore.file?_eq, puts,
      MemoryStore.content?_putFile_self]
  obtain ⟨extra, read⟩ := manifest.descriptor_toJson
  rw [autoloaderIn?, descriptor?, found, Option.bind_some, read]
  rfl

end Workspace

namespace Autoloader

variable {workspace : Workspace} {package : PackageName} {store after : MemoryStore} {path : Path}
  {manifest : Manifest} {file : RelativePath} {name : QualifiedName} {parser : Parser}

/-- No class is owned by another file. -/
theorem owned?_eq_none {names : List QualifiedName} :
    owned? manifest file names = none ↔
      ∀ name ∈ names, ∀ owner, manifest.lookup? name = some owner → owner = file := by
  induction names with
  | nil => simp [owned?]
  | cons first names ih =>
    unfold owned?
    cases found : manifest.lookup? first with
    | none => simp [ih, found]
    | some owner =>
      by_cases same : owner = file
      · simp [ih, found, same]
      · simp [found, same]

/-- Each class that is asked for by name is among those that the names are read as. -/
theorem mem_of_asked? {given : List String} {classes : List QualifiedName}
    (asked : asked? workspace package parser store file (some given) = some classes)
    {text : String} (mem : text ∈ given)
    (reads : QualifiedName.parse (Name.normalize text) = .ok name) : name ∈ classes := by
  obtain ⟨found, among, same⟩ :=
    exists_mem_right (mapM_eq_ok_iff.mp (toOption_eq_some.mp asked)) mem
  rw [reads] at same
  cases same
  exact among

/-! ## One registration -/

/-- While classes are registered, the file at the path lists each class once; and if the descriptor
still names an autoloader, it is that file, which is not the descriptor itself. -/
structure Holds (workspace : Workspace) (package : PackageName) (path : Path)
    (store : MemoryStore) (manifest : Manifest) : Prop where
  stored : stored? store path = some (.ok manifest)
  exclusive : manifest.Exclusive
  named : ∀ other, workspace.autoloaderIn? package store = some other →
    other = path ∧ path.components ≠ (workspace.descriptorFile package).components

/-- What holds of a store holds of another later on: nothing that was listed is lost. -/
structure Follows (workspace : Workspace) (package : PackageName) (path : Path)
    (store : MemoryStore) (manifest : Manifest) (after : MemoryStore) (next : Manifest) :
    Prop where
  holds : Holds workspace package path after next
  named : workspace.autoloaderIn? package after = workspace.autoloaderIn? package store
  lists : ∀ name file, manifest.Lists file name → next.Lists file name

/-- What follows from one store to the next follows over both. -/
theorem Follows.trans {middle : MemoryStore} {next last : Manifest}
    (first : Follows workspace package path store manifest middle next)
    (then_ : Follows workspace package path middle next after last) :
    Follows workspace package path store manifest after last :=
  ⟨then_.holds, then_.named.trans first.named,
    fun name file listed => then_.lists name file (first.lists name file listed)⟩

namespace Holds

/-- Where no file changes, the store still holds the same manifest. -/
theorem kept (holds : Holds workspace package path store manifest)
    (kept : after.files = store.files) :
    Follows workspace package path store manifest after manifest := by
  have same : workspace.autoloaderIn? package after = workspace.autoloaderIn? package store :=
    Workspace.autoloaderIn?_congr kept
  refine ⟨⟨?_, holds.exclusive, fun other names => ?_⟩, same, fun _ _ listed => listed⟩
  · rw [stored?_congr kept, holds.stored]
  · exact holds.named other (same ▸ names)

/-- The file that has just been initialised lists nothing; where it has replaced the descriptor,
nothing names it any more. -/
theorem of_init
    (outcome : Outcome parser (init workspace package).run store (.ok path) after) :
    Holds workspace package path after .empty := by
  obtain ⟨other, text, ⟨named, rfl, rfl⟩, puts⟩ := (writes_init workspace package).puts outcome
  refine ⟨stored?_putFile puts, Manifest.exclusive_empty, fun other names => ?_⟩
  by_cases atop : path.components = (workspace.descriptorFile package).components
  · rw [Workspace.autoloaderIn?_over_descriptor atop puts] at names
    cases names
  · rw [Workspace.autoloaderIn?_putFile atop puts, named] at names
    cases names
    exact ⟨rfl, atop⟩

/-- A registration that succeeds lists its classes under its file. -/
theorem register {given : List String} {addition : Addition}
    (holds : Holds workspace package path store manifest)
    (outcome : Outcome parser (register workspace package file given).run store (.ok addition)
      after) :
    workspace.autoloaderIn? package store = some path ∧
      ∃ next, Follows workspace package path store manifest after next ∧
        ∀ text ∈ given, ∀ name, QualifiedName.parse (Name.normalize text) = .ok name →
          next.Lists file name := by
  obtain ⟨other, text, ⟨asked, named, -, -, merged⟩, puts⟩ :=
    (writes_register workspace package file given).puts outcome
  obtain ⟨rfl, beside⟩ := holds.named other named
  obtain ⟨read, found, free, -, rfl⟩ := merged
  rw [holds.stored] at found
  cases found
  have free : ∀ name ∈ addition.classes, ∀ owner, manifest.Lists owner name → owner = file :=
    fun name mem owner listed => owned?_eq_none.mp (free rfl) name mem owner
      (holds.exclusive.lookup?_eq_some.mpr listed)
  have same : workspace.autoloaderIn? package after = workspace.autoloaderIn? package store :=
    Workspace.autoloaderIn?_putFile beside puts
  refine ⟨named, (manifest.insert file addition.classes).1, ⟨⟨?_, ?_, fun other names => ?_⟩, same,
    fun name owner listed => ?_⟩, fun text mem name reads => ?_⟩
  · exact stored?_putFile puts
  · exact holds.exclusive.insert free
  · exact holds.named other (same ▸ names)
  · exact Manifest.lists_insert.mpr (.inl listed)
  · exact Manifest.lists_insert.mpr (.inr ⟨rfl, mem_of_asked? asked mem reads⟩)

/-- After a registering operation the store holds a manifest that lists no less. -/
theorem operation {operation : Operation} {result : Except Failure operation.Result}
    (holds : Holds workspace package path store manifest)
    (registering : operation.isRegistering = true)
    (outcome : Outcome parser (operation.work workspace package).run store result after) :
    ∃ next, Follows workspace package path store manifest after next := by
  cases result with
  | error failure => exact ⟨manifest, holds.kept (Operation.files_of_error outcome)⟩
  | ok answer =>
    cases operation with
    | register file given =>
      obtain ⟨-, next, follows, -⟩ := holds.register outcome
      exact ⟨next, follows⟩
    | load | lookup | contains =>
      rw [Operation.reads_work workspace package rfl |>.kept outcome]
      exact ⟨manifest, holds.kept rfl⟩
    | initAutoloader | add | rebuild | checkController | initRouting | listRoutes | addRoute =>
      cases registering

/-! ## Courses of registrations -/

/-- After a course of such operations it does as well. -/
theorem course {moments : List Moment} (holds : Holds workspace package path store manifest)
    (course : workspace.Course package store moments after)
    (registering : ∀ moment ∈ moments, moment.operation.isRegistering = true) :
    ∃ next, Follows workspace package path store manifest after next := by
  induction course generalizing manifest with
  | done => exact ⟨manifest, holds.kept rfl⟩
  | step outcome course ih =>
    obtain ⟨next, follows⟩ := holds.operation (registering _ (List.mem_cons_self ..)) outcome
    obtain ⟨last, more⟩ := ih follows.holds fun moment mem =>
      registering moment (List.mem_cons_of_mem _ mem)
    exact ⟨last, follows.trans more⟩

end Holds

/-- A class that is listed is found, whenever a look-up for it is answered; and where nothing is
refused, it is answered. -/
theorem Holds.found (parser : Parser) (holds : Holds workspace package path store manifest)
    (named : workspace.autoloaderIn? package store = some path)
    (listed : manifest.Lists file name) :
    (∀ {owner after}, Outcome parser (lookup? workspace package name).run store (.ok owner) after →
      owner = some file) ∧
    perform (.granting parser) (lookup? workspace package name) store =
      (.ok (some file), store) := by
  have owned : manifest.lookup? name = some file := holds.exclusive.lookup?_eq_some.mpr listed
  constructor
  · intro owner after looked
    obtain ⟨other, read, names, stored, rfl⟩ :=
      (reads_lookup? workspace package name).gives looked
    rw [named] at names
    cases names
    rw [holds.stored] at stored
    cases stored
    exact owned
  · rw [← owned]
    exact grants_lookup? name named holds.stored

/-- Whatever of it fails: in a course that initialises the autoloader and then only registers and
looks, each class stands under one file at every moment. And once a class has been registered for a
file, every later look-up that is answered gives that file, and each of them is answered where
nothing is refused. -/
theorem course_registers {initially : Parser} {moments : List Moment} {last : MemoryStore}
    (course : workspace.Course package store
      (⟨initially, .initAutoloader, store, .ok path⟩ :: moments) last)
    (registering : ∀ moment ∈ moments, moment.operation.isRegistering = true) :
    (∀ state ∈ moments.map Moment.before ++ [last],
      ∃ manifest, stored? state path = some (.ok manifest) ∧ manifest.Exclusive) ∧
    ∀ before registration between parser state rest name file
      (found : Except Failure (Option RelativePath)),
      moments = before ++ registration ::
        (between ++ ⟨parser, .lookup name, state, found⟩ :: rest) →
      registration.Registers name file →
        (∀ owner, found = .ok owner → owner = some file) ∧
        perform (.granting parser) (lookup? workspace package name) state =
          (.ok (some file), state) := by
  cases course with
  | step outcome course =>
    have holds := Holds.of_init outcome
    constructor
    · intro state mem
      rcases List.mem_append.mp mem with passed | ended
      · obtain ⟨moment, among, rfl⟩ := List.mem_map.mp passed
        obtain ⟨before, rest, rfl⟩ := List.append_of_mem among
        obtain ⟨next, follows⟩ := holds.course course.at.1 fun earlier within =>
          registering earlier (List.mem_append_left _ within)
        exact ⟨next, follows.holds.stored, follows.holds.exclusive⟩
      · rw [List.mem_singleton.mp ended]
        obtain ⟨next, follows⟩ := holds.course course registering
        exact ⟨next, follows.holds.stored, follows.holds.exclusive⟩
    · rintro before _ between parser state rest name file found rfl
        ⟨registrar, given, earlier, addition, rfl, text, mem, reads⟩
      obtain ⟨until_, middle, registered, course⟩ := course.at
      obtain ⟨since, after, looked, -⟩ := course.at
      obtain ⟨manifest, follows⟩ := holds.course until_ fun moment among =>
        registering moment (List.mem_append_left _ among)
      obtain ⟨named, next, follows, lists⟩ := follows.holds.register registered
      obtain ⟨now, more⟩ := follows.holds.course since fun moment among =>
        registering moment (by simp [among])
      have still : workspace.autoloaderIn? package state = some path := by
        rw [more.named, follows.named, named]
      have listed : now.Lists file name := more.lists name file (lists text mem name reads)
      have found := more.holds.found parser still listed
      refine ⟨?_, found.2⟩
      rintro owner rfl
      exact found.1 looked

/-- Another file asks for a new class and for one that is taken; it gets neither, and the class that
was taken is still found where it was. -/
theorem course_registers_taken_class :
    let workspace : Workspace := ⟨⟨"p"⟩⟩
    let shop : PackageName := ⟨"shop", by decide⟩
    let f : RelativePath := ⟨"f", by decide, by decide, by decide, by decide⟩
    let g : RelativePath := ⟨"g", by decide, by decide, by decide, by decide⟩
    let a : QualifiedName := ⟨["A"], by decide, by decide⟩
    let path : Path := ⟨"p/shop/a"⟩
    let store := MemoryStore.empty.withFile ⟨"p/shop/package.json"⟩
      "\x7b\"autoload\":\"a\"\x7d"
    let parser : Parser := fun _ => .ok []
    let first := (perform (.granting parser) (init workspace shop) store).2
    let second := (perform (.granting parser) (register workspace shop f ["A"]) first).2
    let third := (perform (.granting parser) (register workspace shop g ["B", "A"]) second).2
    (perform (.granting parser) (init workspace shop) store).1 = .ok path ∧
      (perform (.granting parser) (register workspace shop f ["A"]) first).1 =
        .ok ⟨path, f, [a], 1⟩ ∧
      (perform (.granting parser) (register workspace shop g ["B", "A"]) second).1 =
        .error (.alreadyRegistered "A" "f") ∧
      (∃ manifest, stored? third path = some (.ok manifest) ∧ manifest.Exclusive) ∧
      perform (.granting parser) (lookup? workspace shop a) third = (.ok (some f), third) := by
  intro workspace shop f g a path store parser first second third
  have begun : (perform (.granting parser) (init workspace shop) store).1 = .ok path := by
    decide +kernel
  have taken : (perform (.granting parser) (register workspace shop f ["A"]) first).1 =
      .ok ⟨path, f, [a], 1⟩ := by decide +kernel
  have refused : (perform (.granting parser) (register workspace shop g ["B", "A"]) second).1 =
      .error (.alreadyRegistered "A" "f") := by decide +kernel
  have looked := MemoryStore.outcome_perform (.granting parser) (lookup? workspace shop a) third
  have course : workspace.Course shop store
      (⟨parser, .initAutoloader, store, .ok path⟩ ::
        [⟨parser, .register f ["A"], first, .ok ⟨path, f, [a], 1⟩⟩,
          ⟨parser, .register g ["B", "A"], second, .error (.alreadyRegistered "A" "f")⟩,
          ⟨parser, .lookup a, third, _⟩]) _ :=
    .step (begun ▸ MemoryStore.outcome_perform (.granting parser) _ store) <|
    .step (taken ▸ MemoryStore.outcome_perform (.granting parser) _ first) <|
    .step (refused ▸ MemoryStore.outcome_perform (.granting parser) _ second) <|
    .step looked .done
  obtain ⟨exclusive, found⟩ := course_registers course (by simp [Operation.isRegistering])
  refine ⟨begun, taken, refused, exclusive third (by simp), ?_⟩
  exact (found [] _ [_] _ third [] a f _ rfl
    ⟨_, _, _, _, rfl, "A", List.mem_singleton_self _, by decide +kernel⟩).2

end Autoloader

end PackageIndex
