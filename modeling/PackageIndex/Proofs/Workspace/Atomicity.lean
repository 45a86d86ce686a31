import PackageIndex.Proofs.Workspace.Routing
import PackageIndex.Workspace.Operation

/-!
# Operations are atomic

An operation that fails has changed no file, at whatever step and for whatever reason it failed: the
one request that changes a file comes last. An operation that succeeds has changed at most the file
that the descriptor names for it, and one that only looks leaves the store as it was.
-/
namespace PackageIndex.Operation

open MemoryStore (Outcome Parser Reads Writes perform)

variable {parser : Parser} {store after : MemoryStore} (workspace : Workspace)
  (package : PackageName)

/-- Where the file an operation is there to change is, by the descriptor in a store. -/
def targetIn? (store : MemoryStore) (operation : Operation) : Option Path :=
  (workspace.descriptor? package store).bind fun descriptor =>
    (operation.target? descriptor).map (workspace.resolve package)

theorem reads_work {operation : Operation} (reading : operation.isReading = true) :
    Reads parser store (operation.work workspace package) fun _ => True := by
  cases operation with
  | load => exact (Autoloader.reads_load workspace package).mono fun _ _ => trivial
  | lookup name => exact (Autoloader.reads_lookup? workspace package name).mono fun _ _ => trivial
  | contains name =>
    exact (Autoloader.reads_contains workspace package name).mono fun _ _ => trivial
  | checkController reference =>
    exact (Controllers.reads_isPresent workspace package reference).mono fun _ _ => trivial
  | listRoutes => exact (Routing.reads_list workspace package).mono fun _ _ => trivial
  | initAutoloader => cases reading
  | add file classes => cases reading
  | register file classes => cases reading
  | rebuild => cases reading
  | initRouting => cases reading
  | addRoute request => cases reading

/-- Whatever an operation puts, it puts at its target. -/
theorem writes_work {operation : Operation} (writing : operation.isReading = false) :
    Writes parser store (operation.work workspace package) fun _ path _ =>
      operation.targetIn? workspace package store = some path := by
  cases operation with
  | initAutoloader =>
    exact (Autoloader.writes_init workspace package).mono fun _ _ _ h => h.1
  | add file classes =>
    exact (Autoloader.writes_add workspace package file classes).mono fun _ _ _ h => h.2.named
  | register file classes =>
    exact (Autoloader.writes_register workspace package file classes).mono fun _ _ _ h => h.2.named
  | rebuild => exact (Autoloader.writes_rebuild workspace package).mono fun _ _ _ h => h.1
  | initRouting => exact (Routing.writes_init workspace package).mono fun _ _ _ h => h.1
  | addRoute request =>
    exact (Routing.writes_add workspace package request).mono fun _ _ _ h => h.1
  | load => cases writing
  | lookup name => cases writing
  | contains name => cases writing
  | checkController reference => cases writing
  | listRoutes => cases writing

section
variable {workspace package} {operation : Operation}

/-- A failed operation leaves the files as they are. -/
theorem files_of_error {failure : Failure}
    (failed : Outcome parser (operation.work workspace package).run store (.error failure) after) :
    after.files = store.files := by
  cases reading : operation.isReading with
  | true => rw [(operation.reads_work workspace package reading).kept failed]
  | false => exact (operation.writes_work workspace package reading).kept failed

/-- A file whose content an operation changes is the one it is there to change. -/
theorem components_of_changed {result : Except Failure operation.Result} {path : Path}
    (outcome : Outcome parser (operation.work workspace package).run store result after)
    (changed : after.file? path ≠ store.file? path) :
    ∃ target, operation.targetIn? workspace package store = some target ∧
      path.components = target.components := by
  cases reading : operation.isReading with
  | true =>
    rw [(operation.reads_work workspace package reading).kept outcome] at changed
    exact absurd rfl changed
  | false =>
    rw [MemoryStore.file?_eq, MemoryStore.file?_eq] at changed
    cases result with
    | error failure =>
      rw [files_of_error outcome] at changed
      exact absurd rfl changed
    | ok a =>
      obtain ⟨target, text, named, puts⟩ :=
        (operation.writes_work workspace package reading).puts outcome
      refine ⟨target, named, ?_⟩
      by_cases same : path.components = target.components
      · exact same
      · rw [puts, MemoryStore.content?_putFile_other same] at changed
        exact absurd rfl changed

end

/-- Whatever fails and however far an operation gets: a failure changes no file, a success at most
the file that the descriptor names, and an operation that only looks nothing. -/
theorem work_atomic {operation : Operation} {result : Except Failure operation.Result}
    (outcome : Outcome parser (operation.work workspace package).run store result after) :
    (∀ failure, result = .error failure → after.files = store.files) ∧
    (∀ path, after.file? path ≠ store.file? path →
      ∃ descriptor file, workspace.descriptor? package store = some descriptor ∧
        operation.target? descriptor = some file ∧
          path.components = (workspace.resolve package file).components) ∧
    (operation.isReading = true → after = store) := by
  refine ⟨fun failure failed => ?_, fun path changed => ?_, fun reading => ?_⟩
  · rw [failed] at outcome
    exact files_of_error outcome
  · obtain ⟨target, named, same⟩ := components_of_changed outcome changed
    obtain ⟨descriptor, described, named⟩ := Option.bind_eq_some_iff.mp named
    obtain ⟨file, targeted, rfl⟩ := Option.map_eq_some_iff.mp named
    exact ⟨descriptor, file, described, targeted, same⟩
  · exact (operation.reads_work workspace package reading).kept outcome

/-- Rebuilding fails at the second of two sources, which cannot be read. -/
theorem work_atomic_unreadable_source :
    let workspace : Workspace := ⟨⟨"p"⟩⟩
    let shop : PackageName := ⟨"shop", by decide⟩
    let store := ((MemoryStore.empty.withFile ⟨"p/shop/package.json"⟩
      "\x7b\"autoload\":\"a\"\x7d").withFile ⟨"p/shop/f.php"⟩ "<?php").withFile
        ⟨"p/shop/g.php"⟩ "<?php"
    let setting : MemoryStore.Setting :=
      ⟨fun _ path => path.text = "p/shop/g.php", fun _ => .ok []⟩
    let ran := perform setting (rebuild.work workspace shop) store
    ran.1.isOk = false ∧ ran.2.files = store.files := by
  intro workspace shop store setting ran
  have kept {ended : Except Failure Autoloader.Rebuilt} {after : MemoryStore}
      (outcome : Outcome setting.parse (rebuild.work workspace shop).run store ended after)
      (failed : ended.isOk = false) : after.files = store.files := by
    cases ended with
    | ok rebuilt => cases failed
    | error failure => exact (work_atomic workspace shop outcome).1 failure rfl
  have failed : ran.1.isOk = false := by decide +kernel
  exact ⟨failed, kept (MemoryStore.outcome_perform setting _ store) failed⟩

end PackageIndex.Operation
