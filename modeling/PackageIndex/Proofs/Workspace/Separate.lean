import PackageIndex.Proofs.Workspace.Atomicity

/-!
# Packages whose files do not coincide

As long as the descriptor, the autoloader and the routing file of a package are three different
files, no operation changes what the descriptor says, and none that is there for one of the other
two changes the other.
-/
namespace PackageIndex

open MemoryStore (Outcome Parser)

/-- The descriptor of a package, its autoloader and its routing file are different files. -/
structure Workspace.Separate (workspace : Workspace) (package : PackageName)
    (descriptor : Descriptor) : Prop where
  autoload : ∀ file ∈ descriptor.autoload,
    (workspace.resolve package file).components ≠ (workspace.descriptorFile package).components
  routing : ∀ file ∈ descriptor.routing,
    (workspace.resolve package file).components ≠ (workspace.descriptorFile package).components
  apart : ∀ autoload ∈ descriptor.autoload, ∀ routing ∈ descriptor.routing,
    (workspace.resolve package autoload).components ≠ (workspace.resolve package routing).components

namespace Workspace

variable {workspace : Workspace} {package : PackageName} {store after : MemoryStore}
  {descriptor : Descriptor} (described : workspace.descriptor? package store = some descriptor)
  {parser : Parser} {operation : Operation} {result : Except Failure operation.Result}
  (outcome : Outcome parser (operation.work workspace package).run store result after)
include described outcome

/-- A file that is not the target of an operation is as it was. -/
theorem file?_after {path : Path}
    (other : ∀ file ∈ operation.target? descriptor,
      (workspace.resolve package file).components ≠ path.components) :
    after.file? path = store.file? path := by
  by_cases same : after.file? path = store.file? path
  · exact same
  · obtain ⟨target, named, at_target⟩ := Operation.components_of_changed outcome same
    rw [Operation.targetIn?, described, Option.bind_some] at named
    obtain ⟨file, targeted, rfl⟩ := Option.map_eq_some_iff.mp named
    exact absurd at_target.symm (other file targeted)

/-- No operation changes what the descriptor says. -/
theorem descriptor?_after (separate : workspace.Separate package descriptor) :
    workspace.descriptor? package after = some descriptor := by
  have kept : after.file? (workspace.descriptorFile package) =
      store.file? (workspace.descriptorFile package) := by
    refine file?_after described outcome fun file targeted => ?_
    cases operation with
    | initAutoloader | add | register | rebuild => exact separate.autoload file targeted
    | initRouting | addRoute => exact separate.routing file targeted
    | load | lookup | contains | checkController | listRoutes => cases targeted
  rw [descriptor?, kept, ← descriptor?, described]

end Workspace

end PackageIndex
