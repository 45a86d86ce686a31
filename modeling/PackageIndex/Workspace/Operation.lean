import PackageIndex.Store.Outcome
import PackageIndex.Workspace.Routing

/-!
# Operations as data

Everything that can be asked of a package, with what each operation gives. Operations are carried
out one after the other on one store, and anything a store is asked for on the way may fail.
-/
namespace PackageIndex

inductive Operation where
  | initAutoloader
  | load
  | add (file : RelativePath) (classes : Option (List String))
  | register (file : RelativePath) (classes : List String)
  | lookup (name : QualifiedName)
  | contains (name : QualifiedName)
  | rebuild
  | checkController (reference : ControllerRef)
  | initRouting
  | listRoutes
  | addRoute (request : Routing.RouteRequest)
  deriving DecidableEq, Repr

namespace Operation

abbrev Result : Operation → Type
  | initAutoloader | initRouting => Path
  | load => Manifest
  | add _ _ | register _ _ => Autoloader.Addition
  | lookup _ => Option RelativePath
  | contains _ | checkController _ => Bool
  | rebuild => Autoloader.Rebuilt
  | listRoutes => RouteTable
  | addRoute _ => Route

def work (workspace : Workspace) (package : PackageName) :
    (operation : Operation) → Work operation.Result
  | initAutoloader => Autoloader.init workspace package
  | load => Autoloader.load workspace package
  | add file classes => Autoloader.add workspace package file classes
  | register file classes => Autoloader.register workspace package file classes
  | lookup name => Autoloader.lookup? workspace package name
  | contains name => Autoloader.contains workspace package name
  | rebuild => Autoloader.rebuild workspace package
  | checkController reference => Controllers.isPresent workspace package reference
  | initRouting => Routing.init workspace package
  | listRoutes => Routing.list workspace package
  | addRoute request => Routing.add workspace package request

/-- An operation that only looks at files. -/
def isReading : Operation → Bool
  | load | lookup _ | contains _ | checkController _ | listRoutes => true
  | initAutoloader | add _ _ | register _ _ | rebuild | initRouting | addRoute _ => false

/-- The file an operation is there to change, as the descriptor of the package has it. -/
def target? (descriptor : Descriptor) : Operation → Option RelativePath
  | initAutoloader | add _ _ | register _ _ | rebuild => descriptor.autoload
  | initRouting | addRoute _ => descriptor.routing
  | load | lookup _ | contains _ | checkController _ | listRoutes => none

end Operation

/-- An operation that has been carried out: the parser and the store it met, and what came of it. -/
structure Moment where
  parser : MemoryStore.Parser
  operation : Operation
  before : MemoryStore
  result : Except Failure operation.Result

/-- Operations on a package, carried out one after the other on one store, with the store after the
last. An operation that fails does not end the course. -/
inductive Workspace.Course (workspace : Workspace) (package : PackageName) :
    MemoryStore → List Moment → (last : MemoryStore) → Prop where
  | done {store : MemoryStore} : Course workspace package store [] store
  | step {parser : MemoryStore.Parser} {operation : Operation} {store next last : MemoryStore}
    {result : Except Failure operation.Result} {moments : List Moment} :
    MemoryStore.Outcome parser (operation.work workspace package).run store result next →
    Course workspace package next moments last →
      Course workspace package store (⟨parser, operation, store, result⟩ :: moments) last

end PackageIndex
