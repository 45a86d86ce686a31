import PackageIndex.Host
import PackageIndex.Php.Outline
import PackageIndex.Script

/-!
# Files of a host

Answers the requests of scripts from the files of a host, and parses PHP.
-/
namespace PackageIndex.LocalStore

/-- What is missing is told apart from what failed for any other reason. -/
def failure (path : Path) (action : String) (fault : OsFault) : Failure :=
  if fault.isMissing then .notFound path
  else .storage path s!"Failed to {action}: {fault.text}"

def walkFailure (place : Path) (fault : OsFault) : Failure :=
  .storage place
    s!"Failed to walk directory: IO error for operation on {place.text}: {fault.text}"

/-- Puts a path before the first one that does not precede it. -/
def insertPath (path : Path) : List Path → List Path
  | [] => [path]
  | other :: rest =>
    if precedes other.components path.components then other :: insertPath path rest
    else path :: other :: rest

/-- The paths with that extension, in order. -/
def select (extension : String) (files : List Path) : List Path :=
  (files.filter fun file => file.extension? = some extension).foldr insertPath []

variable {m : Type → Type} [Monad m]

def answer (host : Host m) : (request : Request) → m request.Answer
  | .read path => do
    pure ((← host.read path).mapError (failure path "read file"))
  | .write path text => do
    pure ((← host.replace path text).mapError fun (step, fault) => failure path step.text fault)
  | .isPresent path => host.isPresent path
  | .makeDirectories path => do
    pure ((← host.makeDirectories path).mapError (failure path "create directory"))
  | .list directory extension => do
    match ← host.walk directory with
    | .ok files => pure (.ok (select extension files))
    | .error (place, fault) => pure (.error (walkFailure place fault))
  | .parse source => pure (Php.parse source)

def handler (host : Host m) (note : Event → m Unit) : Script.Handler m := ⟨answer host, note⟩

end PackageIndex.LocalStore
