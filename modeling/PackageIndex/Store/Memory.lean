import PackageIndex.Script

/-!
# Files in memory

A store that holds its files as values. Paths are told apart by their components; a file keeps the
spelling of the path it was first added under, and the files stand in the order of their paths. A
file can be written only where its directory has been made.
-/
namespace PackageIndex

structure MemoryStore where
  files : List (Path × String)
  directories : List (List Component)
  deriving DecidableEq, Repr

namespace MemoryStore

def empty : MemoryStore := ⟨[], []⟩

def paths (store : MemoryStore) : List Path := store.files.map Prod.fst

/-- The content of the file at a path. -/
def file? (store : MemoryStore) (path : Path) : Option String :=
  (store.files.find? fun file => file.1.components = path.components).map Prod.snd

/-- Puts a file at its place; one that is there keeps its path. -/
def putFile (path : Path) (text : String) : List (Path × String) → List (Path × String)
  | [] => [(path, text)]
  | (other, old) :: rest =>
    if other.components = path.components then (other, text) :: rest
    else if precedes path.components other.components then (path, text) :: (other, old) :: rest
    else (other, old) :: putFile path text rest

/-- A component list with all that begin it, the empty one apart. -/
def ancestry : List Component → List (List Component)
  | [] => []
  | component :: rest => [component] :: (ancestry rest).map (component :: ·)

def addDirectories (store : MemoryStore) (path : Path) : MemoryStore :=
  { store with
    directories := (ancestry path.components).foldl
      (fun done directory => if directory ∈ done then done else done ++ [directory])
      store.directories }

/-- Adds a file and the directories above it. -/
def withFile (store : MemoryStore) (path : Path) (text : String) : MemoryStore :=
  let store := match path.parent? with
    | some directory => store.addDirectories directory
    | none => store
  { store with files := putFile path text store.files }

def hasDirectory (store : MemoryStore) (path : Path) : Bool :=
  path.components ∈ store.directories

def isPresent (store : MemoryStore) (path : Path) : Bool :=
  (store.file? path).isSome || store.hasDirectory path

/-- Whether the directory that a path is in has not been made. -/
def isHomeless (store : MemoryStore) (path : Path) : Bool :=
  match path.parent? with
  | some directory => directory.text ≠ "" && !store.hasDirectory directory
  | none => false

def write (store : MemoryStore) (path : Path) (text : String) : Except Failure MemoryStore :=
  if store.isHomeless path then .error (.storage path "Parent directory does not exist")
  else .ok { store with files := putFile path text store.files }

def list (store : MemoryStore) (directory : Path) (extension : String) : List Path :=
  store.paths.filter fun path => path.isWithin directory && path.extension? = some extension

/-! ## Answering requests -/

/-- The kinds of access that can be refused. -/
inductive Access where
  | read
  | write
  | mkdir
  | list
  deriving DecidableEq, Repr

def Access.text : Access → String
  | read => "read"
  | write => "write"
  | mkdir => "mkdir"
  | list => "list"

/-- What a store runs with: which accesses are refused, and how sources are parsed. -/
structure Setting where
  refuses : Access → Path → Bool
  parse : String → Except ParseFault (List SourceNode)

/-- Carries out an access unless it is refused. A failure changes nothing. -/
def access {α : Type} (setting : Setting) (access : Access) (path : Path)
    (act : MemoryStore → Except Failure (α × MemoryStore)) :
    StateM MemoryStore (Except Failure α) := fun store =>
  if setting.refuses access path then
    (.error (.storage path ("denied " ++ access.text)), store)
  else match act store with
    | .ok (result, store) => (.ok result, store)
    | .error failure => (.error failure, store)

def answer (setting : Setting) : (request : Request) → StateM MemoryStore request.Answer
  | .read path => access setting .read path fun store =>
    match store.file? path with
    | some text => .ok (text, store)
    | none => .error (.notFound path)
  | .write path text => access setting .write path fun store =>
    (store.write path text).map fun store => ((), store)
  | .isPresent path => fun store => (store.isPresent path, store)
  | .makeDirectories path => access setting .mkdir path fun store =>
    .ok ((), store.addDirectories path)
  | .list directory extension => access setting .list directory fun store =>
    .ok (store.list directory extension, store)
  | .parse source => fun store => (setting.parse source, store)

/-- Events are not kept. -/
def handler (setting : Setting) : Script.Handler (StateM MemoryStore) :=
  ⟨answer setting, fun _ => pure ()⟩

/-- Runs a script on a store. -/
def perform {α : Type} (setting : Setting) (work : Work α) (store : MemoryStore) :
    Except Failure α × MemoryStore :=
  (Script.run (handler setting) work.run).run store

end MemoryStore

end PackageIndex
