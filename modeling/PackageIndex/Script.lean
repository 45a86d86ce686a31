import PackageIndex.Event
import PackageIndex.Failure
import PackageIndex.Source

/-!
# Scripts

An operation on packages is a script: it asks a store about files, one request after the other, and
decides by the answers how to go on. A script does not know what store answers; running it against
a handler is the only way to get at its result. So a statement about a script holds for every store.

Along the way a script may note events, which do not change its course.
-/
namespace PackageIndex

inductive Request where
  | read (path : Path)
  | write (path : Path) (text : String)
  | isPresent (path : Path)
  /-- The directory and all directories above it. -/
  | makeDirectories (path : Path)
  /-- The files of that extension below a directory, in the order of their paths. -/
  | list (directory : Path) (extension : String)
  | parse (source : String)
  deriving DecidableEq, Repr

abbrev Request.Answer : Request → Type
  | read _ => Except Failure String
  | write _ _ => Except Failure Unit
  | isPresent _ => Bool
  | makeDirectories _ => Except Failure Unit
  | list _ _ => Except Failure (List Path)
  | parse _ => Except ParseFault (List SourceNode)

inductive Script (α : Type) where
  | done (result : α)
  | ask (request : Request) (next : request.Answer → Script α)
  | note (event : Event) (next : Script α)

namespace Script

variable {α β γ : Type}

def bind : Script α → (α → Script β) → Script β
  | done result, next => next result
  | ask request rest, next => ask request fun answer => (rest answer).bind next
  | note event rest, next => note event (rest.bind next)

instance : Monad Script where
  pure := done
  bind := bind

@[simp] theorem pure_eq (a : α) : (pure a : Script α) = done a := rfl
@[simp] theorem bind_eq (s : Script α) (f : α → Script β) : s >>= f = s.bind f := rfl
@[simp] theorem bind_done_left (a : α) (f : α → Script β) : (done a).bind f = f a := rfl
@[simp] theorem bind_ask (r : Request) (g : r.Answer → Script α) (f : α → Script β) :
    (ask r g).bind f = ask r fun answer => (g answer).bind f := rfl
@[simp] theorem bind_note (e : Event) (s : Script α) (f : α → Script β) :
    (note e s).bind f = note e (s.bind f) := rfl

@[simp] theorem bind_done (s : Script α) : s.bind done = s := by
  induction s with
  | done => rfl
  | ask r g ih => simp [ih]
  | note e s ih => simp [ih]

/-- How a store answers and where events go. -/
structure Handler (m : Type → Type) where
  answer : (request : Request) → m request.Answer
  note : Event → m Unit

def run {m : Type → Type} [Monad m] (handler : Handler m) : Script α → m α
  | done result => pure result
  | ask request next => do run handler (next (← handler.answer request))
  | note event next => do
    handler.note event
    run handler next

/-- One script after the other is run one after the other. -/
theorem run_bind {m : Type → Type} [Monad m] [LawfulMonad m] (handler : Handler m) (s : Script α)
    (f : α → Script β) : run handler (s.bind f) = run handler s >>= fun a => run handler (f a) := by
  induction s with
  | done => simp [run]
  | ask r g ih => simp [run, ih]
  | note e s ih => simp [run, ih]

end Script

/-- A script that may fail. -/
abbrev Work := ExceptT Failure Script

namespace Work

def lift {α : Type} (result : Except Fault α) : Work α :=
  ExceptT.mk (.done (result.mapError .input))

def ask (request : Request) : Script request.Answer := .ask request .done

def note (event : Event) : Work Unit := ExceptT.mk (.note event (.done (.ok ())))

def fail {α : Type} (failure : Failure) : Work α := ExceptT.mk (.done (.error failure))

def read (path : Path) : Work String := ExceptT.mk (ask (.read path))

def isPresent (path : Path) : Work Bool := ExceptT.lift (ask (.isPresent path))

/-- Names the part of the program that looks after stored files. -/
def storeTarget : String := "rigger_adapters::filesystem::local"

def write (path : Path) (text : String) : Work Unit := do
  ExceptT.mk (ask (.write path text))
  note ⟨.debug, storeTarget, "File replaced",
    [("path", .string path.text), ("bytes", .number (.integer text.utf8ByteSize))]⟩

def makeDirectories (path : Path) : Work Unit := ExceptT.mk (ask (.makeDirectories path))

def list (directory : Path) (extension : String) : Work (List Path) := do
  let files ← ExceptT.mk (ask (.list directory extension))
  note ⟨.debug, storeTarget, "Listed source files",
    [("dir", .string directory.text), ("count", .number (.integer files.length))]⟩
  pure files

/-- Writes a document, and makes its directory first. -/
def store (path : Path) (document : String) : Work Unit := do
  if let some directory := path.parent? then makeDirectories directory
  write path document

end Work

end PackageIndex
