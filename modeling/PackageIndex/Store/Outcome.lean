import PackageIndex.Store.Memory

/-!
# What can come of a script

A store may fail to do what it is asked: to read, to write, to make directories or to list, at any
request and for any reason, whatever it has granted before. So a script can end in many ways on one
store, and what holds of all of them holds whenever something fails.
-/
namespace PackageIndex.MemoryStore

abbrev Parser := String → Except ParseFault (List SourceNode)

/-- A store that grants whatever it can. -/
def Setting.granting (parser : Parser) : Setting := ⟨fun _ _ => false, parser⟩

@[simp] theorem Setting.refuses_granting (parser : Parser) (access : Access) (path : Path) :
    (granting parser).refuses access path = false := rfl

/-- How a request can be answered, and the store after it. A failure changes nothing. -/
inductive Answers (parser : Parser) (store : MemoryStore) :
    (request : Request) → request.Answer → MemoryStore → Prop where
  | granted (request : Request) :
    Answers parser store request ((answer (.granting parser) request).run store).1
      ((answer (.granting parser) request).run store).2
  | unread (path : Path) (failure : Failure) :
    Answers parser store (.read path) (.error failure) store
  | unwritten (path : Path) (text : String) (failure : Failure) :
    Answers parser store (.write path text) (.error failure) store
  | unmade (path : Path) (failure : Failure) :
    Answers parser store (.makeDirectories path) (.error failure) store
  | unlisted (directory : Path) (extension : String) (failure : Failure) :
    Answers parser store (.list directory extension) (.error failure) store

/-- How a script can end: its result, and the store after its last request. -/
inductive Outcome (parser : Parser) {α : Type} :
    Script α → MemoryStore → α → MemoryStore → Prop where
  | done (result : α) (store : MemoryStore) : Outcome parser (.done result) store result store
  | ask {request : Request} {next : request.Answer → Script α} {store middle after : MemoryStore}
    {answer : request.Answer} {result : α} :
    Answers parser store request answer middle → Outcome parser (next answer) middle result after →
      Outcome parser (.ask request next) store result after
  | note {event : Event} {next : Script α} {store after : MemoryStore} {result : α} :
    Outcome parser next store result after → Outcome parser (.note event next) store result after

end PackageIndex.MemoryStore
