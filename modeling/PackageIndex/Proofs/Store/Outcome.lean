import PackageIndex.Proofs.Store.Files
import PackageIndex.Store.Outcome

/-!
# What work does to a store, whatever fails

Two judgements tell it, and both hold of every outcome. Work that `Reads` leaves the store as it
was. Work that `Writes` leaves the files as they were when it fails, and has put one file when it
succeeds. Work that reads may come before either, so each operation gets its judgement from those
of its steps.
-/
namespace PackageIndex.MemoryStore

variable {α β : Type} {parser : Parser} {store after : MemoryStore}

/-! ## Outcomes in a setting -/

/-- What a store does in a setting is one way to answer. -/
theorem answers_answer (setting : Setting) (store : MemoryStore) (request : Request) :
    Answers setting.parse store request ((answer setting request).run store).1
      ((answer setting request).run store).2 := by
  have granted : Answers setting.parse store request _ _ := .granted request
  cases request with
  | isPresent path => exact granted
  | parse source => exact granted
  | read path =>
    rw [answer_read] at granted ⊢
    by_cases refused : setting.refuses .read path = true
    · rw [if_pos refused]
      exact .unread path _
    · rw [if_neg refused]
      exact granted
  | list directory extension =>
    rw [answer_list] at granted ⊢
    by_cases refused : setting.refuses .list directory = true
    · rw [if_pos refused]
      exact .unlisted directory extension _
    · rw [if_neg refused]
      exact granted
  | makeDirectories path =>
    rw [answer_makeDirectories] at granted ⊢
    by_cases refused : setting.refuses .mkdir path = true
    · rw [if_pos refused]
      exact .unmade path _
    · rw [if_neg refused]
      exact granted
  | write path text =>
    rw [answer_write] at granted ⊢
    by_cases refused : setting.refuses .write path = true
    · rw [if_pos refused]
      exact .unwritten path text _
    · rw [if_neg refused]
      exact granted

/-- What a script does in a setting is one of its outcomes. -/
theorem outcome_run (setting : Setting) (script : Script α) (store : MemoryStore) :
    Outcome setting.parse script store ((Script.run (handler setting) script).run store).1
      ((Script.run (handler setting) script).run store).2 := by
  induction script generalizing store with
  | done result => exact .done result store
  | ask request next ih => exact .ask (answers_answer setting store request) (ih _ _)
  | note event next ih => exact .note (ih store)

/-- What work does in a setting is one of its outcomes. -/
theorem outcome_perform (setting : Setting) (work : Work α) (store : MemoryStore) :
    Outcome setting.parse work.run store (perform setting work store).1
      (perform setting work store).2 :=
  outcome_run setting work.run store

/-! ## Outcomes of work that goes on -/

namespace Outcome

/-- An outcome of two parts goes through an outcome of the first. -/
theorem of_bind (script : Script α) {next : α → Script β} {result : β}
    (h : Outcome parser (script.bind next) store result after) :
    ∃ a middle, Outcome parser script store a middle ∧
      Outcome parser (next a) middle result after := by
  induction script generalizing store with
  | done a => exact ⟨a, store, .done a store, h⟩
  | ask request rest ih =>
    cases h with
    | ask answers h =>
      obtain ⟨a, middle, first, second⟩ := ih _ h
      exact ⟨a, middle, .ask answers first, second⟩
  | note event rest ih =>
    cases h with
    | note h =>
      obtain ⟨a, middle, first, second⟩ := ih h
      exact ⟨a, middle, .note first, second⟩

theorem of_done {a result : α} (h : Outcome parser (.done a) store result after) :
    result = a ∧ after = store := by
  cases h
  exact ⟨rfl, rfl⟩

/-- Work that goes on has failed before it could, or goes on from what it has left. -/
theorem of_work_bind {work : Work α} {next : α → Work β} {result : Except Failure β}
    (h : Outcome parser (work >>= next).run store result after) :
    (∃ failure, result = .error failure ∧ Outcome parser work.run store (.error failure) after) ∨
      ∃ a middle, Outcome parser work.run store (.ok a) middle ∧
        Outcome parser (next a).run middle result after := by
  obtain ⟨first, middle, before, rest⟩ := of_bind work.run h
  cases first with
  | ok a => exact .inr ⟨a, middle, before, rest⟩
  | error failure =>
    obtain ⟨rfl, rfl⟩ := of_done rest
    exact .inl ⟨failure, rfl, before⟩

/-- Work that is rescued ends well by itself or as its rescue does. -/
theorem of_tryCatch {work : Work α} {rescue : Failure → Work α} {result : Except Failure α}
    (h : Outcome parser (tryCatch work rescue).run store result after) :
    (∃ a, result = .ok a ∧ Outcome parser work.run store (.ok a) after) ∨
      ∃ failure middle, Outcome parser work.run store (.error failure) middle ∧
        Outcome parser (rescue failure).run middle result after := by
  obtain ⟨first, middle, before, rest⟩ := of_bind work.run h
  cases first with
  | error failure => exact .inr ⟨failure, middle, before, rest⟩
  | ok a =>
    obtain ⟨rfl, rfl⟩ := of_done rest
    exact .inl ⟨a, rfl, before⟩

end Outcome

/-! ## Work that reads -/

/-- The work leaves the store as it is, and what it gives is as told. -/
structure Reads (parser : Parser) (store : MemoryStore) (work : Work α) (result : α → Prop) :
    Prop where
  kept : ∀ {ended after}, Outcome parser work.run store ended after → after = store
  gives : ∀ {a after}, Outcome parser work.run store (.ok a) after → result a

namespace Reads

variable {work : Work α} {next : α → Work β} {P P' : α → Prop} {Q : β → Prop}

theorem mono (h : Reads parser store work P) (weaker : ∀ a, P a → P' a) :
    Reads parser store work P' :=
  ⟨h.kept, fun outcome => weaker _ (h.gives outcome)⟩

/-- Work that reads goes on as work that reads, knowing what was read. -/
theorem bind (h : Reads parser store work P)
    (then_ : ∀ a, P a → Reads parser store (next a) Q) :
    Reads parser store (work >>= next) Q := by
  constructor
  · intro ended after outcome
    rcases outcome.of_work_bind with ⟨failure, -, first⟩ | ⟨a, middle, first, rest⟩
    · exact h.kept first
    · rw [h.kept first] at rest
      exact (then_ a (h.gives first)).kept rest
  · intro b after outcome
    rcases outcome.of_work_bind with ⟨failure, failed, -⟩ | ⟨a, middle, first, rest⟩
    · cases failed
    · rw [h.kept first] at rest
      exact (then_ a (h.gives first)).gives rest

/-- Rescuing work that reads is reading, if the rescue is. -/
theorem rescue {handle : Failure → Work α} (h : Reads parser store work P)
    (else_ : ∀ failure, Reads parser store (handle failure) P) :
    Reads parser store (tryCatch work handle) P := by
  constructor
  · intro ended after outcome
    rcases outcome.of_tryCatch with ⟨a, -, first⟩ | ⟨failure, middle, first, rest⟩
    · exact h.kept first
    · rw [h.kept first] at rest
      exact (else_ failure).kept rest
  · intro a after outcome
    rcases outcome.of_tryCatch with ⟨b, same, first⟩ | ⟨failure, middle, first, rest⟩
    · cases same
      exact h.gives first
    · rw [h.kept first] at rest
      exact (else_ failure).gives rest

/-- A request that comes alone leaves the store as it is if no answer to it changes the store. -/
theorem of_answers (request : Request) (ended : request.Answer → Except Failure α)
    (kept : ∀ {answer after}, Answers parser store request answer after → after = store)
    (gives : ∀ {answer after a}, Answers parser store request answer after →
      ended answer = .ok a → P a) :
    Reads parser store (ExceptT.mk (.ask request fun answer => .done (ended answer))) P := by
  constructor
  · intro result after outcome
    cases outcome with
    | ask answers rest =>
      obtain ⟨-, rfl⟩ := rest.of_done
      exact kept answers
  · intro a after outcome
    cases outcome with
    | ask answers rest =>
      obtain ⟨same, -⟩ := rest.of_done
      exact gives answers same.symm

theorem of_done {result : Except Failure α} (gives : ∀ a, result = .ok a → P a) :
    Reads parser store (ExceptT.mk (.done result)) P := by
  constructor
  · intro ended after outcome
    exact outcome.of_done.2
  · intro a after outcome
    exact gives a outcome.of_done.1.symm

theorem pure {a : α} (h : P a) : Reads parser store (pure a) P :=
  of_done fun b same => by cases same; exact h

theorem fail (failure : Failure) : Reads parser store (Work.fail failure) P :=
  of_done fun b same => by cases same

theorem lift (result : Except Fault α) :
    Reads parser store (Work.lift result) fun a => result = .ok a := by
  refine of_done fun a same => ?_
  cases result with
  | error fault => cases same
  | ok b => cases same; rfl

theorem note (event : Event) : Reads parser store (Work.note event) fun _ => True := by
  refine ⟨fun outcome => ?_, fun _ => trivial⟩
  cases outcome with
  | note rest => exact rest.of_done.2

theorem isPresent (path : Path) :
    Reads parser store (Work.isPresent path) fun found => found = store.isPresent path := by
  refine of_answers (.isPresent path) .ok (fun answers => ?_)
    fun answers same => ?_
  · cases answers with
    | granted => rfl
  · cases answers with
    | granted => cases same; rfl

theorem parse (source : String) :
    Reads parser store (ExceptT.lift (Work.ask (.parse source))) fun parsed =>
      parsed = parser source := by
  refine of_answers (.parse source) .ok (fun answers => ?_)
    fun answers same => ?_
  · cases answers with
    | granted => rfl
  · cases answers with
    | granted => cases same; rfl

/-- What is read is the file that is there. -/
theorem read (path : Path) :
    Reads parser store (Work.read path) fun text => store.file? path = some text := by
  refine of_answers (.read path) id (fun answers => ?_) fun answers same => ?_
  · cases answers with
    | granted => rw [answer_read]
    | unread => rfl
  · cases answers with
    | unread => cases same
    | granted =>
      rw [answer_read] at same
      cases found : store.file? path with
      | none => simp [found] at same
      | some text => simpa [found] using same

/-- What is listed is what the store lists. -/
theorem list (directory : Path) (extension : String) :
    Reads parser store (Work.list directory extension) fun files =>
      files = store.list directory extension := by
  have asked : Reads parser store (ExceptT.mk (Work.ask (.list directory extension)))
      fun files => files = store.list directory extension := by
    refine of_answers (.list directory extension) id (fun answers => ?_)
      fun answers same => ?_
    · cases answers with
      | granted => rw [answer_list]
      | unlisted => rfl
    · cases answers with
      | unlisted => cases same
      | granted =>
        rw [answer_list] at same
        simpa [eq_comm] using same
  exact asked.bind fun files listed => (note _).bind fun _ _ => .pure listed

end Reads

/-! ## Work that writes -/

/-- When the work fails it leaves the files as they are, and when it succeeds it has put one. -/
structure Writes (parser : Parser) (store : MemoryStore) (work : Work α)
    (result : α → Path → String → Prop) : Prop where
  kept : ∀ {failure after}, Outcome parser work.run store (.error failure) after →
    after.files = store.files
  puts : ∀ {a after}, Outcome parser work.run store (.ok a) after →
    ∃ path text, result a path text ∧ after.files = putFile path text store.files

/-- What is known of a write may be weakened. -/
theorem Writes.mono {work : Work α} {Q Q' : α → Path → String → Prop}
    (h : Writes parser store work Q) (weaker : ∀ a path text, Q a path text → Q' a path text) :
    Writes parser store work Q' := by
  refine ⟨h.kept, fun outcome => ?_⟩
  obtain ⟨path, text, told, puts⟩ := h.puts outcome
  exact ⟨path, text, weaker _ path text told, puts⟩

/-- Work that reads may go on as work that writes. -/
theorem Reads.bind_writes {work : Work α} {next : α → Work β} {P : α → Prop}
    {Q : β → Path → String → Prop} (h : Reads parser store work P)
    (then_ : ∀ a, P a → Writes parser store (next a) Q) :
    Writes parser store (work >>= next) Q := by
  constructor
  · intro failure after outcome
    rcases outcome.of_work_bind with ⟨failure, -, first⟩ | ⟨a, middle, first, rest⟩
    · rw [h.kept first]
    · rw [h.kept first] at rest
      exact (then_ a (h.gives first)).kept rest
  · intro b after outcome
    rcases outcome.of_work_bind with ⟨failure, failed, -⟩ | ⟨a, middle, first, rest⟩
    · cases failed
    · rw [h.kept first] at rest
      exact (then_ a (h.gives first)).puts rest

/-- Making directories leaves the files as they are. -/
theorem files_makeDirectories {path : Path} {result : Except Failure Unit}
    (outcome : Outcome parser (Work.makeDirectories path).run store result after) :
    after.files = store.files := by
  cases outcome with
  | ask answers rest =>
    obtain ⟨-, rfl⟩ := rest.of_done
    cases answers with
    | granted => rfl
    | unmade => rfl

/-- Writing fails, or puts the file. -/
theorem files_write {path : Path} {text : String} {result : Except Failure Unit}
    (outcome : Outcome parser (Work.write path text).run store result after) :
    (∃ failure, result = .error failure ∧ after.files = store.files) ∨
      result = .ok () ∧ after.files = putFile path text store.files := by
  cases outcome with
  | ask answers rest =>
    cases answers with
    | unwritten path text failure =>
      obtain ⟨rfl, rfl⟩ := rest.of_done
      exact .inl ⟨failure, rfl, rfl⟩
    | granted =>
      rw [answer_write, Setting.refuses_granting, if_neg Bool.false_ne_true] at rest
      by_cases homeless : store.isHomeless path = true
      · rw [if_pos homeless] at rest
        obtain ⟨rfl, rfl⟩ := rest.of_done
        exact .inl ⟨_, rfl, rfl⟩
      · rw [if_neg homeless] at rest
        cases rest with
        | note rest =>
          obtain ⟨rfl, rfl⟩ := rest.of_done
          exact .inr ⟨rfl, rfl⟩

/-- Storing a document fails and leaves the files as they are, or puts it. -/
theorem files_store {path : Path} {text : String} {result : Except Failure Unit}
    (outcome : Outcome parser (Work.store path text).run store result after) :
    (∃ failure, result = .error failure ∧ after.files = store.files) ∨
      result = .ok () ∧ after.files = putFile path text store.files := by
  unfold Work.store at outcome
  cases parent : path.parent? with
  | none =>
    rw [parent] at outcome
    exact files_write outcome
  | some directory =>
    rw [parent] at outcome
    rcases outcome.of_work_bind with ⟨failure, rfl, made⟩ | ⟨_, middle, made, written⟩
    · exact .inl ⟨failure, rfl, files_makeDirectories made⟩
    · rw [← files_makeDirectories made]
      exact files_write written

/-- An operation ends with storing its document, an event and its result. -/
theorem Writes.store_then (path : Path) (text : String) (event : Event) (a : α) :
    Writes parser store
      (Work.store path text >>= fun _ => Work.note event >>= fun _ => pure a)
      fun b other content => b = a ∧ other = path ∧ content = text := by
  have last (middle : MemoryStore) : Reads parser middle
      (Work.note event >>= fun _ => (pure a : Work α)) fun b => b = a :=
    (Reads.note event).bind fun _ _ => .pure rfl
  constructor
  · intro failure after outcome
    rcases outcome.of_work_bind with ⟨_, -, stored⟩ | ⟨_, middle, stored, rest⟩
    · rcases files_store stored with ⟨_, -, kept⟩ | ⟨done, -⟩
      · exact kept
      · cases done
    · cases rest with
      | note rest => cases rest.of_done.1
  · intro b after outcome
    rcases outcome.of_work_bind with ⟨_, failed, -⟩ | ⟨_, middle, stored, rest⟩
    · cases failed
    · rcases files_store stored with ⟨_, failed, -⟩ | ⟨-, puts⟩
      · cases failed
      · rw [(last middle).kept rest]
        exact ⟨path, text, ⟨(last middle).gives rest, rfl, rfl⟩, puts⟩

end PackageIndex.MemoryStore
