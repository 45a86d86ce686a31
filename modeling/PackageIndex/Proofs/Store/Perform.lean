import PackageIndex.Proofs.Store.Files
import PackageIndex.Store.Outcome

/-!
# Work on a store

What a piece of work comes to in a setting: step by step for work that goes on or is rescued, and in
one equation for each request. Where nothing is refused, work that only looks has its result as soon
as each of its steps has.
-/
namespace PackageIndex.MemoryStore

variable {α β : Type} {setting : Setting} {store : MemoryStore}

/-- Work goes on where its first part ends, or fails with it. -/
theorem perform_bind (setting : Setting) (work : Work α) (next : α → Work β)
    (store : MemoryStore) :
    perform setting (work >>= next) store =
      match perform setting work store with
      | (.ok a, after) => perform setting (next a) after
      | (.error failure, after) => (.error failure, after) := by
  change (Script.run (handler setting) (work.run.bind _)).run store = _
  rw [Script.run_bind, StateT.run_bind]
  change _ = match (Script.run (handler setting) work.run).run store with
    | (.ok a, after) => perform setting (next a) after
    | (.error failure, after) => (.error failure, after)
  rcases (Script.run (handler setting) work.run).run store with ⟨_ | _, after⟩ <;> rfl

/-- A rescue goes on where the failure came. -/
theorem perform_tryCatch (setting : Setting) (work : Work α) (rescue : Failure → Work α)
    (store : MemoryStore) :
    perform setting (tryCatch work rescue) store =
      match perform setting work store with
      | (.ok a, after) => (.ok a, after)
      | (.error failure, after) => perform setting (rescue failure) after := by
  change (Script.run (handler setting) (work.run.bind _)).run store = _
  rw [Script.run_bind, StateT.run_bind]
  change _ = match (Script.run (handler setting) work.run).run store with
    | (.ok a, after) => ((.ok a, after) : Except Failure α × MemoryStore)
    | (.error failure, after) => perform setting (rescue failure) after
  rcases (Script.run (handler setting) work.run).run store with ⟨_ | _, after⟩ <;> rfl

theorem perform_bind_ok {work : Work α} {a : α} (next : α → Work β)
    (h : (perform setting work store).1 = .ok a) :
    perform setting (work >>= next) store =
      perform setting (next a) (perform setting work store).2 := by
  rw [perform_bind]
  rcases hw : perform setting work store with ⟨result, after⟩
  rw [hw] at h
  cases h
  rfl

theorem perform_bind_error {work : Work α} {failure : Failure} (next : α → Work β)
    (h : (perform setting work store).1 = .error failure) :
    perform setting (work >>= next) store = (.error failure, (perform setting work store).2) := by
  rw [perform_bind]
  rcases hw : perform setting work store with ⟨result, after⟩
  rw [hw] at h
  cases h
  rfl

theorem perform_tryCatch_ok {work : Work α} {a : α} (rescue : Failure → Work α)
    (h : (perform setting work store).1 = .ok a) :
    perform setting (tryCatch work rescue) store = perform setting work store := by
  rw [perform_tryCatch]
  rcases hw : perform setting work store with ⟨result, after⟩
  rw [hw] at h
  cases h
  rfl

theorem perform_tryCatch_error {work : Work α} {failure : Failure} (rescue : Failure → Work α)
    (h : (perform setting work store).1 = .error failure) :
    perform setting (tryCatch work rescue) store =
      perform setting (rescue failure) (perform setting work store).2 := by
  rw [perform_tryCatch]
  rcases hw : perform setting work store with ⟨result, after⟩
  rw [hw] at h
  cases h
  rfl

@[simp] theorem perform_isPresent (path : Path) :
    perform setting (Work.isPresent path) store = (.ok (store.isPresent path), store) := rfl

theorem perform_read (path : Path) :
    perform setting (Work.read path) store =
      (if setting.refuses .read path then .error (refusal .read path)
        else match store.file? path with
          | some text => .ok text
          | none => .error (.notFound path), store) :=
  answer_read setting store path

theorem perform_list (directory : Path) (extension : String) :
    perform setting (Work.list directory extension) store =
      (if setting.refuses .list directory then .error (refusal .list directory)
        else .ok (store.list directory extension), store) := by
  have asked : perform setting (ExceptT.mk (Work.ask (.list directory extension))) store = _ :=
    answer_list setting store directory extension
  rw [Work.list, perform_bind, asked]
  by_cases refused : setting.refuses .list directory = true
  · rw [if_pos refused]
  · rw [if_neg refused]
    rfl

/-! ## Storing a document -/

def housing (store : MemoryStore) (path : Path) : MemoryStore :=
  match path.parent? with
  | some directory => store.addDirectories directory
  | none => store

@[simp] theorem files_housing (path : Path) : (store.housing path).files = store.files := by
  unfold housing
  split <;> rfl

/-- A path that room was made for is not homeless. -/
theorem isHomeless_housing (path : Path) : (store.housing path).isHomeless path = false := by
  unfold housing isHomeless
  cases path.parent? with
  | none => rfl
  | some directory =>
    by_cases empty : directory.text = ""
    · simp [empty]
    · simp [hasDirectory_addDirectories empty]

/-- A file is added where it is housed. -/
theorem withFile_eq_housing (path : Path) (text : String) :
    store.withFile path text =
      { store.housing path with files := putFile path text (store.housing path).files } := by
  unfold withFile housing
  cases path.parent? <;> rfl

def unhoused? (setting : Setting) (path : Path) : Option Failure :=
  path.parent?.bind fun directory =>
    if setting.refuses .mkdir directory then some (refusal .mkdir directory) else none

theorem perform_write (path : Path) (text : String) :
    perform setting (Work.write path text) store =
      (answer setting (.write path text)).run store := by
  have asked : perform setting (ExceptT.mk (Work.ask (.write path text))) store =
    (answer setting (.write path text)).run store := rfl
  rw [Work.write, perform_bind, asked]
  rcases (answer setting (.write path text)).run store with ⟨_ | _, after⟩ <;> rfl

/-- A document is stored unless its directory or the file itself is refused. -/
theorem perform_store (path : Path) (text : String) :
    perform setting (Work.store path text) store =
      match unhoused? setting path with
      | some failure => (.error failure, store)
      | none =>
        if setting.refuses .write path then (.error (refusal .write path), store.housing path)
        else (.ok (), { store.housing path with files := putFile path text store.files }) := by
  have written : perform setting (Work.write path text) (store.housing path) =
      if setting.refuses .write path then (.error (refusal .write path), store.housing path)
      else (.ok (), { store.housing path with files := putFile path text store.files }) := by
    rw [perform_write, answer_write, isHomeless_housing, files_housing]
    rfl
  rw [← written, Work.store]
  unfold unhoused? housing
  cases path.parent? with
  | none => rfl
  | some directory =>
    dsimp only
    rw [perform_bind]
    have asked : perform setting (Work.makeDirectories directory) store =
      (answer setting (.makeDirectories directory)).run store := rfl
    rw [answer_makeDirectories] at asked
    by_cases refused : setting.refuses .mkdir directory = true
    · rw [if_pos refused] at asked
      simp [asked, refused]
    · rw [if_neg refused] at asked
      simp [asked, refused]

/-- Where nothing is refused a document is stored with the directories above it. -/
theorem perform_store_granting (parser : Parser) (path : Path) (text : String) :
    perform (.granting parser) (Work.store path text) store =
      (.ok (), store.withFile path text) := by
  have housed : unhoused? (.granting parser) path = none := by
    unfold unhoused?
    cases path.parent? <;> rfl
  rw [perform_store, housed, withFile_eq_housing, files_housing]
  rfl

/-- Where nothing is refused, an operation that ends with storing its document succeeds. -/
theorem perform_store_then (parser : Parser) (path : Path) (text : String) (event : Event) (a : α) :
    perform (.granting parser)
      (Work.store path text >>= fun _ => Work.note event >>= fun _ => pure a) store =
        (.ok a, store.withFile path text) := by
  rw [perform_bind, perform_store_granting]
  rfl

/-! ## When nothing is refused -/

/-- A store that grants whatever it can brings the work to this result and stays as it was. -/
def Grants (parser : Parser) (store : MemoryStore) (work : Work α) (a : α) : Prop :=
  perform (.granting parser) work store = (.ok a, store)

namespace Grants

variable {parser : Parser} {work : Work α} {a : α}

/-- What is granted may go on. -/
theorem bind {next : α → Work β} {b : β} (h : Grants parser store work a)
    (then_ : Grants parser store (next a) b) : Grants parser store (work >>= next) b := by
  unfold Grants at h
  rw [Grants, MemoryStore.perform_bind, h]
  exact then_

/-- What comes after work that looks begins with the store as it was. -/
theorem perform_bind (h : Grants parser store work a) (next : α → Work β) :
    perform (.granting parser) (work >>= next) store =
      perform (.granting parser) (next a) store := by
  unfold Grants at h
  rw [MemoryStore.perform_bind, h]

/-- What is granted needs no rescue. -/
theorem rescue (h : Grants parser store work a) (handle : Failure → Work α) :
    Grants parser store (tryCatch work handle) a := by
  unfold Grants at h
  rw [Grants, perform_tryCatch, h]

theorem pure (a : α) : Grants parser store (pure a) a := rfl

theorem lift {result : Except Fault α} (given : result = .ok a) :
    Grants parser store (Work.lift result) a := by
  rw [given]
  rfl

theorem note (event : Event) : Grants parser store (Work.note event) () := rfl

theorem isPresent (path : Path) :
    Grants parser store (Work.isPresent path) (store.isPresent path) := rfl

theorem parse (source : String) :
    Grants parser store (ExceptT.lift (Work.ask (.parse source))) (parser source) := rfl

/-- A file that is there is granted. -/
theorem read {path : Path} {text : String} (found : store.file? path = some text) :
    Grants parser store (Work.read path) text := by
  rw [Grants, perform_read, found]
  rfl

theorem list (directory : Path) (extension : String) :
    Grants parser store (Work.list directory extension) (store.list directory extension) := by
  rw [Grants, perform_list]
  rfl

end Grants

end PackageIndex.MemoryStore
