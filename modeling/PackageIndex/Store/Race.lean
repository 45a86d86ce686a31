import Mathlib.Logic.Function.Basic
import Mathlib.Logic.Relation
import PackageIndex.Store.Outcome

/-!
# Scripts at once

Scripts may run at once on one store. Each request is answered as a whole, but between two requests
of a script any others may be answered; there is no lock. So all that can happen is told by which
script takes the next step, and by what is refused.
-/
namespace PackageIndex

/-- A file has been written. -/
def Request.hasWritten : (request : Request) → request.Answer → Bool
  | .write _ _, .ok _ => true
  | .write _ _, .error _ => false
  | .read _, _ | .isPresent _, _ | .makeDirectories _, _ | .list _ _, _ | .parse _, _ => false

/-- What a script that has nothing more to ask comes to. -/
def Script.result? {α : Type} : Script α → Option α
  | .done result => some result
  | .ask _ _ => none
  | .note _ next => next.result?

structure Race (ι α : Type) where
  /-- What is left of each script. -/
  left : ι → Script α
  store : MemoryStore
  /-- The scripts that have written, the latest first. -/
  writers : List ι

namespace Race

variable {ι α : Type}

def start (scripts : ι → Script α) (store : MemoryStore) : Race ι α := ⟨scripts, store, []⟩

variable [DecidableEq ι]

/-- A script goes on, and what is left of the others stays as it was. -/
def goOn (race : Race ι α) (i : ι) (rest : Script α) : Race ι α :=
  { race with left := Function.update race.left i rest }

/-- A request of a script has been answered, and a store is left. -/
def answered (race : Race ι α) (i : ι) (rest : Script α) (after : MemoryStore)
    (hasWritten : Bool) : Race ι α :=
  { race.goOn i rest with
    store := after
    writers := if hasWritten then i :: race.writers else race.writers }

/-- One of the scripts takes one step. -/
inductive Step (race : Race ι α) : Race ι α → Prop where
  | ask {i : ι} {request : Request} {next : request.Answer → Script α}
    {parser : MemoryStore.Parser} {answer : request.Answer} {after : MemoryStore} :
    race.left i = .ask request next →
    MemoryStore.Answers parser race.store request answer after →
      Step race (race.answered i (next answer) after (request.hasWritten answer))
  | note {i : ι} {event : Event} {next : Script α} :
    race.left i = .note event next → Step race (race.goOn i next)

/-- Some steps lead from one state of a race to another. -/
abbrev Reaches (race last : Race ι α) : Prop := Relation.ReflTransGen Step race last

/-- The next step of a script where nothing is refused; none if it has come to its end. -/
def advance (parser : MemoryStore.Parser) (race : Race ι α) (i : ι) : Race ι α :=
  match race.left i with
  | .done _ => race
  | .ask request next =>
    let (answer, after) := (MemoryStore.answer (.granting parser) request).run race.store
    race.answered i (next answer) after (request.hasWritten answer)
  | .note _ next => race.goOn i next

/-- The scripts take their steps in a given order. -/
def schedule (parser : MemoryStore.Parser) (race : Race ι α) (order : List ι) : Race ι α :=
  order.foldl (advance parser) race

theorem reaches_schedule (parser : MemoryStore.Parser) (race : Race ι α) (order : List ι) :
    race.Reaches (race.schedule parser order) := by
  induction order generalizing race with
  | nil => exact .refl
  | cons i order ih =>
    have advanced : race.Reaches (race.advance parser i) := by
      unfold advance
      split
      · exact .refl
      · next request next asks =>
        have granted : MemoryStore.Answers parser race.store request _ _ := .granted request
        exact .single (.ask asks granted)
      · next event next notes => exact .single (.note notes)
    exact advanced.trans (ih _)

end Race

end PackageIndex
