import PackageIndex.Proofs.Store.Outcome
import PackageIndex.Store.Race

/-!
# What holds amid others

A script in a race is told about by a pact: what holds of the store, whatever the others do, by
what has been written so far. A script that keeps a pact goes by what the pact says at each of its
requests, not by what it has read before, and writes once at most. If each script of a race keeps
the pact, it holds all along, and what is written is what the scripts that have written come to.
-/
namespace PackageIndex

open MemoryStore (Answers Parser)

variable {ι α β γ : Type}

/-- What holds of a store by the entries of a log, the latest first. Only files are told about. -/
structure Pact (β : Type) where
  Holds : List β → MemoryStore → Prop
  congr : ∀ {log : List β} {store after : MemoryStore}, after.files = store.files →
    Holds log store → Holds log after

/-- Whenever a request of the script is answered, the pact holds again, and an entry has been added
if a file has been written. A script that has made its entry asks for nothing more. -/
def Script.Amid (pact : Pact β) (P : Option β → List β → α → Prop) :
    Script α → Option β → List β → Prop
  | .done result, own, log => P own log result
  | .ask request next, own, log =>
    own = none ∧ ∀ (now : List β) (parser : Parser) (store : MemoryStore) (answer : request.Answer)
      (after : MemoryStore), log <:+ now → pact.Holds now store →
      Answers parser store request answer after →
        ∃ own : Option β, own.isSome = request.hasWritten answer ∧
          pact.Holds (own.toList ++ now) after ∧ (next answer).Amid pact P own (own.toList ++ now)
  | .note _ next, own, log => next.Amid pact P own log

namespace Script.Amid

variable {pact : Pact β} {P : Option β → List β → α → Prop}

/-- A script amid others goes on with what it knows. -/
theorem bind {script : Script α} {next : α → Script γ} {Q : Option β → List β → γ → Prop}
    {own : Option β} {log : List β} (first : script.Amid pact P own log)
    (rest : ∀ own log a, P own log a → (next a).Amid pact Q own log) :
    (script.bind next).Amid pact Q own log := by
  induction script generalizing own log with
  | done a => exact rest own log a first
  | ask request continue_ ih =>
    refine ⟨first.1, fun now parser store answer after since holds answers => ?_⟩
    obtain ⟨own, wrote, holds, amid⟩ := first.2 now parser store answer after since holds answers
    exact ⟨own, wrote, holds, ih answer amid⟩
  | note event script ih => exact ih first

theorem mono {P' : Option β → List β → α → Prop} {script : Script α} {own : Option β}
    {log : List β} (h : script.Amid pact P own log)
    (imp : ∀ own log a, P own log a → P' own log a) :
    script.Amid pact P' own log := by
  rw [← script.bind_done]
  exact h.bind imp

/-- A script that has made its entry is as good as at its end. -/
theorem result?_eq {script : Script α} {entry : β} {log : List β}
    (h : script.Amid pact P (some entry) log) :
    ∃ result, script.result? = some result ∧ P (some entry) log result := by
  induction script with
  | done result => exact ⟨result, rfl, h⟩
  | ask request next => cases h.1
  | note event next ih => exact ih h

end Script.Amid

/-! ## Races -/

namespace Race

variable {pact : Pact β} {P : ι → Option β → List β → α → Prop}
  {race next last : Race ι α} {log : List (ι × β)}

/-- In a state of a race the pact holds by a log of all that has been written, and every script
keeps it by the log of an earlier moment. -/
structure Kept (pact : Pact β) (P : ι → Option β → List β → α → Prop) (race : Race ι α)
    (log : List (ι × β)) : Prop where
  writers : race.writers = log.map Prod.fst
  holds : pact.Holds (log.map Prod.snd) race.store
  amid : ∀ i, ∃ own since, since <:+ log.map Prod.snd ∧
    (∀ entry, (i, entry) ∈ log → own = some entry) ∧ (race.left i).Amid pact (P i) own since

namespace Kept

/-- Where the pact holds and each script keeps it, a race begins as it should. -/
theorem start (pact : Pact β) {scripts : ι → Script α} {store : MemoryStore}
    (holds : pact.Holds [] store) (amid : ∀ i, (scripts i).Amid pact (P i) none []) :
    Kept pact P (.start scripts store) [] := by
  refine ⟨rfl, holds, fun i => ⟨none, [], List.suffix_refl _, fun entry mem => ?_, amid i⟩⟩
  cases mem

/-- A script that has made an entry comes to a result that goes with it. -/
theorem result?_eq (kept : Kept pact P race log) {i : ι} {entry : β}
    (mem : (i, entry) ∈ log) :
    ∃ result since, (race.left i).result? = some result ∧ P i (some entry) since result := by
  obtain ⟨own, since, -, entered, amid⟩ := kept.amid i
  rw [entered entry mem] at amid
  obtain ⟨result, comes, holds⟩ := amid.result?_eq
  exact ⟨result, since, comes, holds⟩

end Kept

variable [DecidableEq ι]

theorem left_goOn_self (race : Race ι α) (i : ι) (rest : Script α) :
    (race.goOn i rest).left i = rest :=
  Function.update_self ..

theorem left_goOn_of_ne (race : Race ι α) {i j : ι} (other : j ≠ i) (rest : Script α) :
    (race.goOn i rest).left j = race.left j :=
  Function.update_of_ne other ..

theorem left_answered (race : Race ι α) (i : ι) (rest : Script α) (after : MemoryStore)
    (hasWritten : Bool) :
    (race.answered i rest after hasWritten).left = (race.goOn i rest).left := rfl

namespace Kept

/-- An event changes nothing. -/
theorem note (kept : Kept pact P race log) {i : ι} {event : Event} {rest : Script α}
    (notes : race.left i = .note event rest) : Kept pact P (race.goOn i rest) log := by
  refine ⟨kept.writers, kept.holds, fun j => ?_⟩
  obtain ⟨own, since, before, entered, amid⟩ := kept.amid j
  refine ⟨own, since, before, entered, ?_⟩
  by_cases same : j = i
  · subst same
    rw [notes] at amid
    rw [left_goOn_self]
    exact amid
  · rwa [left_goOn_of_ne race same]

/-- The log grows by the entry of the script whose request has been answered, if it has written. -/
theorem ask (kept : Kept pact P race log) {i : ι} {request : Request}
    {rest : request.Answer → Script α} {parser : Parser} {answer : request.Answer}
    {after : MemoryStore} (asks : race.left i = .ask request rest)
    (answers : Answers parser race.store request answer after) :
    ∃ own : Option β, Kept pact P
      (race.answered i (rest answer) after (request.hasWritten answer))
      (own.toList.map (Prod.mk i) ++ log) := by
  obtain ⟨before, since, earlier, entered, amid⟩ := kept.amid i
  rw [asks] at amid
  obtain ⟨rfl, goes⟩ := amid
  obtain ⟨own, wrote, holds, amid⟩ :=
    goes _ parser race.store answer after earlier kept.holds answers
  have entries : (own.toList.map (Prod.mk i) ++ log).map Prod.snd =
      own.toList ++ log.map Prod.snd := by
    rw [List.map_append, List.map_map]
    exact congrArg (· ++ _) (List.map_id _)
  refine ⟨own, ?_, entries ▸ holds, fun j => ?_⟩
  · rw [answered, ← wrote, kept.writers]
    cases own <;> rfl
  rw [entries, left_answered]
  by_cases same : j = i
  · subst same
    refine ⟨own, own.toList ++ log.map Prod.snd, List.suffix_refl _, fun entry mem => ?_, ?_⟩
    · rcases List.mem_append.mp mem with new | old
      · simpa using new
      · cases entered entry old
    · rwa [left_goOn_self]
  · obtain ⟨before, since, earlier, entered, amid⟩ := kept.amid j
    refine ⟨before, since, earlier.trans (List.suffix_append ..), fun entry mem => ?_, ?_⟩
    · refine entered entry ((List.mem_append.mp mem).resolve_left fun new => ?_)
      obtain ⟨_, -, same'⟩ := List.mem_map.mp new
      exact same (congrArg Prod.fst same').symm
    · rwa [left_goOn_of_ne race same]

/-- Whichever script takes a step, the pact is kept. -/
theorem step (kept : Kept pact P race log) (step : race.Step next) :
    ∃ log, Kept pact P next log := by
  cases step with
  | note notes => exact ⟨log, kept.note notes⟩
  | ask asks answers =>
    obtain ⟨own, kept⟩ := kept.ask asks answers
    exact ⟨_, kept⟩

/-- However far a race goes, the pact is kept. -/
theorem reaches (kept : Kept pact P race log) (reaches : race.Reaches last) :
    ∃ log, Kept pact P last log := by
  induction reaches with
  | refl => exact ⟨log, kept⟩
  | tail _ step ih =>
    obtain ⟨log, kept⟩ := ih
    exact kept.step step

end Kept

end Race

/-! ## Work -/

/-- Work that keeps a pact: if it fails it has made no entry, and if it succeeds it is as told. -/
structure Pact.Keeps (pact : Pact β) (own : Option β) (log : List β) (work : Work α)
    (P : Option β → List β → α → Prop) : Prop where
  amid : work.run.Amid pact (fun own log ended => match ended with
    | .ok a => P own log a
    | .error _ => own = none) own log

namespace Pact.Keeps

variable {pact : Pact β} {own : Option β} {log : List β} {work : Work α} {next : α → Work γ}
  {P P' : Option β → List β → α → Prop} {Q : Option β → List β → γ → Prop}

/-- What is known after work may be weakened. -/
theorem mono (h : pact.Keeps own log work P) (imp : ∀ own log a, P own log a → P' own log a) :
    pact.Keeps own log work P' := by
  refine ⟨h.amid.mono fun own log ended told => ?_⟩
  cases ended with
  | ok a => exact imp own log a told
  | error failure => exact told

theorem bind (h : pact.Keeps own log work P)
    (then_ : ∀ own log a, P own log a → pact.Keeps own log (next a) Q) :
    pact.Keeps own log (work >>= next) Q := by
  refine ⟨h.amid.bind fun own log ended told => ?_⟩
  cases ended with
  | ok a => exact (then_ own log a told).amid
  | error failure => exact told

/-- A rescue begins where nothing has been written. -/
theorem rescue {handle : Failure → Work α} (h : pact.Keeps own log work P)
    (else_ : ∀ log failure, pact.Keeps none log (handle failure) P) :
    pact.Keeps own log (tryCatch work handle) P := by
  refine ⟨h.amid.bind fun own log ended told => ?_⟩
  cases ended with
  | ok a => exact told
  | error failure =>
    cases told
    exact (else_ log failure).amid

theorem pure {a : α} (h : P own log a) : pact.Keeps own log (pure a) P := ⟨h⟩

theorem fail (failure : Failure) : pact.Keeps none log (Work.fail failure) P := ⟨rfl⟩

theorem note (event : Event) : pact.Keeps own log (Work.note event) fun after _ _ => after = own :=
  ⟨rfl⟩

/-- A request that comes alone and writes no file: what it gives holds of a store by the pact. -/
theorem of_reads (request : Request) (ended : request.Answer → Except Failure α)
    (quiet : ∀ answer, request.hasWritten answer = false) {P : MemoryStore → α → Prop}
    (reads : ∀ {parser store}, MemoryStore.Reads parser store
      (ExceptT.mk (.ask request fun answer => .done (ended answer))) (P store)) :
    pact.Keeps none log (ExceptT.mk (.ask request fun answer => .done (ended answer)))
      fun own now a => own = none ∧ ∃ store, pact.Holds now store ∧ P store a := by
  refine ⟨rfl, fun now parser store answer after since holds answers => ?_⟩
  have outcome : MemoryStore.Outcome parser (.ask request fun answer => .done (ended answer)) store
      (ended answer) after := .ask answers (.done _ _)
  obtain rfl := reads.kept outcome
  refine ⟨none, (quiet answer).symm, holds, ?_⟩
  rw [Script.Amid]
  cases told : ended answer with
  | error failure => rfl
  | ok a => exact ⟨rfl, after, holds, reads.gives (told ▸ outcome)⟩

/-- What is read is what some store held since. -/
theorem read (path : Path) :
    pact.Keeps none log (Work.read path) fun own now text =>
      own = none ∧ ∃ store, pact.Holds now store ∧ store.file? path = some text :=
  of_reads (.read path) id (fun _ => rfl) (MemoryStore.Reads.read path)

theorem makeDirectories (path : Path) :
    pact.Keeps none log (Work.makeDirectories path) fun own now _ => own = none ∧ log <:+ now := by
  refine ⟨rfl, fun now parser store answer after since holds answers => ?_⟩
  have outcome : MemoryStore.Outcome parser (Work.makeDirectories path).run store answer after :=
    .ask answers (.done _ _)
  refine ⟨none, rfl, pact.congr (MemoryStore.files_makeDirectories outcome) holds, ?_⟩
  cases answer with
  | error failure => rfl
  | ok => exact ⟨rfl, since⟩

/-- A document that is written makes an entry, with which the pact holds of the new files. -/
theorem write {path : Path} {text : String} (entry : β)
    (holds : ∀ {now store after}, log <:+ now → pact.Holds now store →
      after.files = MemoryStore.putFile path text store.files → pact.Holds (entry :: now) after) :
    pact.Keeps none log (Work.write path text) fun own _ _ => own = some entry := by
  refine Keeps.bind (P := fun own _ _ => own = some entry) ?_ fun own log _ made => ?_
  · refine ⟨rfl, fun now parser store answer after since held answers => ?_⟩
    cases answers with
    | unwritten => exact ⟨none, rfl, held, rfl⟩
    | granted =>
      rw [MemoryStore.answer_write, MemoryStore.Setting.refuses_granting,
        if_neg Bool.false_ne_true]
      by_cases homeless : store.isHomeless path = true
      · rw [if_pos homeless]
        exact ⟨none, rfl, held, rfl⟩
      · rw [if_neg homeless]
        exact ⟨some entry, rfl, holds since held rfl, rfl⟩
  · exact (note _).mono fun after _ _ same => same.trans made

/-- A document that is stored is the last entry of the log. -/
theorem store {path : Path} {text : String} (entry : β)
    (holds : ∀ {now store after}, log <:+ now → pact.Holds now store →
      after.files = MemoryStore.putFile path text store.files → pact.Holds (entry :: now) after) :
    pact.Keeps none log (Work.store path text) fun own _ _ => own = some entry := by
  unfold Work.store
  cases path.parent? with
  | none => exact write entry holds
  | some directory =>
    refine (makeDirectories directory).bind fun own log _ made => ?_
    obtain ⟨rfl, since⟩ := made
    exact write entry fun later => holds (since.trans later)

end Pact.Keeps

/-- Work that only looks makes no entry. -/
structure Pact.Looks (pact : Pact β) (work : Work α) : Prop where
  keeps : ∀ log, pact.Keeps none log work fun own _ _ => own = none

namespace Pact.Looks

variable {pact : Pact β} {work : Work α} {next : α → Work γ}

/-- Work that looks may come before any other. -/
theorem bind_keeps (h : pact.Looks work) {log : List β} {Q : Option β → List β → γ → Prop}
    (then_ : ∀ log a, pact.Keeps none log (next a) Q) :
    pact.Keeps none log (work >>= next) Q :=
  (h.keeps log).bind fun _ log a same => same ▸ then_ log a

theorem bind (h : pact.Looks work) (then_ : ∀ a, pact.Looks (next a)) :
    pact.Looks (work >>= next) :=
  ⟨fun _ => h.bind_keeps fun log a => (then_ a).keeps log⟩

theorem pure (a : α) : pact.Looks (pure a : Work α) := ⟨fun _ => .pure rfl⟩

theorem fail (failure : Failure) : pact.Looks (Work.fail failure : Work α) := ⟨fun _ => .fail _⟩

theorem note (event : Event) : pact.Looks (Work.note event) := ⟨fun _ => .note event⟩

theorem lift (result : Except Fault α) : pact.Looks (Work.lift result) := by
  refine ⟨fun log => ⟨?_⟩⟩
  cases result <;> rfl

/-- Work that is one request, and reads, keeps every pact. -/
theorem of_reads (request : Request) (ended : request.Answer → Except Failure α)
    (quiet : ∀ answer, request.hasWritten answer = false) {P : MemoryStore → α → Prop}
    (reads : ∀ {parser store}, MemoryStore.Reads parser store
      (ExceptT.mk (.ask request fun answer => .done (ended answer))) (P store)) :
    pact.Looks (ExceptT.mk (.ask request fun answer => .done (ended answer))) :=
  ⟨fun _ => (Keeps.of_reads request ended quiet reads).mono fun _ _ _ told => told.1⟩

theorem read (path : Path) : pact.Looks (Work.read path) :=
  of_reads (.read path) id (fun _ => rfl) (MemoryStore.Reads.read path)

theorem isPresent (path : Path) : pact.Looks (Work.isPresent path) :=
  of_reads (.isPresent path) .ok (fun _ => rfl) (MemoryStore.Reads.isPresent path)

theorem parse (source : String) : pact.Looks (ExceptT.lift (Work.ask (.parse source))) :=
  of_reads (P := fun _ _ => True) (.parse source) .ok (fun _ => rfl)
    ((MemoryStore.Reads.parse source).mono fun _ _ => trivial)

end Pact.Looks

end PackageIndex
