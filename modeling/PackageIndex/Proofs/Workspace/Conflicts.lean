import PackageIndex.Proofs.Workspace.Registration

/-!
# Classes that are taken

A registration asks the manifest for the file of each of its classes, and is refused for the first
one that belongs to another file. But a class belongs to the first file that lists it. Where that is
the very file that asks, the others that list the class are never seen; apart from such classes,
what is refused is what another file lists.
-/
namespace PackageIndex

namespace MemoryStore

variable {α β : Type} {setting : Setting} {work : Work α}

def Unopposed (setting : Setting) (work : Work α) : Prop :=
  ∀ store className file,
    (perform setting work store).1 ≠ .error (.alreadyRegistered className file)

namespace Unopposed

theorem pure (a : α) : Unopposed setting (pure a : Work α) := by
  intro store className file h
  cases h

theorem fail {failure : Failure}
    (other : ∀ className file, failure ≠ .alreadyRegistered className file) :
    Unopposed setting (Work.fail failure : Work α) := by
  intro store className file h
  cases h
  exact other className file rfl

theorem lift (result : Except Fault α) : Unopposed setting (Work.lift result) := by
  intro store className file h
  cases result <;> cases h

theorem note (event : Event) : Unopposed setting (Work.note event) := by
  intro store className file h
  cases h

theorem isPresent (path : Path) : Unopposed setting (Work.isPresent path) := by
  intro store className file h
  cases h

theorem read (path : Path) : Unopposed setting (Work.read path) := by
  intro store className file h
  rw [perform_read] at h
  dsimp only at h
  split at h
  · cases h
  · split at h <;> cases h

theorem store (path : Path) (text : String) : Unopposed setting (Work.store path text) := by
  intro store className file h
  rw [perform_store] at h
  split at h
  · next failure unhoused =>
    obtain ⟨directory, -, refused⟩ := Option.bind_eq_some_iff.mp unhoused
    split at refused <;> cases refused
    cases h
  · split at h <;> cases h

/-- Work fails for want of its first step, or as what comes next does. -/
theorem bind {next : α → Work β} (first : Unopposed setting work)
    (then_ : ∀ a, Unopposed setting (next a)) : Unopposed setting (work >>= next) := by
  intro store className file h
  cases ended : (perform setting work store).1 with
  | error failure =>
    rw [perform_bind_error next ended] at h
    cases h
    exact first store className file ended
  | ok a =>
    rw [perform_bind_ok next ended] at h
    exact then_ a _ className file h

/-- A rescue meets no conflict where the work has none. -/
theorem rescue {handle : Failure → Work α} (first : Unopposed setting work)
    (else_ : ∀ failure, (∀ className file, failure ≠ .alreadyRegistered className file) →
      Unopposed setting (handle failure)) : Unopposed setting (tryCatch work handle) := by
  intro store className file h
  cases ended : (perform setting work store).1 with
  | error failure =>
    rw [perform_tryCatch_error handle ended] at h
    refine else_ failure (fun className file same => ?_) _ className file h
    exact first store className file (same ▸ ended)
  | ok a =>
    rw [perform_tryCatch_ok handle ended, ended] at h
    cases h

/-- If a class is taken, such work has read what it reads, and what comes next finds it taken. -/
theorem of_bind {store : MemoryStore} {P : α → Prop} {next : α → Work β}
    {className file : String} (first : Unopposed setting work)
    (reads : Reads setting.parse store work P)
    (taken : (perform setting (work >>= next) store).1 =
      .error (.alreadyRegistered className file)) :
    ∃ a, P a ∧
      (perform setting (next a) store).1 = .error (.alreadyRegistered className file) := by
  have outcome := outcome_perform setting work store
  cases ended : (perform setting work store).1 with
  | error failure =>
    rw [perform_bind_error next ended] at taken
    cases taken
    exact absurd ended (first store className file)
  | ok a =>
    rw [perform_bind_ok next ended] at taken
    rw [ended] at outcome
    rw [reads.kept outcome] at taken
    exact ⟨a, reads.gives outcome, taken⟩

end Unopposed

end MemoryStore

open MemoryStore (Unopposed perform)

namespace Workspace

variable {setting : MemoryStore.Setting} (workspace : Workspace) (package : PackageName)

theorem unopposed_require : Unopposed setting (workspace.require package) := by
  unfold require
  refine (Unopposed.isPresent _).bind fun found => ?_
  split
  · exact .pure _
  · exact .fail fun _ _ h => by cases h

theorem unopposed_descriptor : Unopposed setting (workspace.descriptor package) := by
  unfold descriptor
  refine ((Unopposed.read _).rescue fun failure other => ?_).bind fun text => ?_
  · split
    · exact .fail fun _ _ h => by cases h
    · exact .fail other
  · split
    · exact .fail fun _ _ h => by cases h
    · exact (Unopposed.note _).bind fun _ => .pure _

theorem unopposed_requireAutoloader :
    Unopposed setting (workspace.requireAutoloader package) := by
  unfold requireAutoloader autoloaderFile?
  refine ((workspace.unopposed_descriptor package).bind fun _ => .pure _).bind fun path? => ?_
  split
  · exact .pure _
  · exact .fail fun _ _ h => by cases h

end Workspace

namespace Manifest

/-- The class belongs to the file, and that another lists it too does not show. -/
def Hides (manifest : Manifest) (file : RelativePath) (name : QualifiedName) : Prop :=
  manifest.lookup? name = some file ∧ ∃ other, other ≠ file ∧ manifest.Lists other name

/-- What another file lists either belongs to another file or is hidden. -/
theorem hides_of_lists {manifest : Manifest} {file other : RelativePath} {name : QualifiedName}
    (own : ∀ owner, manifest.lookup? name = some owner → owner = file) (apart : other ≠ file)
    (listed : manifest.Lists other name) : manifest.Hides file name := by
  cases found : manifest.lookup? name with
  | none => exact absurd listed (lookup?_eq_none.mp found other)
  | some owner => exact ⟨found.trans (congrArg some (own owner found)), other, apart, listed⟩

end Manifest

namespace Autoloader

section
variable {manifest : Manifest} {file taker : RelativePath} {name : QualifiedName}

/-- The class that is taken is the first that belongs to another file. -/
theorem owned?_eq_some {names : List QualifiedName}
    (taken : owned? manifest file names = some (name, taker)) :
    ∃ before rest, names = before ++ name :: rest ∧ manifest.lookup? name = some taker ∧
      taker ≠ file ∧ owned? manifest file before = none := by
  induction names with
  | nil => cases taken
  | cons first names ih =>
    have later (owned : ∀ owner, manifest.lookup? first = some owner → owner = file)
        (taken : owned? manifest file names = some (name, taker)) :
        ∃ before rest, first :: names = before ++ name :: rest ∧
          manifest.lookup? name = some taker ∧ taker ≠ file ∧
          owned? manifest file before = none := by
      obtain ⟨before, rest, rfl, found, apart, free⟩ := ih taken
      exact ⟨first :: before, rest, rfl, found, apart,
        owned?_eq_none.mpr (List.forall_mem_cons.mpr ⟨owned, owned?_eq_none.mp free⟩)⟩
    unfold owned? at taken
    split at taken
    · next owner found =>
      split at taken
      · next same =>
        refine later (fun other also => ?_) taken
        rw [found] at also
        cases also
        exact same
      · next apart =>
        cases taken
        exact ⟨[], names, rfl, found, apart, rfl⟩
    · next found =>
      refine later (fun other also => ?_) taken
      rw [found] at also
      cases also

end

section
variable {setting : MemoryStore.Setting} {workspace : Workspace} {package : PackageName}
  {store : MemoryStore} {file : RelativePath}

theorem unopposed_readManifest (path : Path) : Unopposed setting (readManifest path) := by
  unfold readManifest
  refine (Unopposed.read path).bind fun text => ?_
  split
  · exact .pure _
  · exact .fail fun _ _ h => by cases h

/-- A class is taken only by another file that it belongs to. -/
theorem taken_of_register {given : List String} {className owner : String}
    (refused : (perform setting (register workspace package file given) store).1 =
      .error (.alreadyRegistered className owner)) :
    ∃ path manifest names name taker, workspace.autoloaderIn? package store = some path ∧
      stored? store path = some (.ok manifest) ∧ classNames given = .ok names ∧
      owned? manifest file names = some (name, taker) ∧ className = name.text ∧
      owner = taker.text := by
  unfold register at refused
  obtain ⟨_, -, refused⟩ :=
    (workspace.unopposed_require package).of_bind (workspace.reads_require package) refused
  obtain ⟨names, parsed, refused⟩ := (Unopposed.lift _).of_bind (.lift _) refused
  unfold merge at refused
  obtain ⟨path, named, refused⟩ := (workspace.unopposed_requireAutoloader package).of_bind
    (workspace.reads_requireAutoloader package) refused
  obtain ⟨manifest, holds, refused⟩ :=
    (unopposed_readManifest path).of_bind (reads_readManifest path) refused
  have stores (next : Manifest) (event : Event) (addition : Addition) : Unopposed setting
      (writeManifest path next >>= fun _ => Work.note event >>= fun _ => pure addition) :=
    (Unopposed.store path _).bind fun _ => (Unopposed.note event).bind fun _ => .pure addition
  cases taken : owned? manifest file names with
  | none =>
    rw [taken] at refused
    exact absurd refused (stores _ _ _ store className owner)
  | some conflict =>
    rw [taken] at refused
    cases refused
    exact ⟨path, manifest, names, _, _, named, holds, parsed, taken, rfl, rfl⟩

/-- Whatever the manifest holds: a registration that succeeds was for classes that no other file
lists, neither before nor after, and one that finds a class taken tells of the first that another
file lists, and of such a file. It overlooks only classes that belong to its own file and are listed
under another as well. -/
theorem register_tells_taken {after : MemoryStore} {given : List String}
    {result : Except Failure Addition}
    (performed : perform setting (register workspace package file given) store =
      (result, after)) :
    (∀ addition, result = .ok addition → ∃ manifest next,
      workspace.autoloaderIn? package store = some addition.autoloader ∧
      stored? store addition.autoloader = some (.ok manifest) ∧
      stored? after addition.autoloader = some (.ok next) ∧
      classNames given = .ok addition.classes ∧
      ∀ name ∈ addition.classes, ¬ manifest.Hides file name →
        ∀ other, other ≠ file → ¬ manifest.Lists other name ∧ ¬ next.Lists other name) ∧
    ∀ className owner, result = .error (.alreadyRegistered className owner) →
      ∃ path manifest before name rest taker,
        workspace.autoloaderIn? package store = some path ∧
        stored? store path = some (.ok manifest) ∧
        classNames given = .ok (before ++ name :: rest) ∧
        className = name.text ∧ owner = taker.text ∧
        taker ≠ file ∧ manifest.Lists taker name ∧
        ∀ earlier ∈ before, ¬ manifest.Hides file earlier →
          ∀ other, other ≠ file → ¬ manifest.Lists other earlier := by
  constructor
  · rintro addition rfl
    have outcome :=
      MemoryStore.outcome_perform setting (register workspace package file given) store
    rw [performed] at outcome
    obtain ⟨path, text, ⟨asked, named, rfl, -, manifest, holds, free, -, rfl⟩, puts⟩ :=
      (writes_register workspace package file given).puts outcome
    refine ⟨manifest, (manifest.insert file addition.classes).1, named, holds,
      stored?_putFile puts, toOption_eq_some.mp asked, fun name mem seen other apart => ?_⟩
    have own := owned?_eq_none.mp (free rfl) name mem
    have unlisted : ¬ manifest.Lists other name := fun listed =>
      seen (Manifest.hides_of_lists own apart listed)
    refine ⟨unlisted, fun listed => ?_⟩
    rcases Manifest.lists_insert.mp listed with before | ⟨same, -⟩
    · exact unlisted before
    · exact apart same
  · rintro className owner rfl
    obtain ⟨path, manifest, names, name, taker, named, holds, parsed, taken, rfl, rfl⟩ :=
      taken_of_register (by rw [performed])
    obtain ⟨before, rest, rfl, found, apart, free⟩ := owned?_eq_some taken
    refine ⟨path, manifest, before, name, rest, taker, named, holds, parsed, rfl, rfl, apart,
      Manifest.lists_of_lookup? found, fun earlier mem seen other apart listed => ?_⟩
    exact seen (Manifest.hides_of_lists (owned?_eq_none.mp free earlier mem) apart listed)

end

/-! ## When nothing is refused -/

/-- Whether a registration succeeds is then up to the manifest alone. -/
theorem perform_register {parser : MemoryStore.Parser} {workspace : Workspace}
    {package : PackageName} {store : MemoryStore} {path : Path} {manifest : Manifest}
    {given : List String} {names : List QualifiedName}
    (present : store.isPresent (workspace.directory package) = true)
    (parsed : classNames given = .ok names)
    (named : workspace.autoloaderIn? package store = some path)
    (holds : stored? store path = some (.ok manifest)) (file : RelativePath) :
    perform (.granting parser) (register workspace package file given) store =
      match owned? manifest file names with
      | some (name, owner) => (.error (.alreadyRegistered name.text owner.text), store)
      | none => (.ok ⟨path, file, names, (manifest.insert file names).2⟩,
          store.withFile path (manifest.insert file names).1.toJson) := by
  unfold register merge writeManifest
  rw [(Workspace.grants_require present).perform_bind,
    (MemoryStore.Grants.lift parsed).perform_bind,
    (Workspace.grants_requireAutoloader named).perform_bind,
    (grants_readManifest holds).perform_bind]
  dsimp only
  cases owned? manifest file names with
  | none => exact MemoryStore.perform_store_then parser path _ _ _
  | some conflict => rfl

/-- Of a new class and two that are taken, the first of these is told, with the file that lists
it. -/
theorem register_tells_taken_after_new :
    let workspace : Workspace := ⟨⟨"p"⟩⟩
    let shop : PackageName := ⟨"shop", by decide⟩
    let a : RelativePath := ⟨"a", by decide, by decide, by decide, by decide⟩
    let b : RelativePath := ⟨"b", by decide, by decide, by decide, by decide⟩
    let c : QualifiedName := ⟨["C"], by decide, by decide⟩
    let d : QualifiedName := ⟨["D"], by decide, by decide⟩
    let manifest : Manifest := ⟨[⟨a, [d, c]⟩], by decide⟩
    let store := (MemoryStore.empty.withFile ⟨"p/shop/package.json"⟩
      "\x7b\"autoload\":\"m\"\x7d").withFile ⟨"p/shop/m"⟩ manifest.toJson
    let setting : MemoryStore.Setting := .granting fun _ => .ok []
    perform setting (register workspace shop b ["B", "C", "D"]) store =
        (.error (.alreadyRegistered "C" "a"), store) ∧
      ∃ path manifest before name rest taker,
        workspace.autoloaderIn? shop store = some path ∧
        stored? store path = some (.ok manifest) ∧
        classNames ["B", "C", "D"] = .ok (before ++ name :: rest) ∧
        "C" = name.text ∧ "a" = taker.text ∧ taker ≠ b ∧ manifest.Lists taker name ∧
        ∀ earlier ∈ before, ¬ manifest.Hides b earlier →
          ∀ other, other ≠ b → ¬ manifest.Lists other earlier := by
  intro workspace shop a b c d manifest store setting
  have present : store.isPresent (workspace.directory shop) = true := by decide +kernel
  have named : workspace.autoloaderIn? shop store = some ⟨"p/shop/m"⟩ :=
    (Workspace.autoloaderIn?_putFile (by decide) rfl).trans (by decide +kernel)
  have parsed : classNames ["B", "C", "D"] = .ok [⟨["B"], by decide, by decide⟩, c, d] := by
    decide +kernel
  have performed : perform setting (register workspace shop b ["B", "C", "D"]) store =
      (.error (.alreadyRegistered "C" "a"), store) := by
    rw [perform_register present parsed named (stored?_putFile rfl) b]
    rfl
  exact ⟨performed, (register_tells_taken performed).2 _ _ rfl⟩

/-- A file lists a class that a later one lists too. It may register the class again, although the
other file has it; and asked for one more class of that file, it is told of this one and not of the
first. -/
theorem later_owner_is_overlooked :
    let workspace : Workspace := ⟨⟨"p"⟩⟩
    let shop : PackageName := ⟨"shop", by decide⟩
    let a : RelativePath := ⟨"a", by decide, by decide, by decide, by decide⟩
    let b : RelativePath := ⟨"b", by decide, by decide, by decide, by decide⟩
    let c : QualifiedName := ⟨["C"], by decide, by decide⟩
    let d : QualifiedName := ⟨["D"], by decide, by decide⟩
    let manifest : Manifest := ⟨[⟨a, [c]⟩, ⟨b, [c, d]⟩], by decide⟩
    let store := (MemoryStore.empty.withFile ⟨"p/shop/package.json"⟩
      "\x7b\"autoload\":\"m\"\x7d").withFile ⟨"p/shop/m"⟩ manifest.toJson
    let setting : MemoryStore.Setting := .granting fun _ => .ok []
    stored? store ⟨"p/shop/m"⟩ = some (.ok manifest) ∧ manifest.Lists b c ∧ b ≠ a ∧
      (perform setting (register workspace shop a ["C"]) store).1 =
        .ok ⟨⟨"p/shop/m"⟩, a, [c], 0⟩ ∧
      (perform setting (register workspace shop a ["C", "D"]) store).1 =
        .error (.alreadyRegistered "D" "b") := by
  intro workspace shop a b c d manifest store setting
  have present : store.isPresent (workspace.directory shop) = true := by decide +kernel
  have named : workspace.autoloaderIn? shop store = some ⟨"p/shop/m"⟩ :=
    (Workspace.autoloaderIn?_putFile (by decide) rfl).trans (by decide +kernel)
  have holds : stored? store ⟨"p/shop/m"⟩ = some (.ok manifest) := stored?_putFile rfl
  have one : classNames ["C"] = .ok [c] := by decide +kernel
  have two : classNames ["C", "D"] = .ok [c, d] := by decide +kernel
  refine ⟨holds, ⟨⟨b, [c, d]⟩, by decide, rfl, by decide⟩, by decide, ?_, ?_⟩
  · rw [perform_register present one named holds a]
    rfl
  · rw [perform_register present two named holds a]
    rfl

end Autoloader

end PackageIndex
