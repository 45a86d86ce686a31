import PackageIndex.Proofs.Path.Parent
import PackageIndex.Proofs.Store.Perform

/-!
# What a store holds after a run of changes

Files are added with their directories or written where a directory is, and directories are made. A
write that finds no directory changes nothing; every other change puts a file at its place or makes
directories. So a store holds, for the components of a path, what was last put there under the
spelling under which something was first put there, and whatever is above a directory or a file it
holds is a directory.
-/
namespace PackageIndex.MemoryStore

inductive Change where
  /-- Adds a file and the directories above it. -/
  | file (path : Path) (text : String)
  | write (path : Path) (text : String)
  | directories (path : Path)
  deriving DecidableEq, Repr

namespace Change

def put? (store : MemoryStore) : Change → Option (Path × String)
  | .file path text => some (path, text)
  | .write path text =>
    match store.write path text with
    | .ok _ => some (path, text)
    | .error _ => none
  | .directories _ => none

/-- The store after the change; one that fails changes nothing. -/
def apply (store : MemoryStore) : Change → MemoryStore
  | .file path text => store.withFile path text
  | .write path text =>
    match store.write path text with
    | .ok after => after
    | .error _ => store
  | .directories path => store.addDirectories path

end Change

def after (store : MemoryStore) (changes : List Change) : MemoryStore :=
  changes.foldl Change.apply store

def puts (store : MemoryStore) : List Change → List (Path × String)
  | [] => []
  | change :: rest => (change.put? store).toList ++ puts (change.apply store) rest

/-- What each change keeps is kept by any number of them. -/
theorem after_keeps {P : MemoryStore → Prop}
    (step : ∀ store, P store → ∀ change : Change, P (change.apply store)) {store : MemoryStore}
    (holds : P store) (changes : List Change) : P (store.after changes) := by
  induction changes generalizing store with
  | nil => exact holds
  | cons change changes ih => exact ih (step store holds change)

/-! ## What one change does -/

/-- A write fails where there is no directory for it. -/
theorem write_eq (store : MemoryStore) (path : Path) (text : String) :
    store.write path text =
      if store.isHomeless path then .error (.storage path "Parent directory does not exist")
      else .ok { store with files := putFile path text store.files } := rfl

/-- Only what is put changes the files. -/
theorem files_apply (store : MemoryStore) (change : Change) :
    (change.apply store).files =
      (change.put? store).toList.foldl (fun files file => putFile file.1 file.2 files)
        store.files := by
  cases change with
  | file path text => exact files_withFile store path text
  | write path text =>
    rw [Change.apply, Change.put?, write_eq]
    cases store.isHomeless path <;> rfl
  | directories path => rfl

/-- The files are those that were put, one after the other. -/
theorem files_after (store : MemoryStore) (changes : List Change) :
    (store.after changes).files =
      (store.puts changes).foldl (fun files file => putFile file.1 file.2 files) store.files := by
  induction changes generalizing store with
  | nil => rfl
  | cons change changes ih =>
    rw [puts, List.foldl_append, ← files_apply]
    exact ih (change.apply store)

/-! ## What was put last, and what first -/

theorem content?_append (files more : List (Path × String)) (path : Path) :
    content? (files ++ more) path = (content? files path).or (content? more path) := by
  rw [content?, List.find?_append, Option.map_or]
  rfl

theorem content?_putFile (file : Path × String) (files : List (Path × String)) (path : Path) :
    content? (putFile file.1 file.2 files) path =
      (content? [file] path).or (content? files path) := by
  by_cases same : file.1.components = path.components
  · rw [content?_cons, if_pos same, content?, ← same, ← content?, content?_putFile_self]
    rfl
  · rw [content?_cons, if_neg same, content?_putFile_other (Ne.symm same)]
    rfl

/-- Of the files put at one place the last one counts. -/
theorem content?_foldl_putFile (puts files : List (Path × String)) (path : Path) :
    content? (puts.foldl (fun files file => putFile file.1 file.2 files) files) path =
      (content? puts.reverse path).or (content? files path) := by
  induction puts generalizing files with
  | nil => rfl
  | cons file puts ih =>
    rw [List.foldl_cons, ih, content?_putFile, List.reverse_cons, content?_append, Option.or_assoc]

/-- The spelling of the first file at the place of a path. -/
def spelling? (files : List (Path × String)) (path : Path) : Option Path :=
  (files.find? fun file => file.1.components = path.components).map Prod.fst

theorem spelling?_cons (file : Path × String) (files : List (Path × String)) (path : Path) :
    spelling? (file :: files) path =
      if file.1.components = path.components then some file.1 else spelling? files path := by
  by_cases h : file.1.components = path.components <;> simp [spelling?, h]

/-- No spelling is found just when no file has the components. -/
theorem spelling?_eq_none {files : List (Path × String)} {path : Path} :
    spelling? files path = none ↔ ∀ file ∈ files, file.1.components ≠ path.components := by
  simp [spelling?]

theorem ne_of_precedes {a b : List Component} (earlier : precedes a b = true) : a ≠ b := by
  rintro rfl
  rw [precedes_irrefl] at earlier
  cases earlier

/-- A file that is there keeps its spelling. -/
theorem spelling?_putFile {files : List (Path × String)} (ordered : Ordered files)
    (file : Path × String) (path : Path) :
    spelling? (putFile file.1 file.2 files) path =
      (spelling? files path).or (spelling? [file] path) := by
  induction files with
  | nil => rfl
  | cons first files ih =>
    obtain ⟨before, rest⟩ := List.pairwise_cons.mp ordered
    unfold putFile
    split
    · next same =>
      by_cases here : first.1.components = path.components
      · rw [spelling?_cons, spelling?_cons, if_pos here]
        rfl
      · rw [spelling?_cons, spelling?_cons, spelling?_cons file, if_neg here,
          if_neg (same ▸ here)]
        exact Option.or_none.symm
    · split
      · next earlier =>
        by_cases here : file.1.components = path.components
        · -- It goes before all that are there, so none of them is at its place.
          have later : ∀ other ∈ first :: files, other.1.components ≠ path.components := by
            rw [← here]
            refine List.forall_mem_cons.mpr ⟨(ne_of_precedes earlier).symm, fun other mem => ?_⟩
            exact (ne_of_precedes (precedes_trans earlier (before other mem))).symm
          rw [spelling?_cons, if_pos here, spelling?_eq_none.mpr later, spelling?_cons,
            if_pos here]
          rfl
        · rw [spelling?_cons, if_neg here, spelling?_cons file, if_neg here]
          exact Option.or_none.symm
      · rw [spelling?_cons, ih rest, spelling?_cons first files]
        split <;> rfl

/-- Of the files put at one place the first one is listed. -/
theorem spelling?_foldl_putFile (puts : List (Path × String)) {files : List (Path × String)}
    (ordered : Ordered files) (path : Path) :
    spelling? (puts.foldl (fun files file => putFile file.1 file.2 files) files) path =
      (spelling? files path).or (spelling? puts path) := by
  induction puts generalizing files with
  | nil => exact Option.or_none.symm
  | cons file puts ih =>
    have split : spelling? (file :: puts) path =
        (spelling? [file] path).or (spelling? puts path) := by
      rw [spelling?_cons, spelling?_cons]
      split <;> rfl
    rw [List.foldl_cons, ih (ordered_putFile _ _ ordered), spelling?_putFile ordered, split,
      Option.or_assoc]

/-- In order, the paths of the files are just the spellings found for them. -/
theorem mem_map_fst_iff {files : List (Path × String)} (ordered : Ordered files) {path : Path} :
    path ∈ files.map Prod.fst ↔ spelling? files path = some path := by
  induction files with
  | nil => simp [spelling?]
  | cons first files ih =>
    obtain ⟨before, rest⟩ := List.pairwise_cons.mp ordered
    rw [List.map_cons, List.mem_cons, spelling?_cons, ih rest]
    split
    · next here =>
      have later : spelling? files path = none := spelling?_eq_none.mpr fun other mem =>
        here ▸ (ne_of_precedes (before other mem)).symm
      rw [later, Option.some.injEq, eq_comm, or_iff_left (by simp)]
    · next elsewhere =>
      exact or_iff_right fun same => elsewhere (congrArg Path.components same.symm)

/-! ## Directories -/

/-- What is above a directory or a file of the store is a directory. -/
structure Housed (store : MemoryStore) : Prop where
  directories : ∀ directory ∈ store.directories, ∀ above, above ≠ [] → above <+: directory →
    above ∈ store.directories
  files : ∀ file ∈ store.files, ∀ above, above ≠ [] → above <+: file.1.components.dropLast →
    above ∈ store.directories

namespace Housed

variable {store : MemoryStore}

theorem empty : Housed empty := ⟨by simp [MemoryStore.empty], by simp [MemoryStore.empty]⟩

/-- Adding directories adds what is above them. -/
theorem addDirectories (housed : Housed store) (path : Path) :
    Housed (store.addDirectories path) := by
  constructor
  · intro directory mem above nonempty start
    rw [mem_addDirectories] at mem ⊢
    refine mem.imp (housed.directories directory · above nonempty start) fun mem => ?_
    exact mem_ancestry.mpr ⟨nonempty, start.trans (mem_ancestry.mp mem).2⟩
  · intro file mem above nonempty start
    exact mem_addDirectories.mpr (.inl (housed.files file mem above nonempty start))

/-- A path that is not homeless has only directories above it. -/
theorem above_of_home (housed : Housed store) {path : Path}
    (home : store.isHomeless path = false) {above : List Component} (nonempty : above ≠ [])
    (start : above <+: path.components.dropLast) : above ∈ store.directories := by
  unfold isHomeless at home
  cases parent : path.parent? with
  | none =>
    rw [Path.dropLast_components_of_parent?_eq_none parent] at start
    exact absurd (List.prefix_nil.mp start) nonempty
  | some directory =>
    rw [parent] at home
    rw [← Path.components_parent? parent] at start
    by_cases made : directory.components ∈ store.directories
    · exact housed.directories _ made above nonempty start
    · -- Only the empty path need not have been made, and it has nothing above it.
      have empty : directory.text = "" := by simpa [hasDirectory, made] using home
      obtain ⟨text⟩ := directory
      obtain rfl : text = "" := empty
      have nothing : (Path.mk "").components = [] := rfl
      rw [nothing] at start
      exact absurd (List.prefix_nil.mp start) nonempty

/-- A file that is not homeless has its directories already. -/
theorem putFile (housed : Housed store) {path : Path} (home : store.isHomeless path = false)
    (text : String) : Housed { store with files := putFile path text store.files } := by
  refine ⟨housed.directories, fun file mem above nonempty start => ?_⟩
  rcases mem_putFile mem with same | mem
  · exact housed.above_of_home home nonempty (same ▸ start)
  · exact housed.files file mem above nonempty start

theorem housing (housed : Housed store) (path : Path) : Housed (store.housing path) := by
  unfold MemoryStore.housing
  split
  · exact housed.addDirectories _
  · exact housed

/-- A change keeps what is above each file and directory. -/
theorem apply (housed : Housed store) (change : Change) : Housed (change.apply store) := by
  cases change with
  | file path text =>
    rw [Change.apply, withFile_eq_housing]
    exact (housed.housing path).putFile (isHomeless_housing path) text
  | write path text =>
    rw [Change.apply, write_eq]
    cases home : store.isHomeless path with
    | true => exact housed
    | false => exact housed.putFile home text
  | directories path => exact housed.addDirectories path

theorem after (housed : Housed store) (changes : List Change) : Housed (store.after changes) :=
  after_keeps (fun _ housed change => housed.apply change) housed changes

end Housed

theorem ordered_apply {store : MemoryStore} (ordered : Ordered store.files) (change : Change) :
    Ordered (change.apply store).files := by
  rw [files_apply]
  cases change.put? store with
  | none => exact ordered
  | some file => exact ordered_putFile _ _ ordered

/-- Files that are in order stay so. -/
theorem ordered_after {store : MemoryStore} (ordered : Ordered store.files)
    (changes : List Change) : Ordered (store.after changes).files :=
  after_keeps (P := fun store => Ordered store.files)
    (fun _ ordered change => ordered_apply ordered change) ordered changes

theorem directories_subset_apply (store : MemoryStore) (change : Change) :
    store.directories ⊆ (change.apply store).directories := by
  intro directory mem
  cases change with
  | file path text =>
    rw [Change.apply, withFile_eq_housing]
    unfold housing
    cases path.parent? with
    | none => exact mem
    | some parent => exact mem_addDirectories.mpr (.inl mem)
  | write path text =>
    rw [Change.apply, write_eq]
    cases store.isHomeless path <;> exact mem
  | directories path => exact mem_addDirectories.mpr (.inl mem)

/-- No directory is ever lost. -/
theorem directories_subset_after (store : MemoryStore) (changes : List Change) :
    store.directories ⊆ (store.after changes).directories := by
  intro directory mem
  have step : ∀ store : MemoryStore, directory ∈ store.directories →
      ∀ change : Change, directory ∈ (change.apply store).directories :=
    fun store mem change => directories_subset_apply store change mem
  exact after_keeps step mem changes

/-- A directory that was made at some time is there. -/
theorem hasDirectory_after {changes : List Change} {path : Path}
    (made : .directories path ∈ changes) (nonempty : path.text ≠ "") (store : MemoryStore) :
    (store.after changes).hasDirectory path = true := by
  induction changes generalizing store with
  | nil => cases made
  | cons change changes ih =>
    rcases List.mem_cons.mp made with rfl | made
    · have now : (store.addDirectories path).hasDirectory path = true :=
        hasDirectory_addDirectories nonempty
      rw [hasDirectory, decide_eq_true_iff] at now ⊢
      exact directories_subset_after _ changes now
    · exact ih made (Change.apply store change)

/-! ## The store that some changes make -/

theorem ordered_after_empty (changes : List Change) : Ordered (empty.after changes).files :=
  ordered_after (show Ordered empty.files from .nil) changes

/-- What is found is what was put there last. -/
theorem file?_after_empty (changes : List Change) (path : Path) :
    (empty.after changes).file? path = content? (empty.puts changes).reverse path := by
  rw [file?_eq, files_after, content?_foldl_putFile]
  exact Option.or_none

/-- A path is listed under its first spelling. -/
theorem mem_paths_after_empty {changes : List Change} {path : Path} :
    path ∈ (empty.after changes).paths ↔ spelling? (empty.puts changes) path = some path := by
  have none : Ordered empty.files := .nil
  rw [paths, mem_map_fst_iff (ordered_after_empty changes), files_after,
    spelling?_foldl_putFile _ none]
  exact Iff.rfl

/-- A file can be written where the directories above it have been made at some time. -/
theorem exists_write_eq_ok {changes : List Change} {path parent : Path}
    (above : path.parent? = some parent) (made : .directories parent ∈ changes)
    (store : MemoryStore) (text : String) :
    ∃ written, (store.after changes).write path text = .ok written := by
  have home : (store.after changes).isHomeless path = false := by
    unfold isHomeless
    rw [above]
    by_cases nonempty : parent.text = ""
    · simp [nonempty]
    · simp [hasDirectory_after made nonempty store]
  rw [write_eq, home]
  exact ⟨_, rfl⟩

/-- What a store holds is told by the changes that made it. At the components of a path is read what
was last put there, if something was; whatever is above a directory or a file is a directory, so
that a file can be written once the directory it is in has been made; and in a directory are listed,
each once and in order, the files below it that have the extension, as they were first spelled. -/
theorem after_tells_changes (changes : List Change) :
    let store := empty.after changes
    let puts := empty.puts changes
    (∀ parser path, (answer (.granting parser) (.read path)).run store =
      (match puts.reverse.find? fun file => file.1.components = path.components with
        | some file => .ok file.2
        | none => .error (.notFound path), store)) ∧
    (∀ directory ∈ store.directories, ∀ above, above ≠ [] → above <+: directory →
      above ∈ store.directories) ∧
    (∀ path ∈ store.paths, ∀ parent, path.parent? = some parent → parent.text ≠ "" →
      store.hasDirectory parent = true) ∧
    (∀ path parent, path.parent? = some parent → .directories parent ∈ changes →
      ∀ text, ∃ written, store.write path text = .ok written) ∧
    ∀ directory extension,
      (∀ path, path ∈ store.list directory extension ↔
        (puts.find? fun file => file.1.components = path.components).map Prod.fst = some path ∧
          directory.components <+: path.components ∧ path.extension? = some extension) ∧
      (store.list directory extension).Pairwise fun a b =>
        precedes a.components b.components = true := by
  intro store puts
  have housed : Housed store := Housed.empty.after changes
  refine ⟨fun parser path => ?_, housed.directories, fun path mem parent above nonempty => ?_,
    fun path parent above made text => exists_write_eq_ok above made empty text,
    fun directory extension => ⟨fun path => ?_, ?_⟩⟩
  · rw [answer_read, Setting.refuses_granting, if_neg Bool.false_ne_true, file?_after_empty,
      content?]
    cases puts.reverse.find? fun file => file.1.components = path.components <;> rfl
  · obtain ⟨file, stored, rfl⟩ := List.mem_map.mp mem
    rw [hasDirectory, decide_eq_true_iff]
    have start : parent.components <+: file.1.components.dropLast :=
      Path.components_parent? above ▸ List.prefix_refl _
    exact housed.files file stored _ (Path.components_ne_nil nonempty) start
  · rw [mem_list, mem_paths_after_empty, Path.isWithin_iff]
    exact Iff.rfl
  · exact (ordered_after_empty changes).list directory extension

/-- A write that comes too early is lost, and later ones meet one file under other spellings. -/
theorem after_tells_changes_respelled :
    let changes : List Change :=
      [.write ⟨"a/b/c.php"⟩ "early", .directories ⟨"a//b"⟩, .write ⟨"a/./b/c.php"⟩ "first",
        .file ⟨"a/d.php"⟩ "other", .write ⟨"a/b//c.php"⟩ "last"]
    let store := empty.after changes
    let beside : Path := ⟨"a//b/e.php"⟩
    beside.parent? = some ⟨"a//b"⟩ ∧ .directories ⟨"a//b"⟩ ∈ changes ∧
      (∃ written, store.write beside "new" = .ok written) ∧
      [Component.name "a"] ∈ store.directories ∧
      (answer (.granting fun _ => .ok []) (.read ⟨"a/b/c.php"⟩)).run store = (.ok "last", store) ∧
      (⟨"a/./b/c.php"⟩ : Path) ∈ store.list ⟨"a/."⟩ "php" := by
  intro changes store beside
  have parent : beside.parent? = some ⟨"a//b"⟩ := by decide
  have made : .directories ⟨"a//b"⟩ ∈ changes := by decide
  obtain ⟨reads, closed, -, writes, lists⟩ := after_tells_changes changes
  refine ⟨parent, made, writes beside _ parent made "new", ?_, ?_, ?_⟩
  · exact closed [.name "a", .name "b"] (by decide) _ (by decide) (by decide)
  · rw [reads]
    rfl
  · exact ((lists ⟨"a/."⟩ "php").1 _).mpr (by decide)

end PackageIndex.MemoryStore
