import PackageIndex.Proofs.Path
import PackageIndex.Store.Memory

/-!
# The files of a store

Putting a file into a store changes what is found at its own components and nothing else. Every
store that can come about keeps its files in strict order, so it holds one file for a list of
components.
-/
namespace PackageIndex.MemoryStore

/-- The file at a path, whatever the store has besides its files. -/
def content? (files : List (Path × String)) (path : Path) : Option String :=
  (files.find? fun file => file.1.components = path.components).map Prod.snd

theorem file?_eq (store : MemoryStore) (path : Path) :
    store.file? path = content? store.files path := rfl

/-- Paths with the same components lead to the same file. -/
theorem file?_of_components_eq {a b : Path} (same : a.components = b.components)
    (store : MemoryStore) : store.file? a = store.file? b := by
  rw [file?, file?, same]

theorem content?_cons (file : Path × String) (files : List (Path × String)) (path : Path) :
    content? (file :: files) path =
      if file.1.components = path.components then some file.2 else content? files path := by
  by_cases h : file.1.components = path.components <;> simp [content?, h]

/-- A file that is put is found. -/
theorem content?_putFile_self (path : Path) (text : String) (files : List (Path × String)) :
    content? (putFile path text files) path = some text := by
  induction files with
  | nil => simp [putFile, content?_cons]
  | cons file files ih =>
    unfold putFile
    split
    · next same => simp [content?_cons, same]
    · next other =>
      split
      · simp [content?_cons]
      · simp [content?_cons, other, ih]

/-- Elsewhere nothing changes. -/
theorem content?_putFile_other {path other : Path} (h : other.components ≠ path.components)
    (text : String) (files : List (Path × String)) :
    content? (putFile path text files) other = content? files other := by
  induction files with
  | nil => simp [putFile, Ne.symm h, content?]
  | cons file files ih =>
    unfold putFile
    split
    · next same => simp [content?_cons, same, Ne.symm h]
    · split
      · simp [content?_cons, Ne.symm h]
      · simp [content?_cons, ih]

/-- Of two files that are put at one place, the second one stays. -/
theorem putFile_putFile (path : Path) (first second : String) (files : List (Path × String)) :
    putFile path second (putFile path first files) = putFile path second files := by
  induction files with
  | nil => simp [putFile]
  | cons file files ih =>
    unfold putFile
    by_cases same : file.1.components = path.components
    · simp [putFile, same]
    · by_cases earlier : precedes path.components file.1.components = true
      · simp [putFile, same, earlier]
      · simp [putFile, same, earlier, ih]

/-- A file leaves those with another extension as they are. -/
theorem file?_putFile_of_extension {store after : MemoryStore} {path other : Path}
    {text extension : String} (puts : after.files = putFile path text store.files)
    (plain : path.extension? ≠ some extension) (extended : other.extension? = some extension) :
    after.file? other = store.file? other := by
  have apart : other.components ≠ path.components := by
    intro same
    rw [Path.extension?_congr same] at extended
    exact plain extended
  rw [file?_eq, puts, content?_putFile_other apart, file?_eq]

/-- A listing has the files below the directory that have the extension. -/
theorem mem_list {store : MemoryStore} {path directory : Path} {extension : String} :
    path ∈ store.list directory extension ↔
      path ∈ store.paths ∧ path.isWithin directory = true ∧ path.extension? = some extension := by
  rw [list, List.mem_filter, Bool.and_eq_true, decide_eq_true_iff]

/-! ## The order of the files -/

def Ordered (files : List (Path × String)) : Prop :=
  files.Pairwise fun a b => precedes a.1.components b.1.components = true

/-- Files in order are listed in order. -/
theorem Ordered.list {store : MemoryStore} (ordered : Ordered store.files) (directory : Path)
    (extension : String) :
    (store.list directory extension).Pairwise fun a b =>
      precedes a.components b.components = true := by
  have sorted : store.paths.Pairwise fun a b => precedes a.components b.components = true :=
    List.pairwise_map.mpr ordered
  exact sorted.filter _

theorem mem_putFile {path : Path} {text : String} {files : List (Path × String)}
    {file : Path × String} (h : file ∈ putFile path text files) :
    file.1.components = path.components ∨ file ∈ files := by
  induction files with
  | nil => simp_all [putFile]
  | cons first files ih =>
    unfold putFile at h
    split at h
    · next same =>
      rcases List.mem_cons.mp h with rfl | h
      · exact .inl same
      · exact .inr (List.mem_cons_of_mem _ h)
    · split at h
      · rcases List.mem_cons.mp h with rfl | h
        · exact .inl rfl
        · exact .inr h
      · rcases List.mem_cons.mp h with rfl | h
        · exact .inr (List.mem_cons_self ..)
        · exact (ih h).imp id (List.mem_cons_of_mem _)

/-- A file is put in its place among the others. -/
theorem ordered_putFile (path : Path) (text : String) {files : List (Path × String)}
    (ordered : Ordered files) : Ordered (putFile path text files) := by
  induction files with
  | nil => simp [Ordered, putFile]
  | cons first files ih =>
    obtain ⟨before, rest⟩ := List.pairwise_cons.mp ordered
    unfold putFile
    split
    · exact List.pairwise_cons.mpr ⟨before, rest⟩
    · next other =>
      split
      · next earlier =>
        refine List.pairwise_cons.mpr ⟨fun file mem => ?_, ordered⟩
        rcases List.mem_cons.mp mem with rfl | mem
        · exact earlier
        · exact precedes_trans earlier (before file mem)
      · next later =>
        refine List.pairwise_cons.mpr ⟨fun file mem => ?_, ih rest⟩
        rcases mem_putFile mem with same | mem
        · rw [same]
          exact (precedes_total other).resolve_right later
        · exact before file mem

/-- Files in order are determined by their members. -/
theorem eq_of_mem_iff {files others : List (Path × String)} (h : Ordered files)
    (h' : Ordered others) (same : ∀ file, file ∈ files ↔ file ∈ others) : files = others := by
  have irrefl : ∀ file : Path × String, precedes file.1.components file.1.components ≠ true := by
    simp [precedes_irrefl]
  have nodup (l : List (Path × String)) (hl : Ordered l) : l.Nodup := by
    refine List.Pairwise.imp (fun {a b} hab => ?_) hl
    rintro rfl
    exact irrefl a hab
  have perm : files.Perm others := (List.perm_ext_iff_of_nodup (nodup _ h) (nodup _ h')).mpr same
  exact perm.eq_of_pairwise
    (fun a b _ _ hab hba => absurd (precedes_trans hab hba) (irrefl a)) h h'

/-! ## Directories -/

/-- The ancestry of components are those they begin with. -/
theorem mem_ancestry {directory components : List Component} :
    directory ∈ ancestry components ↔ directory ≠ [] ∧ directory <+: components := by
  induction components generalizing directory with
  | nil => simp +contextual [ancestry]
  | cons first rest ih =>
    cases directory with
    | nil => simp [ancestry]
    | cons a directory =>
      simp only [ancestry, List.mem_cons, List.mem_map, List.cons.injEq, ne_eq, reduceCtorEq,
        not_false_eq_true, true_and, List.cons_prefix_cons]
      constructor
      · rintro (⟨rfl, rfl⟩ | ⟨d, mem, rfl, rfl⟩)
        · exact ⟨rfl, List.nil_prefix⟩
        · exact ⟨rfl, (ih.mp mem).2⟩
      · rintro ⟨rfl, h⟩
        by_cases empty : directory = []
        · exact .inl ⟨rfl, empty⟩
        · exact .inr ⟨directory, ih.mpr ⟨empty, h⟩, rfl, rfl⟩

/-- Adding a directory adds its ancestry. -/
theorem mem_addDirectories {store : MemoryStore} {path : Path} {directory : List Component} :
    directory ∈ (store.addDirectories path).directories ↔
      directory ∈ store.directories ∨ directory ∈ ancestry path.components := by
  have insertion (more done : List (List Component)) :
      directory ∈ more.foldl (fun done d => if d ∈ done then done else done ++ [d]) done ↔
        directory ∈ done ∨ directory ∈ more := by
    induction more generalizing done with
    | nil => simp
    | cons d more ih =>
      rw [List.foldl_cons, ih]
      split <;> grind
  exact insertion _ _

@[simp] theorem files_addDirectories (store : MemoryStore) (path : Path) :
    (store.addDirectories path).files = store.files := rfl

/-- A directory that was added is there. -/
theorem hasDirectory_addDirectories {store : MemoryStore} {path : Path} (h : path.text ≠ "") :
    (store.addDirectories path).hasDirectory path = true := by
  rw [hasDirectory, decide_eq_true_iff, mem_addDirectories, mem_ancestry]
  exact .inr ⟨Path.components_ne_nil h, List.prefix_refl _⟩

/-- Adding a file with its directories puts the file. -/
theorem files_withFile (store : MemoryStore) (path : Path) (text : String) :
    (store.withFile path text).files = putFile path text store.files := by
  unfold withFile
  cases path.parent? <;> rfl

/-- What is present is still so after a file has been added. -/
theorem isPresent_withFile {store : MemoryStore} {other : Path}
    (present : store.isPresent other = true) (path : Path) (text : String) :
    (store.withFile path text).isPresent other = true := by
  rw [isPresent, Bool.or_eq_true] at present ⊢
  refine present.imp (fun found => ?_) fun made => ?_
  · rw [file?_eq, files_withFile]
    by_cases same : other.components = path.components
    · rw [content?, same, ← content?, content?_putFile_self]
      rfl
    · rw [content?_putFile_other same, ← file?_eq, found]
  · unfold withFile
    cases path.parent? with
    | none => exact made
    | some directory =>
      rw [hasDirectory, decide_eq_true_iff] at made ⊢
      exact mem_addDirectories.mpr (.inl made)

/-- The stores that come about from files that are laid out and from requests that are answered. -/
inductive Reachable : MemoryStore → Prop where
  | empty : Reachable empty
  | withFile {store : MemoryStore} (path : Path) (text : String) :
    Reachable store → Reachable (store.withFile path text)
  | answer {store : MemoryStore} (setting : Setting) (request : Request) :
    Reachable store → Reachable ((answer setting request).run store).2

/-! ## Answers -/

section
variable (setting : Setting) (store : MemoryStore)

def refusal (access : Access) (path : Path) : Failure := .storage path ("denied " ++ access.text)

theorem run_access {α : Type} (kind : Access) (path : Path)
    (act : MemoryStore → Except Failure (α × MemoryStore)) :
    (access setting kind path act).run store =
      if setting.refuses kind path then (.error (refusal kind path), store)
      else match act store with
        | .ok (result, after) => (.ok result, after)
        | .error failure => (.error failure, store) := rfl

/-- A file is read if that is not refused and there is one. -/
theorem answer_read (path : Path) :
    (answer setting (.read path)).run store =
      (if setting.refuses .read path then .error (refusal .read path)
        else match store.file? path with
          | some text => .ok text
          | none => .error (.notFound path), store) := by
  rw [answer, run_access]
  by_cases refused : setting.refuses .read path = true
  · rw [if_pos refused, if_pos refused]
  · rw [if_neg refused, if_neg refused]
    cases store.file? path <;> rfl

theorem answer_list (directory : Path) (extension : String) :
    (answer setting (.list directory extension)).run store =
      (if setting.refuses .list directory then .error (refusal .list directory)
        else .ok (store.list directory extension), store) := by
  rw [answer, run_access]
  split <;> rfl

theorem answer_makeDirectories (path : Path) :
    (answer setting (.makeDirectories path)).run store =
      if setting.refuses .mkdir path then (.error (refusal .mkdir path), store)
      else (.ok (), store.addDirectories path) := by
  rw [answer, run_access]

/-- A file is written if that is not refused and there is a directory for it. -/
theorem answer_write (path : Path) (text : String) :
    (answer setting (.write path text)).run store =
      if setting.refuses .write path then (.error (refusal .write path), store)
      else if store.isHomeless path then
        (.error (.storage path "Parent directory does not exist"), store)
      else (.ok (), { store with files := putFile path text store.files }) := by
  rw [answer, run_access, write]
  by_cases homeless : store.isHomeless path = true
  · rw [if_pos homeless, if_pos homeless]; rfl
  · rw [if_neg homeless, if_neg homeless]; rfl

/-- Only a request to write touches the files, and it puts one. -/
theorem files_answer (request : Request) :
    ((answer setting request).run store).2.files = store.files ∨
      ∃ path text,
        ((answer setting request).run store).2.files = putFile path text store.files := by
  cases request with
  | isPresent path => exact .inl rfl
  | parse source => exact .inl rfl
  | read path => rw [answer_read]; exact .inl rfl
  | list directory extension => rw [answer_list]; exact .inl rfl
  | makeDirectories path =>
    rw [answer_makeDirectories]
    split <;> exact .inl rfl
  | write path text =>
    rw [answer_write]
    split
    · exact .inl rfl
    · split
      · exact .inl rfl
      · exact .inr ⟨path, text, rfl⟩

end

/-- In a store that can be reached the files are in order. -/
theorem Reachable.ordered {store : MemoryStore} (h : Reachable store) : Ordered store.files := by
  induction h with
  | empty => exact .nil
  | @withFile store path text _ ih =>
    rw [files_withFile]
    exact ordered_putFile path text ih
  | @answer store setting request _ ih =>
    rcases files_answer setting store request with h | ⟨path, text, h⟩
    · rw [h]; exact ih
    · rw [h]; exact ordered_putFile path text ih

end PackageIndex.MemoryStore
