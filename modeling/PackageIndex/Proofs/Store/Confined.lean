import PackageIndex.Proofs.Store.Perform

/-!
# Work that stays below a directory

Two stores can be alike below a directory and differ elsewhere. Work is confined to the directory
when it cannot tell such stores apart, leaves them alike, and changes no file elsewhere.
-/
namespace PackageIndex.MemoryStore

variable {α β : Type} {setting : Setting} {directory : Path}

/-- Below a directory two stores hold the same files, under the same spellings, and the same
directories. -/
structure AgreeBelow (directory : Path) (s t : MemoryStore) : Prop where
  files : ∀ file : Path × String, file.1.isWithin directory = true →
    (file ∈ s.files ↔ file ∈ t.files)
  directories : ∀ inner, directory.components <+: inner →
    (inner ∈ s.directories ↔ inner ∈ t.directories)

def below (directory : Path) (files : List (Path × String)) : List (Path × String) :=
  files.filter fun file => file.1.isWithin directory

def beyond (directory : Path) (files : List (Path × String)) : List (Path × String) :=
  files.filter fun file => !file.1.isWithin directory

theorem below_cons (file : Path × String) (files : List (Path × String)) :
    below directory (file :: files) =
      if file.1.isWithin directory then file :: below directory files else below directory files :=
  List.filter_cons

theorem beyond_cons (file : Path × String) (files : List (Path × String)) :
    beyond directory (file :: files) =
      if file.1.isWithin directory then beyond directory files
      else file :: beyond directory files := by
  cases inside : file.1.isWithin directory <;> simp [beyond, inside]

theorem mem_below {files : List (Path × String)} {file : Path × String} :
    file ∈ below directory files ↔ file ∈ files ∧ file.1.isWithin directory = true := by
  rw [below, List.mem_filter]

theorem mem_beyond {files : List (Path × String)} {file : Path × String} :
    file ∈ beyond directory files ↔ file ∈ files ∧ file.1.isWithin directory = false := by
  rw [beyond, List.mem_filter, Bool.not_eq_true']

/-- The files below a directory stay in order. -/
theorem ordered_below {files : List (Path × String)} (ordered : Ordered files) :
    Ordered (below directory files) :=
  List.Pairwise.filter _ ordered

/-- Below a directory is found what is found in the store. -/
theorem content?_below {path : Path} (inside : path.isWithin directory = true)
    (files : List (Path × String)) :
    content? (below directory files) path = content? files path := by
  induction files with
  | nil => rfl
  | cons file files ih =>
    rw [below_cons, content?_cons, ← ih]
    by_cases same : file.1.components = path.components
    · have also : file.1.isWithin directory = true := by
        rw [Path.isWithin_of_components_eq same, inside]
      rw [if_pos also, if_pos same, content?_cons, if_pos same]
    · rw [if_neg same]
      split
      · rw [content?_cons, if_neg same]
      · rfl

/-- A listing looks at the files below its directory alone. -/
theorem list_eq_below (store : MemoryStore) (directory : Path) (extension : String) :
    store.list directory extension =
      ((below directory store.files).map Prod.fst).filter fun path =>
        path.extension? = some extension := by
  rw [list, paths, below, List.filter_map, List.filter_map, List.filter_filter]
  congr 1
  apply List.filter_congr
  intro file _
  exact Bool.and_comm _ _

/-! ## Putting a file below the directory -/

/-- A file that comes before all others is put first. -/
theorem putFile_of_before {path : Path} {text : String} {files : List (Path × String)}
    (before : ∀ file ∈ files, precedes path.components file.1.components = true) :
    putFile path text files = (path, text) :: files := by
  cases files with
  | nil => rfl
  | cons first files =>
    have earlier := before first (List.mem_cons_self ..)
    have other : first.1.components ≠ path.components := by
      intro same
      rw [same, precedes_irrefl] at earlier
      cases earlier
    rw [putFile, if_neg other, if_pos earlier]

/-- A file put below a directory is put among the files there. -/
theorem below_putFile {path : Path} (inside : path.isWithin directory = true) (text : String)
    {files : List (Path × String)} (ordered : Ordered files) :
    below directory (putFile path text files) = putFile path text (below directory files) := by
  induction files with
  | nil => rw [putFile, below_cons, if_pos inside]; rfl
  | cons first files ih =>
    obtain ⟨before, rest⟩ := List.pairwise_cons.mp ordered
    rw [putFile, below_cons first]
    by_cases same : first.1.components = path.components
    · have also : first.1.isWithin directory = true := by
        rw [Path.isWithin_of_components_eq same, inside]
      rw [if_pos same, below_cons, if_pos also, if_pos also, putFile, if_pos same]
    · rw [if_neg same]
      by_cases earlier : precedes path.components first.1.components = true
      · rw [if_pos earlier, below_cons, if_pos inside, ← below_cons first, putFile_of_before]
        intro file mem
        rcases List.mem_cons.mp (mem_below.mp mem).1 with rfl | mem
        · exact earlier
        · exact precedes_trans earlier (before file mem)
      · rw [if_neg earlier, below_cons, ih rest]
        split
        · rw [putFile, if_neg same, if_neg earlier]
        · rfl

/-- A file that is put below leaves the files beyond as they are. -/
theorem beyond_putFile {path : Path} (inside : path.isWithin directory = true) (text : String)
    (files : List (Path × String)) :
    beyond directory (putFile path text files) = beyond directory files := by
  induction files with
  | nil => rw [putFile, beyond_cons, if_pos inside]
  | cons first files ih =>
    rw [putFile]
    by_cases same : first.1.components = path.components
    · have also : first.1.isWithin directory = true := by
        rw [Path.isWithin_of_components_eq same, inside]
      rw [if_pos same, beyond_cons, beyond_cons, if_pos also, if_pos also]
    · rw [if_neg same]
      by_cases earlier : precedes path.components first.1.components = true
      · rw [if_pos earlier, beyond_cons, if_pos inside]
      · rw [if_neg earlier, beyond_cons, beyond_cons first, ih]

/-! ## Stores that cannot be told apart from below -/

structure Twins (directory : Path) (s t : MemoryStore) : Prop where
  left : Ordered s.files
  right : Ordered t.files
  agree : AgreeBelow directory s t

namespace Twins

variable {s t : MemoryStore}

/-- Twins have the same files below the directory. -/
theorem below_eq (twins : Twins directory s t) :
    below directory s.files = below directory t.files := by
  refine eq_of_mem_iff (ordered_below twins.left) (ordered_below twins.right) fun file => ?_
  rw [mem_below, mem_below]
  constructor
  · rintro ⟨mem, inside⟩
    exact ⟨(twins.agree.files file inside).mp mem, inside⟩
  · rintro ⟨mem, inside⟩
    exact ⟨(twins.agree.files file inside).mpr mem, inside⟩

theorem file?_eq (twins : Twins directory s t) {path : Path}
    (inside : path.isWithin directory = true) : s.file? path = t.file? path := by
  rw [MemoryStore.file?_eq, MemoryStore.file?_eq, ← content?_below inside, twins.below_eq,
    content?_below inside]

theorem isPresent_eq (twins : Twins directory s t) {path : Path}
    (inside : path.isWithin directory = true) : s.isPresent path = t.isPresent path := by
  have made := twins.agree.directories path.components (Path.isWithin_iff.mp inside)
  rw [isPresent, isPresent, twins.file?_eq inside, hasDirectory, hasDirectory,
    decide_eq_decide.mpr made]

theorem list_eq (twins : Twins directory s t) (extension : String) :
    s.list directory extension = t.list directory extension := by
  rw [list_eq_below, list_eq_below, twins.below_eq]

/-- Directories that are added to both leave them twins. -/
theorem addDirectories (twins : Twins directory s t) (path : Path) :
    Twins directory (s.addDirectories path) (t.addDirectories path) where
  left := twins.left
  right := twins.right
  agree := by
    refine ⟨twins.agree.files, fun inner inside => ?_⟩
    rw [mem_addDirectories, mem_addDirectories, twins.agree.directories inner inside]

theorem housing (twins : Twins directory s t) (path : Path) :
    Twins directory (s.housing path) (t.housing path) := by
  unfold MemoryStore.housing
  cases path.parent? with
  | none => exact twins
  | some parent => exact twins.addDirectories parent

/-- Twins that one file is put into are twins. -/
theorem putFile (twins : Twins directory s t) {path : Path}
    (inside : path.isWithin directory = true) (text : String) :
    Twins directory { s with files := putFile path text s.files }
      { t with files := MemoryStore.putFile path text t.files } where
  left := ordered_putFile path text twins.left
  right := ordered_putFile path text twins.right
  agree := by
    refine ⟨fun file within => ?_, twins.agree.directories⟩
    have same : below directory (MemoryStore.putFile path text s.files) =
        below directory (MemoryStore.putFile path text t.files) := by
      rw [below_putFile inside text twins.left, below_putFile inside text twins.right,
        twins.below_eq]
    have mem : file ∈ below directory (MemoryStore.putFile path text s.files) ↔
        file ∈ below directory (MemoryStore.putFile path text t.files) := by rw [same]
    rw [mem_below, mem_below] at mem
    constructor
    · exact fun h => (mem.mp ⟨h, within⟩).1
    · exact fun h => (mem.mpr ⟨h, within⟩).1

end Twins

/-! ## The judgement -/

/-- The work cannot tell stores apart that agree below the directory, leaves them in agreement, and
changes no file elsewhere; what it gives is as told. -/
structure Confined (setting : Setting) (directory : Path) (work : Work α) (result : α → Prop) :
    Prop where
  alike : ∀ s t, Twins directory s t → (perform setting work s).1 = (perform setting work t).1
  agrees : ∀ s t, Twins directory s t →
    Twins directory (perform setting work s).2 (perform setting work t).2
  keeps : ∀ s, beyond directory (perform setting work s).2.files = beyond directory s.files
  gives : ∀ s a, (perform setting work s).1 = .ok a → result a

namespace Confined

variable {work : Work α} {next : α → Work β} {P : α → Prop} {Q : β → Prop}

/-- Work that leaves every store as it is has only its answer to account for. -/
theorem of_kept (kept : ∀ s, (perform setting work s).2 = s)
    (alike : ∀ s t, Twins directory s t → (perform setting work s).1 = (perform setting work t).1)
    (gives : ∀ s a, (perform setting work s).1 = .ok a → P a) :
    Confined setting directory work P where
  alike := alike
  agrees s t twins := by rw [kept, kept]; exact twins
  keeps s := by rw [kept]
  gives := gives

/-- Work that is confined goes on as confined work. -/
theorem bind (h : Confined setting directory work P)
    (then_ : ∀ a, P a → Confined setting directory (next a) Q) :
    Confined setting directory (work >>= next) Q := by
  constructor
  · intro s t twins
    have same := h.alike s t twins
    cases first : (perform setting work s).1 with
    | error failure =>
      rw [perform_bind_error next first, perform_bind_error next (same.symm.trans first)]
    | ok a =>
      rw [perform_bind_ok next first, perform_bind_ok next (same.symm.trans first)]
      exact (then_ a (h.gives s a first)).alike _ _ (h.agrees s t twins)
  · intro s t twins
    have same := h.alike s t twins
    cases first : (perform setting work s).1 with
    | error failure =>
      rw [perform_bind_error next first, perform_bind_error next (same.symm.trans first)]
      exact h.agrees s t twins
    | ok a =>
      rw [perform_bind_ok next first, perform_bind_ok next (same.symm.trans first)]
      exact (then_ a (h.gives s a first)).agrees _ _ (h.agrees s t twins)
  · intro s
    cases first : (perform setting work s).1 with
    | error failure => rw [perform_bind_error next first]; exact h.keeps s
    | ok a =>
      rw [perform_bind_ok next first, (then_ a (h.gives s a first)).keeps]
      exact h.keeps s
  · intro s b hb
    cases first : (perform setting work s).1 with
    | error failure => rw [perform_bind_error next first] at hb; cases hb
    | ok a =>
      rw [perform_bind_ok next first] at hb
      exact (then_ a (h.gives s a first)).gives _ b hb

/-- A failure tells nothing of what is beyond either. -/
theorem rescue {handle : Failure → Work α} (h : Confined setting directory work P)
    (else_ : ∀ failure, Confined setting directory (handle failure) P) :
    Confined setting directory (tryCatch work handle) P := by
  constructor
  · intro s t twins
    have same := h.alike s t twins
    cases first : (perform setting work s).1 with
    | ok a =>
      rw [perform_tryCatch_ok handle first, perform_tryCatch_ok handle (same.symm.trans first),
        same]
    | error failure =>
      rw [perform_tryCatch_error handle first,
        perform_tryCatch_error handle (same.symm.trans first)]
      exact (else_ failure).alike _ _ (h.agrees s t twins)
  · intro s t twins
    have same := h.alike s t twins
    cases first : (perform setting work s).1 with
    | ok a =>
      rw [perform_tryCatch_ok handle first, perform_tryCatch_ok handle (same.symm.trans first)]
      exact h.agrees s t twins
    | error failure =>
      rw [perform_tryCatch_error handle first,
        perform_tryCatch_error handle (same.symm.trans first)]
      exact (else_ failure).agrees _ _ (h.agrees s t twins)
  · intro s
    cases first : (perform setting work s).1 with
    | ok a => rw [perform_tryCatch_ok handle first]; exact h.keeps s
    | error failure =>
      rw [perform_tryCatch_error handle first, (else_ failure).keeps]
      exact h.keeps s
  · intro s a ha
    cases first : (perform setting work s).1 with
    | ok b => rw [perform_tryCatch_ok handle first] at ha; exact h.gives s a ha
    | error failure =>
      rw [perform_tryCatch_error handle first] at ha
      exact (else_ failure).gives _ a ha

theorem pure {a : α} (h : P a) : Confined setting directory (pure a) P :=
  of_kept (fun _ => rfl) (fun _ _ _ => rfl) fun _ b hb => by cases hb; exact h

theorem fail (failure : Failure) : Confined setting directory (Work.fail failure) P :=
  of_kept (fun _ => rfl) (fun _ _ _ => rfl) fun _ b hb => by cases hb

theorem note (event : Event) : Confined setting directory (Work.note event) fun _ => True :=
  of_kept (fun _ => rfl) (fun _ _ _ => rfl) fun _ _ _ => trivial

theorem lift (result : Except Fault α) :
    Confined setting directory (Work.lift result) fun _ => True :=
  of_kept (fun _ => rfl) (fun _ _ _ => rfl) fun _ _ _ => trivial

theorem parse (source : String) :
    Confined setting directory (ExceptT.lift (Work.ask (.parse source))) fun _ => True :=
  of_kept (fun _ => rfl) (fun _ _ _ => rfl) fun _ _ _ => trivial

/-- Asking for what is inside tells of nothing beyond. -/
theorem isPresent {path : Path} (inside : path.isWithin directory = true) :
    Confined setting directory (Work.isPresent path) fun _ => True := by
  refine of_kept (fun _ => rfl) (fun s t twins => ?_) fun _ _ _ => trivial
  rw [perform_isPresent, perform_isPresent, twins.isPresent_eq inside]

/-- Reading what is inside does not either. -/
theorem read {path : Path} (inside : path.isWithin directory = true) :
    Confined setting directory (Work.read path) fun _ => True := by
  refine of_kept (fun s => by rw [perform_read]) (fun s t twins => ?_) fun _ _ _ => trivial
  rw [perform_read, perform_read, twins.file?_eq inside]

/-- Listing the directory itself lists only what is below it. -/
theorem list (extension : String) :
    Confined setting directory (Work.list directory extension) fun files =>
      ∀ path ∈ files, path.isWithin directory = true := by
  refine of_kept (fun s => by rw [perform_list]) (fun s t twins => ?_) fun s files h path mem => ?_
  · rw [perform_list, perform_list, twins.list_eq]
  · rw [perform_list] at h
    dsimp only at h
    split at h
    · cases h
    · cases h
      rw [MemoryStore.list, List.mem_filter, Bool.and_eq_true] at mem
      exact mem.2.1

/-- Storing a document makes its directory wherever that is, and puts one file. -/
theorem store {path : Path} (inside : path.isWithin directory = true) (text : String) :
    Confined setting directory (Work.store path text) fun _ => True := by
  constructor
  · intro s t twins
    rw [perform_store, perform_store]
    cases unhoused? setting path with
    | some failure => rfl
    | none => dsimp only; split <;> rfl
  · intro s t twins
    rw [perform_store, perform_store]
    cases unhoused? setting path with
    | some failure => exact twins
    | none =>
      have housed := twins.housing path
      dsimp only
      split
      · exact housed
      · have put := housed.putFile inside text
        rwa [files_housing, files_housing] at put
  · intro s
    rw [perform_store]
    cases unhoused? setting path with
    | some failure => rfl
    | none =>
      dsimp only
      split
      · rw [files_housing]
      · exact beyond_putFile inside text s.files
  · exact fun _ _ _ => trivial

end Confined

end PackageIndex.MemoryStore
