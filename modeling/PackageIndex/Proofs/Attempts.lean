import Mathlib.Data.List.Forall2

/-!
# One attempt for each item

A list of attempts succeeds when each of them does, and its results stand to the items one by one;
otherwise it ends with the first that fails.
-/
namespace PackageIndex

section
variable {α β ε : Type} {f : α → Except ε β}

/-- A fault is that of the first item or, if this one has none, that of the rest. -/
theorem mapM_cons_eq_error {fault : ε} {a : α} {items : List α} :
    (a :: items).mapM f = .error fault ↔
      f a = .error fault ∨ (∃ b, f a = .ok b) ∧ items.mapM f = .error fault := by
  rw [List.mapM_cons]
  cases f a with
  | error fault => simp [bind, Except.bind]
  | ok b => cases items.mapM f <;> simp [bind, Except.bind, pure, Except.pure]

theorem mapM_cons_eq_ok {a : α} {items : List α} {results : List β} :
    (a :: items).mapM f = .ok results ↔
      ∃ b rest, f a = .ok b ∧ items.mapM f = .ok rest ∧ results = b :: rest := by
  rw [List.mapM_cons]
  cases f a with
  | error fault => simp [bind, Except.bind]
  | ok b => cases items.mapM f <;> simp [bind, Except.bind, pure, Except.pure, eq_comm]

/-- Results are those of the items, one by one. -/
theorem mapM_eq_ok_iff {items : List α} {results : List β} :
    items.mapM f = .ok results ↔ List.Forall₂ (fun a b => f a = .ok b) items results := by
  induction items generalizing results with
  | nil => simp [pure, Except.pure, eq_comm]
  | cons a items ih =>
    rw [mapM_cons_eq_ok, List.forall₂_cons_left_iff]
    simp only [ih, exists_and_left]

/-- There are results when every item has one. -/
theorem exists_mapM_eq_ok {items : List α} :
    (∃ results, items.mapM f = .ok results) ↔ ∀ a ∈ items, ∃ b, f a = .ok b := by
  induction items with
  | nil => simp [pure, Except.pure]
  | cons a items ih =>
    rw [List.forall_mem_cons, ← ih]
    simp only [mapM_cons_eq_ok]
    constructor
    · rintro ⟨_, b, rest, first, later, -⟩
      exact ⟨⟨b, first⟩, rest, later⟩
    · rintro ⟨⟨b, first⟩, rest, later⟩
      exact ⟨_, b, rest, first, later, rfl⟩

/-- The list ends with the fault of an item when all items before it succeed. -/
theorem mapM_append_cons_eq_error {before rest : List α} {a : α} {fault : ε}
    (fine : ∀ item ∈ before, ∃ b, f item = .ok b) (fails : f a = .error fault) :
    (before ++ a :: rest).mapM f = .error fault := by
  induction before with
  | nil => exact mapM_cons_eq_error.mpr (.inl fails)
  | cons item before ih =>
    obtain ⟨first, later⟩ := List.forall_mem_cons.mp fine
    exact mapM_cons_eq_error.mpr (.inr ⟨first, ih later⟩)

end

section
variable {α β : Type}

theorem mapM_eq_some_iff {f : α → Option β} {items : List α} {results : List β} :
    items.mapM f = some results ↔ List.Forall₂ (fun a b => f a = some b) items results := by
  induction items generalizing results with
  | nil => simp [eq_comm]
  | cons a items ih =>
    rw [List.mapM_cons, List.forall₂_cons_left_iff]
    simp only [Option.bind_eq_bind, Option.bind_eq_some_iff, Option.pure_def, Option.some.injEq,
      ih, exists_and_left, @eq_comm _ results]

variable {R : α → β → Prop} {items : List α} {results : List β}

theorem exists_mem_right (each : List.Forall₂ R items results) {a : α} (mem : a ∈ items) :
    ∃ b ∈ results, R a b := by
  induction each with
  | nil => cases mem
  | cons first _ ih =>
    rcases List.mem_cons.mp mem with rfl | mem
    · exact ⟨_, List.mem_cons_self .., first⟩
    · obtain ⟨b, among, related⟩ := ih mem
      exact ⟨b, List.mem_cons_of_mem _ among, related⟩

theorem exists_mem_left (each : List.Forall₂ R items results) {b : β} (mem : b ∈ results) :
    ∃ a ∈ items, R a b :=
  exists_mem_right each.flip mem

/-- Where the results of items tell what is looked for, the first item that has it stands where the
first such result does. -/
theorem find?_eq_findIdx?_bind {p : α → Bool} {q : β → Bool}
    (each : List.Forall₂ (fun a b => p a = q b) items results) :
    items.find? p = (results.findIdx? q).bind fun place => items[place]? := by
  induction each with
  | nil => rfl
  | @cons a b items results same _ ih =>
    rw [List.find?_cons, List.findIdx?_cons, same]
    cases q b with
    | true => rfl
    | false =>
      rw [ih]
      cases results.findIdx? q <;> rfl

end

end PackageIndex
