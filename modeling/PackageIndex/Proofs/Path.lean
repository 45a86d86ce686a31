import PackageIndex.RelativePath

/-!
# Components of paths

Joining a piece to a path adds at most one component at its end, so a relative path resolves to a
path below its base. Component lists are strictly ordered.
-/
namespace PackageIndex

namespace Path

/-- The component that the spelling before the pieces stands for. -/
def opening (path : Path) : List Component :=
  if path.isAbsolute then [.root] else if path.pieces.head? = some "." then [.here] else []

/-- The components of a path are what it opens with and what its pieces stand for. -/
theorem components_eq (path : Path) :
    path.components = path.opening ++ path.pieces.filterMap Component.ofPiece? := by
  have nonempty : path.pieces ≠ [] := Text.pieces_ne_nil '/' path.text
  unfold components opening
  split
  · next h => exact absurd h nonempty
  · next first rest h => simp [h]

theorem isAbsolute_of_not_mem {text : String} (h : '/' ∉ text.toList) :
    (Path.mk text).isAbsolute = false := by
  rw [isAbsolute, decide_eq_false_iff_not]
  intro first
  exact h (List.mem_of_mem_head? first)

theorem pieces_slash (text piece : String) (h : '/' ∉ piece.toList) :
    (Path.mk (text ++ "/" ++ piece)).pieces = (Path.mk text).pieces ++ [piece] := by
  have := Text.pieces_append '/' text piece
  rwa [Text.pieces_of_not_mem h] at this

theorem pieces_trailing (text : String) :
    (Path.mk (text ++ "/")).pieces = (Path.mk text).pieces ++ [""] := by
  have := pieces_slash text "" (by simp)
  rwa [String.append_empty] at this

theorem head?_pieces_append (text : String) (more : List String) :
    ((Path.mk text).pieces ++ more).head? = (Path.mk text).pieces.head? := by
  cases h : (Path.mk text).pieces with
  | nil => exact absurd h (Text.pieces_ne_nil _ _)
  | cons first rest => rfl

theorem opening_slash (text piece : String) (h : '/' ∉ piece.toList) :
    (Path.mk (text ++ "/" ++ piece)).opening = (Path.mk (text ++ "/")).opening := by
  have same : (Path.mk (text ++ "/" ++ piece)).isAbsolute = (Path.mk (text ++ "/")).isAbsolute := by
    cases h : text.toList <;> simp [isAbsolute, h]
  rw [opening, opening, same, pieces_slash _ _ h, pieces_trailing, head?_pieces_append,
    head?_pieces_append]

/-- A piece behind a slash adds what it stands for. -/
theorem components_slash (text piece : String) (h : '/' ∉ piece.toList) :
    (Path.mk (text ++ "/" ++ piece)).components =
      (Path.mk (text ++ "/")).components ++ (Component.ofPiece? piece).toList := by
  have blank : Component.ofPiece? "" = none := rfl
  rw [components_eq, components_eq, opening_slash _ _ h, pieces_slash _ _ h, pieces_trailing,
    List.filterMap_append, List.filterMap_append, List.append_assoc, List.append_assoc]
  cases hp : Component.ofPiece? piece <;> simp [hp, blank]

/-- A slash at the end of a text that is not empty is spelling only. -/
theorem components_trailing {text : String} (nonempty : text ≠ "") :
    (Path.mk (text ++ "/")).components = (Path.mk text).components := by
  have same : (Path.mk (text ++ "/")).isAbsolute = (Path.mk text).isAbsolute := by
    cases h : text.toList with
    | nil => exact absurd (String.toList_eq_nil_iff.mp h) nonempty
    | cons c rest => simp [isAbsolute, h]
  have blank : Component.ofPiece? "" = none := rfl
  rw [components_eq, components_eq, opening, opening, same, pieces_trailing, head?_pieces_append,
    List.filterMap_append]
  simp [blank]

/-- What is joined to a path that is not empty is not empty. -/
theorem text_join_ne_empty {base : Path} (nonempty : base.text ≠ "") {piece : String}
    (h : '/' ∉ piece.toList) : (base.join piece).text ≠ "" := by
  rw [join, isAbsolute_of_not_mem h, if_neg (by decide)]
  split <;> simp [nonempty]

/-- Joining a piece without slashes adds the component it stands for, if any. -/
theorem components_join {base : Path} (nonempty : base.text ≠ "") {piece : String}
    (h : '/' ∉ piece.toList) :
    (base.join piece).components = base.components ++ (Component.ofPiece? piece).toList := by
  rw [join, isAbsolute_of_not_mem h, if_neg (by decide)]
  split
  · next ends =>
    obtain ⟨start, hstart⟩ := List.getLast?_eq_some_iff.mp (ends.resolve_left nonempty)
    have text : base.text = String.ofList start ++ "/" := by
      rw [← String.toList_inj]
      simpa using hstart
    have := components_slash (String.ofList start) piece h
    rwa [← text] at this
  · rw [components_slash _ _ h, components_trailing nonempty]

/-- A path that says something has a component. -/
theorem components_ne_nil {path : Path} (nonempty : path.text ≠ "") : path.components ≠ [] := by
  rw [components_eq, opening]
  split
  · simp
  · next relative =>
    have text := Text.join_pieces '/' path.text
    rw [isAbsolute, decide_eq_true_iff] at relative
    cases hp : path.pieces with
    | nil => exact absurd hp (Text.pieces_ne_nil _ _)
    | cons first rest =>
      rw [pieces] at hp
      rw [hp] at text
      have spelled : first ≠ "" := by
        rintro rfl
        cases rest with
        | nil => exact nonempty (by simpa using text.symm)
        | cons second rest =>
          apply relative
          rw [← text, Text.toList_join]
          simp [List.intercalate_cons_cons]
      by_cases hdot : first = "."
      · simp [hdot]
      · by_cases hup : first = ".." <;> simp [Component.ofPiece?, spelled, hdot, hup]

/-- An extension belongs to the components of a path and not to its spelling. -/
theorem extension?_congr {a b : Path} (h : a.components = b.components) :
    a.extension? = b.extension? := by
  rw [extension?, fileName?, h, extension?, fileName?]

/-! ## Paths inside a directory -/

theorem dropComponents?_eq_some {start components rest : List Component} :
    dropComponents? start components = some rest ↔ components = start ++ rest := by
  induction start generalizing components with
  | nil => simp [dropComponents?]
  | cons a start ih =>
    cases components with
    | nil => simp [dropComponents?]
    | cons b components =>
      by_cases h : a = b
      · subst h; simp [dropComponents?, ih]
      · simp [dropComponents?, h, Ne.symm h]

/-- A path is inside a directory when its components begin with those of the directory. -/
theorem isWithin_iff {path directory : Path} :
    path.isWithin directory = true ↔ directory.components <+: path.components := by
  rw [isWithin, Option.isSome_iff_exists]
  constructor
  · rintro ⟨rest, h⟩
    exact ⟨rest, (dropComponents?_eq_some.mp h).symm⟩
  · rintro ⟨rest, h⟩
    exact ⟨rest, dropComponents?_eq_some.mpr h.symm⟩

theorem isWithin_self (path : Path) : path.isWithin path = true :=
  isWithin_iff.mpr (List.prefix_refl _)

/-- Where a path is belongs to its components. -/
theorem isWithin_of_components_eq {a b directory : Path} (h : a.components = b.components) :
    a.isWithin directory = b.isWithin directory := by
  rw [isWithin, isWithin, h]

/-- What is joined to a directory is inside it. -/
theorem isWithin_join {base : Path} (nonempty : base.text ≠ "") {piece : String}
    (h : '/' ∉ piece.toList) : (base.join piece).isWithin base = true :=
  isWithin_iff.mpr ⟨_, (components_join nonempty h).symm⟩

end Path

/-! ## Relative paths -/

/-- Pieces that are joined one by one add what they stand for. -/
theorem foldl_join {base : Path} (nonempty : base.text ≠ "") (pieces : List String)
    (h : ∀ piece ∈ pieces, '/' ∉ piece.toList) :
    (pieces.foldl Path.join base).components =
      base.components ++ pieces.filterMap Component.ofPiece? := by
  induction pieces generalizing base with
  | nil => simp
  | cons piece pieces ih =>
    have clean : '/' ∉ piece.toList := h piece (by simp)
    rw [List.foldl_cons, ih (Path.text_join_ne_empty nonempty clean) fun p hp => h p (by simp [hp]),
      Path.components_join nonempty clean, List.append_assoc]
    cases hp : Component.ofPiece? piece <;> simp [hp]

namespace RelativePath

/-- A relative path names the components of its pieces below the base. -/
theorem components_resolve (path : RelativePath) {base : Path} (nonempty : base.text ≠ "") :
    (path.resolve base).components =
      base.components ++ (Text.pieces '/' path.text).filterMap Component.ofPiece? :=
  foldl_join nonempty _ fun _ hp => Text.not_mem_of_mem_pieces hp

/-- A relative path leads nowhere but below its base. -/
theorem isWithin_resolve (path : RelativePath) {base : Path} (nonempty : base.text ≠ "") :
    (path.resolve base).isWithin base = true :=
  Path.isWithin_iff.mpr ⟨_, (path.components_resolve nonempty).symm⟩

end RelativePath

/-! ## The order of component lists -/

namespace Component

theorem precedes_irrefl (a : Component) : a.precedes a = false := by
  cases a <;> simp [precedes, Text.precedes_irrefl]

theorem precedes_trans {a b c : Component} (h : a.precedes b = true) (h' : b.precedes c = true) :
    a.precedes c = true := by
  cases a <;> cases b <;> cases c <;> simp_all [precedes, rank]
  exact Text.precedes_trans h h'

theorem precedes_total {a b : Component} (h : a ≠ b) :
    a.precedes b = true ∨ b.precedes a = true := by
  cases a <;> cases b <;> simp_all [precedes, rank]
  next a b => exact Text.precedes_total h

end Component

theorem precedes_irrefl (a : List Component) : precedes a a = false := by
  induction a with
  | nil => rfl
  | cons c a ih => simpa [precedes] using ih

/-- The first component in which two lists differ decides. -/
theorem precedes_cons {x y : Component} {a b : List Component} :
    precedes (x :: a) (y :: b) = true ↔
      x = y ∧ precedes a b = true ∨ x ≠ y ∧ x.precedes y = true := by
  by_cases h : x = y <;> simp [precedes, h]

theorem precedes_trans {a b c : List Component} (h : precedes a b = true)
    (h' : precedes b c = true) : precedes a c = true := by
  induction a generalizing b c with
  | nil => cases b <;> cases c <;> simp_all [precedes]
  | cons x a ih =>
    cases b with
    | nil => simp [precedes] at h
    | cons y b =>
      cases c with
      | nil => simp [precedes] at h'
      | cons z c =>
        rw [precedes_cons] at h h' ⊢
        rcases h with ⟨rfl, h⟩ | ⟨hxy, h⟩ <;> rcases h' with ⟨rfl, h'⟩ | ⟨hyz, h'⟩
        · exact .inl ⟨rfl, ih h h'⟩
        · exact .inr ⟨hyz, h'⟩
        · exact .inr ⟨hxy, h⟩
        · have hxz := Component.precedes_trans h h'
          refine .inr ⟨?_, hxz⟩
          rintro rfl
          simp [Component.precedes_irrefl] at hxz

theorem precedes_total {a b : List Component} (h : a ≠ b) :
    precedes a b = true ∨ precedes b a = true := by
  induction a generalizing b with
  | nil => cases b <;> simp_all [precedes]
  | cons x a ih =>
    cases b with
    | nil => simp [precedes]
    | cons y b =>
      rw [precedes_cons, precedes_cons]
      by_cases hxy : x = y
      · subst hxy
        exact (ih fun hab => h (by rw [hab])).imp (fun p => .inl ⟨rfl, p⟩) fun p => .inl ⟨rfl, p⟩
      · exact (Component.precedes_total hxy).imp (fun p => .inr ⟨hxy, p⟩)
          fun p => .inr ⟨Ne.symm hxy, p⟩

end PackageIndex
