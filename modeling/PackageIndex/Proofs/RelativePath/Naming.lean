import PackageIndex.Proofs.RelativePath.Spelling

/-!
# Naming what a relative path resolves to

A relative path that is resolved against a base is called by its steps there: empty pieces and dots
are lost on the way, and a path without steps comes to the base itself, which has no name inside. A
path below the base has a name there that leads back to it, unless it climbs or a component of it
has a backslash. So resolving and naming undo each other on plain names and plain paths.
-/
namespace PackageIndex

namespace Text

theorem mem_toList_of_mem_pieces {separator c : Char} {text part : String}
    (mem : part ∈ pieces separator text) (h : c ∈ part.toList) : c ∈ text.toList := by
  rw [← join_pieces separator text, toList_join]
  generalize pieces separator text = parts at mem
  induction parts with
  | nil => cases mem
  | cons first parts ih =>
    cases parts with
    | nil =>
      rw [List.mem_singleton.mp mem] at h
      simpa using h
    | cons next parts =>
      rw [List.map_cons, List.map_cons, List.intercalate_cons_cons, List.mem_append,
        List.mem_append]
      rcases List.mem_cons.mp mem with rfl | mem
      · exact .inl (.inl h)
      · exact .inr (ih mem)

end Text

namespace RelativePath

/-- A piece of a path that says something, does not climb and is one piece however it is read. -/
structure IsStep (piece : String) : Prop where
  said : Path.isSpelling piece = false
  level : piece ≠ ".."
  slashless : '/' ∉ piece.toList
  unslashed : '\\' ∉ piece.toList

/-- Steps are accepted as they are. -/
theorem exists_parse_join {steps : List String} (moves : steps ≠ [])
    (each : ∀ step ∈ steps, IsStep step) :
    ∃ file, parse (Text.join '/' steps) = .ok file ∧ file.text = Text.join '/' steps := by
  have split : Text.pieces '/' (Text.join '/' steps) = steps :=
    Text.pieces_join moves fun step mem => (each step mem).slashless
  have spelled (piece : String) (spelling : Path.isSpelling piece = true) : piece ∉ steps := by
    intro mem
    rw [(each piece mem).said] at spelling
    cases spelling
  have blank : "" ∉ steps := spelled "" (by decide)
  have nonempty : Text.join '/' steps ≠ "" := by
    intro empty
    rw [empty, Text.pieces_empty] at split
    apply blank
    rw [← split]
    exact List.mem_cons_self ..
  have relative : (Text.join '/' steps).toList.head? ≠ some '/' := by
    intro absolute
    obtain ⟨rest, text⟩ := List.head?_eq_some_iff.mp absolute
    have text : Text.join '/' steps = "" ++ String.singleton '/' ++ String.ofList rest := by
      rw [← String.toList_inj, text]
      simp
    rw [text, Text.pieces_append, Text.pieces_empty] at split
    apply blank
    rw [← split]
    exact List.mem_cons_self ..
  have descending : ".." ∉ Text.pieces '/' (Text.join '/' steps) := by
    rw [split]
    exact fun mem => (each ".." mem).level rfl
  have normal : normalize (Text.join '/' steps) = Text.join '/' steps :=
    normalize_join (fun step mem => (each step mem).slashless)
      (fun step mem => (each step mem).unslashed) (spelled "." (by decide))
  let file : RelativePath := ⟨Text.join '/' steps, nonempty, relative, descending, normal⟩
  exact ⟨file, parse_text file, rfl⟩

/-! ## From a relative path -/

theorem isStep_of_mem_steps {file : RelativePath} {piece : String}
    (mem : piece ∈ steps file.text) : IsStep piece := by
  rw [steps_text, List.mem_filter] at mem
  obtain ⟨among, said⟩ := mem
  refine ⟨by simpa using said, ?_, Text.not_mem_of_mem_pieces among, fun backslash => ?_⟩
  · rintro rfl
    exact file.descending among
  · exact backslash_not_mem_normalize file.text
      (file.normal.symm ▸ Text.mem_toList_of_mem_pieces among backslash)

/-- Inside the base, a relative path is called by its steps. -/
theorem ofPackagePath_resolve (file : RelativePath) {base : Path} (nonempty : base.text ≠ "") :
    ofPackagePath base (file.resolve base) = parse (Text.join '/' (steps file.text)) := by
  have texts : ((steps file.text).map Component.name).map Component.text = steps file.text := by
    rw [List.map_map]
    exact List.map_id _
  rw [ofPackagePath, Path.dropComponents?_eq_some.mpr (components_resolve_steps file nonempty),
    Option.getD_some, texts]

/-- The place of a relative path is called by its steps, if it has any. -/
theorem exists_ofPackagePath_resolve {file : RelativePath} {base : Path}
    (nonempty : base.text ≠ "") (moves : steps file.text ≠ []) :
    ∃ called, ofPackagePath base (file.resolve base) = .ok called ∧
      called.text = Text.join '/' (steps file.text) := by
  rw [ofPackagePath_resolve file nonempty]
  exact exists_parse_join moves fun step mem => isStep_of_mem_steps mem

/-- Only the place of the base itself has no name below the base. -/
theorem ofPackagePath_resolve_eq_empty {file : RelativePath} {base : Path}
    (nonempty : base.text ≠ "") :
    ofPackagePath base (file.resolve base) = .error (.badRelativePath "" "path is empty") ↔
      steps file.text = [] := by
  constructor
  · intro refused
    by_contra moves
    obtain ⟨called, accepted, -⟩ := exists_ofPackagePath_resolve nonempty moves
    rw [accepted] at refused
    cases refused
  · intro none
    rw [ofPackagePath_resolve file nonempty, none]
    decide

/-! ## From a path below the base -/

theorem isStep_of_below {base path : Path} {below : List Component} (nonempty : base.text ≠ "")
    (whole : path.components = base.components ++ below) {component : Component}
    (mem : component ∈ below) (level : component ≠ .up) (plain : '\\' ∉ component.text.toList) :
    IsStep component.text := by
  have later : 1 ≤ base.components.length :=
    List.length_pos_iff.mpr (Path.components_ne_nil nonempty)
  have among : component ∈ path.components.drop base.components.length := by
    rwa [whole, List.drop_left]
  obtain ⟨piece, stands, reads⟩ := Path.piece_of_mem_drop later among
  have text := Component.text_of_ofPiece? reads
  rw [text] at plain ⊢
  refine ⟨?_, ?_, Text.not_mem_of_mem_pieces stands, plain⟩
  · rw [Bool.eq_false_iff]
    intro spelling
    have nothing : Component.ofPiece? piece = none := by
      rw [Component.ofPiece?, if_pos (by simpa [Path.isSpelling] using spelling)]
    rw [nothing] at reads
    cases reads
  · rintro rfl
    exact level (Option.some.inj reads).symm

/-- A path below a base leads back to its own place, if none of its components climbs or has a
backslash. -/
theorem resolve_ofPackagePath_of_below {base path : Path} {below : List Component}
    (nonempty : base.text ≠ "") (whole : path.components = base.components ++ below)
    (deeper : below ≠ [])
    (level : ∀ component ∈ below, component ≠ .up ∧ '\\' ∉ component.text.toList) :
    ∃ file, ofPackagePath base path = .ok file ∧
      (file.resolve base).components = path.components := by
  have moves : below.map Component.text ≠ [] := fun none => deeper (List.map_eq_nil_iff.mp none)
  obtain ⟨file, accepted, -⟩ := exists_parse_join moves <|
    List.forall_mem_map.mpr fun component mem =>
      isStep_of_below nonempty whole mem (level component mem).1 (level component mem).2
  have called : ofPackagePath base path = .ok file := by
    rw [ofPackagePath, Path.dropComponents?_eq_some.mpr whole, Option.getD_some, accepted]
  have within : path.isWithin base = true := Path.isWithin_iff.mpr ⟨below, whole.symm⟩
  have plain : Path.PlainBelow base path := by
    intro component mem
    rw [whole, List.drop_left] at mem
    exact (level component mem).2
  exact ⟨file, called, components_resolve_ofPackagePath nonempty within plain called⟩

/-- Resolving a relative path and naming it inside the base leaves its pieces without the empty ones
and the dots; so a plain path is named as it was, and one that has no other piece has no name.
Naming a path below the base and resolving it leads back, where no component climbs or has a
backslash. -/
theorem naming_undoes_resolving {base : Path} (nonempty : base.text ≠ "") :
    (∀ file : RelativePath,
      let said := (Text.pieces '/' file.text).filter fun piece => !Path.isSpelling piece
      let called := ofPackagePath base (file.resolve base)
      (called = .error (.badRelativePath "" "path is empty") ↔ said = []) ∧
      (said ≠ [] → ∃ plain, called = .ok plain ∧ plain.text = Text.join '/' said) ∧
      (file.Plain → called = .ok file)) ∧
    ∀ (path : Path) (below : List Component), path.components = base.components ++ below →
      below ≠ [] →
      (∀ component ∈ below, component ≠ .up ∧ '\\' ∉ component.text.toList) →
        ∃ file, ofPackagePath base path = .ok file ∧
          (file.resolve base).components = path.components := by
  refine ⟨fun file => ?_, fun path below => resolve_ofPackagePath_of_below nonempty⟩
  intro said called
  have same : said = steps file.text := (steps_text file).symm
  rw [same]
  refine ⟨ofPackagePath_resolve_eq_empty nonempty, exists_ofPackagePath_resolve nonempty,
    fun plain => ?_⟩
  have named : called = parse file.text := by
    rw [plain.text_eq, ← ofPackagePath_resolve file nonempty]
  rw [named, parse_text]

/-- The base begins with a dot, climbs and ends with two slashes. -/
theorem naming_undoes_resolving_from_climbing_base :
    let base : Path := ⟨"./p/../q//"⟩
    let spaced : RelativePath := ⟨"a//./b/", by decide, by decide, by decide, by decide⟩
    let plain : RelativePath := ⟨"a/b", by decide, by decide, by decide, by decide⟩
    let dot : RelativePath := ⟨".", by decide, by decide, by decide, by decide⟩
    let path : Path := ⟨"./p//../q/c/./d"⟩
    base.text ≠ "" ∧
      (∃ called, ofPackagePath base (spaced.resolve base) = .ok called ∧ called.text = "a/b") ∧
      ofPackagePath base (plain.resolve base) = .ok plain ∧
      ofPackagePath base (dot.resolve base) = .error (.badRelativePath "" "path is empty") ∧
      ∃ file, ofPackagePath base path = .ok file ∧
        (file.resolve base).components = path.components := by
  intro base spaced plain dot path
  have nonempty : base.text ≠ "" := by decide
  obtain ⟨inside, below⟩ := naming_undoes_resolving nonempty
  obtain ⟨called, accepted, text⟩ := (inside spaced).2.1 (by decide)
  exact ⟨nonempty, ⟨called, accepted, text.trans (by decide +kernel)⟩,
    (inside plain).2.2 (by decide), (inside dot).1.mpr (by decide),
    below path [.name "c", .name "d"] (by decide) (by decide) (by decide)⟩

end RelativePath

end PackageIndex
