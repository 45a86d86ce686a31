import PackageIndex.Manifest
import PackageIndex.Name.Package
import PackageIndex.Proofs.Json.Record

/-!
# Names, their segments and their texts

A name is a chain of identifiers, however it comes about: read, made of its segments, put into a
namespace, with the prefix of a package or without it, or decoded. It has one text, from which it is
read; and its namespace and its simple name make it up again.
-/
namespace PackageIndex

namespace Name

def IsChain (segments : List String) : Prop :=
  segments ≠ [] ∧ ∀ segment ∈ segments, isIdentifier segment = true

instance (segments : List String) : Decidable (IsChain segments) :=
  inferInstanceAs (Decidable (_ ∧ _))

/-- Why the segments of a text are no chain: the text is empty, or one of them is no identifier, and
the first of these is the one that is told. -/
inductive Broken : (segments : List String) → Fault → Prop
  | empty : Broken [""] (.badQualifiedName "" "name is empty")
  | segment {before after : List String} {bad : String}
    (identifiers : ∀ segment ∈ before, isIdentifier segment = true)
    (broken : isIdentifier bad = false) (more : before ++ bad :: after ≠ [""]) :
    Broken (before ++ bad :: after)
      (.badQualifiedName (Text.join '\\' (before ++ bad :: after))
        s!"segment '{bad}' is not an identifier")

end Name

namespace QualifiedName

open Name (IsChain Broken)

theorem isChain_segments (name : QualifiedName) : IsChain name.segments :=
  ⟨name.nonempty, List.all_eq_true.mp name.identifiers⟩

/-- A name is read from its own text and from no other. -/
theorem parse_eq_ok {text : String} {name : QualifiedName} :
    parse text = .ok name ↔ name.text = text := by
  constructor
  · intro parsed
    rw [QualifiedName.text, segments_of_parse parsed, Text.join_pieces]
  · rintro rfl
    exact parse_text name

/-- A name is told by its text. -/
theorem text_inj {a b : QualifiedName} : a.text = b.text ↔ a = b := by
  rw [← parse_eq_ok, parse_text, Except.ok.injEq, eq_comm]

/-- The texts of names are the qualified names. -/
theorem exists_text_eq {text : String} :
    (∃ name : QualifiedName, name.text = text) ↔ Name.isQualified text = true := by
  constructor
  · rintro ⟨name, rfl⟩
    rw [Name.isQualified, pieces_text]
    exact name.identifiers
  · intro qualified
    exact ⟨⟨Text.pieces Name.separator text, Text.pieces_ne_nil _ _, qualified⟩,
      Text.join_pieces _ _⟩

/-! ## How names come about -/

/-- Only a chain of segments is made a name, and all of it. -/
theorem ofSegments_eq_ok {segments : List String} {name : QualifiedName} :
    ofSegments segments = .ok name ↔ IsChain segments ∧ name.segments = segments := by
  constructor
  · intro made
    unfold ofSegments at made
    split at made
    · cases made
    · next nonempty =>
      split at made
      · next identifiers =>
        cases made
        exact ⟨⟨nonempty, List.all_eq_true.mp identifiers⟩, rfl⟩
      · cases made
  · rintro ⟨-, rfl⟩
    exact ofSegments_segments name

/-- The empty text is refused, though it would be refused for its only piece as well. -/
theorem parse_eq_ok_iff_pieces {text : String} {name : QualifiedName} :
    parse text = .ok name ↔
      IsChain (Text.pieces Name.separator text) ∧
        name.segments = Text.pieces Name.separator text := by
  rw [← ofSegments_eq_ok, parse]
  split
  · next empty =>
    have refused : ¬ IsChain [""] := by decide
    rw [empty, Text.pieces_empty, ofSegments_eq_ok]
    exact iff_of_false (by simp) fun made => refused made.1
  · exact Iff.rfl

/-- Of other segments the first that is no identifier is told. -/
theorem ofSegments_eq_error {segments : List String} (nonempty : segments ≠ [])
    (told : segments ≠ [""]) {fault : Fault} :
    ofSegments segments = .error fault ↔ Broken segments fault := by
  rw [ofSegments, dif_neg nonempty]
  constructor
  · intro refused
    split at refused
    · cases refused
    · next broken =>
      obtain ⟨bad, found⟩ : ∃ bad, segments.find? (fun segment => !Name.isIdentifier segment) =
          some bad := by
        simpa [← Option.isSome_iff_exists, List.find?_isSome] using broken
      cases refused
      obtain ⟨bad_broken, before, after, rfl, identifiers⟩ := List.find?_eq_some_iff_append.mp found
      rw [found, Option.getD_some]
      exact .segment (by simpa using identifiers) (by simpa using bad_broken) told
  · intro broken
    cases broken with
    | empty => exact absurd rfl told
    | @segment before after bad identifiers broken _ =>
      have found : (before ++ bad :: after).find? (fun segment => !Name.isIdentifier segment) =
          some bad :=
        List.find?_eq_some_iff_append.mpr
          ⟨by simp [broken], before, after, rfl, by simpa using identifiers⟩
      rw [dif_neg (by simp [broken]), found]
      rfl

/-- The fault of a text is that of its pieces. -/
theorem parse_eq_error {text : String} {fault : Fault} :
    parse text = .error fault ↔ Broken (Text.pieces Name.separator text) fault := by
  rw [parse]
  split
  · next empty =>
    subst empty
    rw [Text.pieces_empty]
    constructor
    · rintro ⟨⟩
      exact .empty
    · intro broken
      generalize blank : [""] = segments at broken
      cases broken with
      | empty => rfl
      | segment _ _ more => exact absurd blank.symm more
  · next nonempty =>
    refine ofSegments_eq_error (Text.pieces_ne_nil _ _) fun blank => nonempty ?_
    rw [← Text.join_pieces Name.separator text, blank, Text.join_singleton]

/-- The segments that a name is to have in a namespace. -/
def qualified (space simple : String) : List String :=
  (if space = "" then [] else Text.pieces Name.separator space) ++
    Text.pieces Name.separator simple

theorem qualify_eq_ok {space simple : String} {name : QualifiedName} :
    qualify space simple = .ok name ↔
      IsChain (qualified space simple) ∧ name.segments = qualified space simple := by
  unfold qualify qualified
  split
  · rw [List.nil_append, parse_eq_ok_iff_pieces]
  · rw [parse_eq_ok_iff_pieces, Text.pieces_append]

theorem qualify_eq_ok_iff_segments {space simple : String} {name : QualifiedName} :
    qualify space simple = .ok name ↔ name.segments = qualified space simple :=
  qualify_eq_ok.trans (and_iff_right_of_imp fun same => same ▸ name.isChain_segments)

/-- There is a name in a namespace just when the segments it is to have are a chain. -/
theorem exists_qualify_eq_ok {space simple : String} :
    (∃ name, qualify space simple = .ok name) ↔ IsChain (qualified space simple) := by
  constructor
  · rintro ⟨name, made⟩
    exact (qualify_eq_ok.mp made).1
  · intro chain
    exact ⟨⟨_, chain.1, List.all_eq_true.mpr chain.2⟩, qualify_eq_ok.mpr ⟨chain, rfl⟩⟩

/-- The fault of a name in a namespace is that of the segments it is to have. -/
theorem qualify_eq_error {space simple : String} {fault : Fault} :
    qualify space simple = .error fault ↔ Broken (qualified space simple) fault := by
  unfold qualify qualified
  split
  · rw [List.nil_append, parse_eq_error]
  · rw [parse_eq_error, Text.pieces_append]

/-- A name is decoded from its text alone. -/
theorem decodeClass_eq_ok {draft : Json.Draft} {name : QualifiedName} :
    Manifest.decodeClass draft = .ok name ↔ draft.toText = .ok name.text := by
  rw [Manifest.decodeClass, Json.bind_eq_ok]
  simp only [Manifest.rejecting_eq_ok, parse_eq_ok]
  exact exists_eq_right'

/-- What is left without a package is the chain behind its two segments. -/
theorem withoutPackage_eq_ok_iff {package : PackageName} {name inner : QualifiedName} :
    name.withoutPackage package = .ok inner ↔
      IsChain inner.segments ∧ name.segments = Name.root :: package.text :: inner.segments := by
  rw [withoutPackage_eq_ok, and_iff_right inner.isChain_segments]
  constructor
  · rintro rfl
    rfl
  · exact fun same => eq_of_segments same.symm

/-! ## A name and its parts -/

theorem segments_eq_concat (name : QualifiedName) :
    name.segments = name.segments.dropLast ++ [name.simpleName] :=
  (List.dropLast_concat_getLast name.nonempty).symm

/-- The namespace of a name has the segments before its simple name. -/
theorem qualified_space_simpleName (name : QualifiedName) :
    qualified name.space name.simpleName = name.segments := by
  have identifiers := name.isChain_segments.2
  have simple : Name.isIdentifier name.simpleName = true :=
    identifiers _ (List.getLast_mem name.nonempty)
  have above : ∀ segment ∈ name.segments.dropLast, Name.isIdentifier segment = true :=
    fun segment mem => identifiers segment (List.dropLast_subset _ mem)
  have space : (if name.space = "" then [] else Text.pieces Name.separator name.space) =
      name.segments.dropLast := by
    rw [QualifiedName.space]
    by_cases top : name.segments.dropLast = []
    · rw [top, Text.join_nil, if_pos rfl]
    · have back : Text.pieces Name.separator (Text.join Name.separator name.segments.dropLast) =
          name.segments.dropLast :=
        Text.pieces_join top fun segment mem =>
          Name.not_mem_of_isIdentifier (above segment mem) (by decide)
      split
      · next empty =>
        rw [empty, Text.pieces_empty] at back
        exact absurd (above "" (back ▸ List.mem_singleton_self "")) (by decide)
      · exact back
  rw [qualified, space, Text.pieces_of_not_mem (Name.not_mem_of_isIdentifier simple (by decide)),
    ← segments_eq_concat]

/-- The namespace of a name and its simple name make it up again. -/
theorem qualify_space_simpleName (name : QualifiedName) :
    qualify name.space name.simpleName = .ok name := by
  rw [qualify_eq_ok, qualified_space_simpleName]
  exact ⟨name.isChain_segments, rfl⟩

/-- A text is read as a name just when it is a qualified name, and is the text of that name alone.
However a name comes about, its segments are a chain: they are the pieces of a text, or the segments
that are given, or those of a namespace and a name, or those of a name with the two of the package
before them or without these. A chain that is given is read from its segments, joined; and there is
always a simple name, which the namespace before it qualifies to the whole. -/
theorem names_are_chains :
    (∀ text, (∃ name, parse text = .ok name) ↔ Name.isQualified text = true) ∧
    (∀ text name, parse text = .ok name ↔ name.text = text) ∧
    (∀ text name, parse text = .ok name ↔
      IsChain (Text.pieces Name.separator text) ∧
        name.segments = Text.pieces Name.separator text) ∧
    (∀ segments name, ofSegments segments = .ok name ↔
      IsChain segments ∧ name.segments = segments) ∧
    (∀ space simple name, qualify space simple = .ok name ↔
      IsChain (qualified space simple) ∧ name.segments = qualified space simple) ∧
    (∀ package name inner, withoutPackage package name = .ok inner ↔
      IsChain inner.segments ∧ name.segments = Name.root :: package.text :: inner.segments) ∧
    (∀ package name, IsChain (withPackage package name).segments ∧
      (withPackage package name).segments = Name.root :: package.text :: name.segments) ∧
    (∀ draft name, Manifest.decodeClass draft = .ok name ↔ draft.toText = .ok name.text) ∧
    (∀ segments name, ofSegments segments = .ok name →
      parse (Text.join Name.separator segments) = .ok name) ∧
    ∀ name, IsChain name.segments ∧ name.segments = name.segments.dropLast ++ [name.simpleName] ∧
      qualify name.space name.simpleName = .ok name := by
  refine ⟨fun text => ?_, fun _ _ => parse_eq_ok, fun _ _ => parse_eq_ok_iff_pieces,
    fun _ _ => ofSegments_eq_ok, fun _ _ _ => qualify_eq_ok, fun _ _ _ => withoutPackage_eq_ok_iff,
    fun package name => ⟨isChain_segments _, rfl⟩, fun _ _ => decodeClass_eq_ok,
    fun segments name made => ?_, fun name => ⟨name.isChain_segments, name.segments_eq_concat,
      name.qualify_space_simpleName⟩⟩
  · simp only [parse_eq_ok]
    exact exists_text_eq
  · rw [parse_eq_ok, ← (ofSegments_eq_ok.mp made).2]
    rfl

/-- Two segments are joined to the text they are read from. -/
theorem names_are_chains_two_segments :
    let name : QualifiedName := ⟨["_a", "B1"], by decide, by decide⟩
    ofSegments ["_a", "B1"] = .ok name ∧ parse "_a\\B1" = .ok name := by
  intro name
  obtain ⟨-, -, -, -, -, -, -, -, joined, -⟩ := names_are_chains
  have made : ofSegments ["_a", "B1"] = .ok name := by decide
  exact ⟨made, joined _ _ made⟩

end QualifiedName

end PackageIndex
