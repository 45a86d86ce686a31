import PackageIndex.Proofs.Manifest
import PackageIndex.Proofs.Path.Parent
import PackageIndex.Proofs.RelativePath.Spelling

/-!
# Which texts are relative paths, and where they lead

A text is accepted by its pieces: none of them climbs, and behind the dots at the start there is no
empty one. What is kept of it is accepted again as it is, and below any base it leads down its steps
and nowhere else.
-/
namespace PackageIndex

namespace RelativePath

/-- The pieces without the dots at the start that have another piece behind them. -/
def dropDots : List String → List String
  | "." :: next :: rest => dropDots (next :: rest)
  | pieces => pieces

/-- Dropping `./` from the start of a text drops a dot from the start of its pieces. -/
theorem pieces_dropHere (text : List Char) :
    Text.pieces '/' (String.ofList (dropHere text)) =
      dropDots (Text.pieces '/' (String.ofList text)) := by
  fun_induction dropHere text with
  | case1 rest ih =>
    have split : String.ofList ('.' :: '/' :: rest) =
        "." ++ String.singleton '/' ++ String.ofList rest := by
      rw [← String.toList_inj]
      simp
    have dot : Text.pieces '/' "." = ["."] := Text.pieces_of_not_mem (by decide)
    rw [ih, split, Text.pieces_append, dot]
    obtain ⟨next, more, pieces⟩ :=
      List.exists_cons_of_ne_nil (Text.pieces_ne_nil '/' (String.ofList rest))
    rw [pieces]
    rfl
  | case2 text other =>
    have whole := Text.join_pieces '/' (String.ofList text)
    revert whole
    fun_cases dropDots (Text.pieces '/' (String.ofList text)) with
    | case1 next rest =>
      -- Joined, these pieces begin with a dot and a slash, and then the text would have been cut.
      intro whole
      rw [← String.toList_inj, Text.toList_join, String.toList_ofList] at whole
      simp only [List.map_cons, List.intercalate_cons_cons] at whole
      exact absurd whole.symm (other _)
    | case2 => exact fun _ => rfl

/-- Dots at the beginning do not make a text climb or keep it from climbing. -/
theorem mem_dropDots {pieces : List String} : ".." ∈ dropDots pieces ↔ ".." ∈ pieces := by
  fun_induction dropDots pieces with
  | case1 next rest ih => simp [ih]
  | case2 => exact Iff.rfl

/-- A dot that is left is the only piece. -/
theorem head?_dropDots {pieces : List String} :
    (dropDots pieces).head? = some "" ↔ (pieces.dropWhile (· = ".")).head? = some "" := by
  fun_induction dropDots pieces with
  | case1 next rest ih => simpa using ih
  | case2 pieces other =>
    cases pieces with
    | nil => exact Iff.rfl
    | cons first rest =>
      by_cases dot : first = "."
      · cases rest with
        | nil => simp [dot]
        | cons next rest => exact absurd (dot ▸ rfl) (other next rest)
      · simp [dot]

/-- The first piece is empty where nothing stands before a slash. -/
theorem head?_pieces_eq_empty {text : String} :
    (Text.pieces '/' text).head? = some "" ↔ text = "" ∨ text.toList.head? = some '/' := by
  obtain ⟨first, rest, pieces⟩ := List.exists_cons_of_ne_nil (Text.pieces_ne_nil '/' text)
  have slashless : '/' ∉ first.toList :=
    Text.not_mem_of_mem_pieces (pieces ▸ List.mem_cons_self ..)
  have absolute := Path.isAbsolute_join slashless rest
  rw [← pieces, Text.join_pieces, Path.isAbsolute, decide_eq_true_iff] at absolute
  rw [absolute, pieces, List.head?_cons, Option.some.injEq]
  constructor
  · rintro rfl
    cases rest with
    | nil => exact .inl (by rw [← Text.join_pieces '/' text, pieces, Text.join_singleton])
    | cons second rest => exact .inr ⟨rfl, by simp⟩
  · rintro (rfl | ⟨empty, -⟩)
    · rw [Text.pieces_empty] at pieces
      exact (List.cons.inj pieces).1.symm
    · exact empty

/-- What is kept of a text decides whether it is accepted. -/
theorem exists_parse_eq_ok {text : String} :
    (∃ file, parse text = .ok file) ↔
      (Text.pieces '/' (normalize text)).head? ≠ some "" ∧
        ".." ∉ Text.pieces '/' (normalize text) := by
  rw [Ne, head?_pieces_eq_empty, not_or]
  unfold parse
  constructor
  · rintro ⟨file, accepted⟩
    split at accepted
    · cases accepted
    · next nonempty =>
      split at accepted
      · cases accepted
      · next relative =>
        split at accepted
        · cases accepted
        · next descending => exact ⟨⟨nonempty, relative⟩, descending⟩
  · rintro ⟨⟨nonempty, relative⟩, descending⟩
    rw [dif_neg nonempty, dif_neg relative, dif_neg descending]
    exact ⟨_, rfl⟩

/-- The pieces of what is kept of a text. -/
theorem pieces_normalize (text : String) :
    Text.pieces '/' (normalize text) =
      dropDots (Text.pieces '/' (Text.replace '\\' '/' text)) := by
  rw [normalize, pieces_dropHere, String.ofList_toList]

/-- A text is accepted when no piece of it climbs and the first one behind the dots at its start is
not empty. What is kept of it is accepted as it is, also where it is decoded; and below a base it
leads to the components of the base and then down its pieces but the empty ones and the dots, the
same that the text has. None of them climbs or begins elsewhere. -/
theorem accepted_leads_down {base : Path} (nonempty : base.text ≠ "") :
    (∀ text, (∃ file, parse text = .ok file) ↔
      let pieces := Text.pieces '/' (Text.replace '\\' '/' text)
      (pieces.dropWhile (· = ".")).head? ≠ some "" ∧ ".." ∉ pieces) ∧
    ∀ text file, parse text = .ok file →
      let said := (Text.pieces '/' file.text).filter fun piece => !Path.isSpelling piece
      parse file.text = .ok file ∧
      Manifest.decodeFile (Json.Draft.ofValue (.string file.text)) = .ok file ∧
      said = steps text ∧
      (file.resolve base).components = base.components ++ said.map Component.name ∧
      ∀ piece ∈ said, piece ≠ ".." ∧ (Path.mk piece).isAbsolute = false := by
  refine ⟨fun text => ?_, fun text file accepted => ?_⟩
  · rw [exists_parse_eq_ok, pieces_normalize, mem_dropDots, Ne, head?_dropDots]
  · have same : steps file.text =
        (Text.pieces '/' file.text).filter fun piece => !Path.isSpelling piece := steps_text file
    refine ⟨parse_text file, Manifest.decodeFile_encode file, ?_, ?_, fun piece mem => ?_⟩
    · rw [← same, steps_of_parse accepted]
    · rw [components_resolve_steps file nonempty, same]
    · have among := List.mem_of_mem_filter mem
      refine ⟨?_, Path.isAbsolute_of_not_mem (Text.not_mem_of_mem_pieces among)⟩
      rintro rfl
      exact file.descending among

/-- Dots and a backslash at the start, an inner dot and a slash at the end, below a base that climbs
itself. -/
theorem accepted_leads_down_below_climbing_base :
    let base : Path := ⟨"../p/"⟩
    let file : RelativePath := ⟨"a//./b/", by decide, by decide, by decide, by decide⟩
    base.text ≠ "" ∧ parse "./.\\a//./b/" = .ok file ∧ parse file.text = .ok file ∧
      (file.resolve base).components = [.up, .name "p", .name "a", .name "b"] ∧
      ¬ ∃ file, parse ".//etc" = .ok file := by
  intro base file
  have nonempty : base.text ≠ "" := by decide
  have accepted : parse "./.\\a//./b/" = .ok file := by decide
  obtain ⟨accepts, leads⟩ := accepted_leads_down nonempty
  obtain ⟨again, -, -, down, -⟩ := leads _ file accepted
  refine ⟨nonempty, accepted, again, down.trans (by decide), ?_⟩
  rw [accepts]
  decide

end RelativePath

end PackageIndex
