import Mathlib.Data.List.Basic
import PackageIndex.Proofs.Path

/-!
# What a path is called inside a directory

A relative path is written with slashes alone, so a component that has a backslash in it is read as
two. A path below a directory whose components have none keeps them all: what it is called inside
the directory leads back to it.
-/
namespace PackageIndex

namespace Component

theorem text_of_ofPiece? {piece : String} {component : Component}
    (h : ofPiece? piece = some component) : component.text = piece := by
  unfold ofPiece? at h
  split at h
  · cases h
  · split at h
    · next up => cases h; exact up.symm
    · cases h; rfl

end Component

namespace Path

variable {directory path : Path}

/-- Below the directory, no component of the path has a backslash in it. -/
def PlainBelow (directory path : Path) : Prop :=
  ∀ component ∈ path.components.drop directory.components.length, '\\' ∉ component.text.toList

instance : Decidable (PlainBelow directory path) :=
  inferInstanceAs (Decidable (∀ component ∈ _, _))

theorem length_opening (path : Path) : path.opening.length ≤ 1 := by
  unfold opening
  split
  · exact Nat.le_refl 1
  · split
    · exact Nat.le_refl 1
    · exact Nat.zero_le 1

/-- Only the first component of a path can stand for something else than a piece of it. -/
theorem piece_of_mem_drop {n : Nat} (later : 1 ≤ n) {component : Component}
    (mem : component ∈ path.components.drop n) :
    ∃ piece ∈ path.pieces, Component.ofPiece? piece = some component := by
  have opened : path.opening.drop n = [] :=
    List.drop_eq_nil_of_le (Nat.le_trans path.length_opening later)
  rw [components_eq, List.drop_append, opened, List.nil_append] at mem
  exact List.mem_filterMap.mp (List.mem_of_mem_drop mem)

end Path

namespace RelativePath

theorem text_of_parse {path : String} {file : RelativePath} (parsed : parse path = .ok file) :
    file.text = normalize path := by
  unfold parse at parsed
  split at parsed
  · cases parsed
  · split at parsed
    · cases parsed
    · split at parsed
      · cases parsed
      · rw [← Except.ok.inj parsed]

/-- Pieces that say something and have no backslash are kept as they are. -/
theorem normalize_join {pieces : List String}
    (slashless : ∀ piece ∈ pieces, '/' ∉ piece.toList)
    (plain : ∀ piece ∈ pieces, '\\' ∉ piece.toList) (spelled : "." ∉ pieces) :
    normalize (Text.join '/' pieces) = Text.join '/' pieces := by
  have slashed : '\\' ∉ (Text.join '/' pieces).toList := by
    intro mem
    rcases Text.mem_toList_join mem with same | ⟨piece, among, mem⟩
    · exact absurd same (by decide)
    · exact plain piece among mem
  rw [normalize, Text.replace_of_not_mem slashed, dropHere_of_not_here, String.ofList_toList]
  intro rest here
  have text : Text.join '/' pieces = "." ++ String.singleton '/' ++ String.ofList rest := by
    rw [← String.toList_inj, here]
    simp
  have nonempty : pieces ≠ [] := by
    rintro rfl
    simp at here
  have split := Text.pieces_join nonempty slashless
  rw [text, Text.pieces_append, Text.pieces_of_not_mem (by decide)] at split
  exact spelled (split ▸ List.mem_cons_self ..)

/-- What a path is called inside a directory leads back to the path. -/
theorem components_resolve_ofPackagePath {directory path : Path} {file : RelativePath}
    (nonempty : directory.text ≠ "") (within : path.isWithin directory = true)
    (plain : Path.PlainBelow directory path)
    (called : ofPackagePath directory path = .ok file) :
    (file.resolve directory).components = path.components := by
  obtain ⟨rest, whole⟩ := Path.isWithin_iff.mp within
  have below : path.components.drop directory.components.length = rest := by
    rw [← whole, List.drop_left]
  have later : 1 ≤ directory.components.length :=
    List.length_pos_iff.mpr (Path.components_ne_nil nonempty)
  -- each component below the directory is a piece, and so it is read back from its text
  have piece {component : Component} (mem : component ∈ rest) :
      component.text ∈ path.pieces ∧ Component.ofPiece? component.text = some component := by
    obtain ⟨piece, among, reads⟩ := Path.piece_of_mem_drop later (below ▸ mem)
    rw [Component.text_of_ofPiece? reads]
    exact ⟨among, reads⟩
  have slashless : ∀ text ∈ rest.map Component.text, '/' ∉ text.toList :=
    List.forall_mem_map.mpr fun component mem => Text.not_mem_of_mem_pieces (piece mem).1
  have unslashed : ∀ text ∈ rest.map Component.text, '\\' ∉ text.toList :=
    List.forall_mem_map.mpr fun component mem => plain component (below ▸ mem)
  have spelled : "." ∉ rest.map Component.text := by
    intro mem
    obtain ⟨component, mem, same⟩ := List.mem_map.mp mem
    have reads := (piece mem).2
    rw [same] at reads
    simp [Component.ofPiece?] at reads
  have text : file.text = Text.join '/' (rest.map Component.text) := by
    rw [ofPackagePath, Path.dropComponents?_eq_some.mpr whole.symm, Option.getD_some] at called
    rw [text_of_parse called, normalize_join slashless unslashed spelled]
  have back : (rest.map Component.text).filterMap Component.ofPiece? = rest := by
    have reads : ∀ component ∈ rest,
        (Component.ofPiece? ∘ Component.text) component = some component :=
      fun component mem => (piece mem).2
    rw [List.filterMap_map, List.filterMap_congr reads, List.filterMap_some]
  have said : rest.map Component.text ≠ [] := by
    intro none
    rw [none, Text.join_nil] at text
    exact file.nonempty text
  rw [components_resolve file nonempty, text, Text.pieces_join said slashless, back, whole]

end RelativePath

end PackageIndex
