import PackageIndex.Manifest
import PackageIndex.Proofs.RelativePath

/-!
# Spellings of a relative path

What an accepted text says is its steps, the pieces that are neither empty nor a dot, and they alone
decide where it leads. Of the other pieces only those at the start are dropped: inner dots, repeated
slashes and a slash at the end stay in the text that is kept. So two relative paths that differ may
lead to one file, unless both are spelled plainly.
-/
namespace PackageIndex

namespace RelativePath

/-- The pieces of a text that say something; a backslash parts pieces as a slash does. -/
def steps (text : String) : List String :=
  (Text.pieces '/' (Text.replace '\\' '/' text)).filter fun piece => !Path.isSpelling piece

def Plain (file : RelativePath) : Prop :=
  ∀ piece ∈ Text.pieces '/' file.text, Path.isSpelling piece = false

instance (file : RelativePath) : Decidable file.Plain :=
  inferInstanceAs (Decidable (∀ piece ∈ _, _))

theorem backslash_not_mem_normalize (text : String) : '\\' ∉ (normalize text).toList := by
  intro mem
  rw [normalize, String.toList_ofList] at mem
  have mem := mem_of_mem_dropHere mem
  rw [Text.toList_replace, List.mem_map] at mem
  obtain ⟨c, -, same⟩ := mem
  split at same
  · exact absurd same (by decide)
  · next other => exact other same

/-- What is dropped from the start of a text says nothing. -/
theorem filter_pieces_dropHere (text : List Char) :
    (Text.pieces '/' (String.ofList (dropHere text))).filter (fun piece => !Path.isSpelling piece) =
      (Text.pieces '/' (String.ofList text)).filter fun piece => !Path.isSpelling piece := by
  fun_induction dropHere text with
  | case1 rest ih =>
    have split : String.ofList ('.' :: '/' :: rest) =
        "." ++ String.singleton '/' ++ String.ofList rest := by
      rw [← String.toList_inj]
      simp
    have dot : Text.pieces '/' "." = ["."] := Text.pieces_of_not_mem (by decide)
    rw [ih, split, Text.pieces_append, dot, List.singleton_append,
      List.filter_cons_of_neg (by decide)]
  | case2 text => rfl

/-- What is kept of a text has the steps of the text. -/
theorem steps_normalize (text : String) : steps (normalize text) = steps text := by
  rw [steps, Text.replace_of_not_mem (backslash_not_mem_normalize text), normalize,
    filter_pieces_dropHere, String.ofList_toList, ← steps]

/-- A relative path has the steps of the text that it was read from. -/
theorem steps_of_parse {text : String} {file : RelativePath} (parsed : parse text = .ok file) :
    steps file.text = steps text := by
  rw [text_of_parse parsed, steps_normalize]

theorem steps_text (file : RelativePath) :
    steps file.text =
      (Text.pieces '/' file.text).filter fun piece => !Path.isSpelling piece := by
  have slashed : '\\' ∉ file.text.toList := file.normal ▸ backslash_not_mem_normalize file.text
  rw [steps, Text.replace_of_not_mem slashed]

/-- Where no piece climbs, each step is a name and no other piece is a component. -/
theorem filterMap_ofPiece? {pieces : List String} (descending : ".." ∉ pieces) :
    pieces.filterMap Component.ofPiece? =
      (pieces.filter fun piece => !Path.isSpelling piece).map Component.name := by
  induction pieces with
  | nil => rfl
  | cons piece pieces ih =>
    have rest := ih fun mem => descending (List.mem_cons_of_mem _ mem)
    have level : piece ≠ ".." := fun same => descending (same ▸ List.mem_cons_self ..)
    by_cases spelling : piece = "" ∨ piece = "."
    · have dropped : Path.isSpelling piece = true := by simpa [Path.isSpelling] using spelling
      rw [List.filterMap_cons_none (by rw [Component.ofPiece?, if_pos spelling]),
        List.filter_cons_of_neg (by rw [dropped]; decide), rest]
    · have kept : Path.isSpelling piece = false := by simpa [Path.isSpelling] using spelling
      have named : Component.ofPiece? piece = some (.name piece) := by
        rw [Component.ofPiece?, if_neg spelling, if_neg level]
      rw [List.filterMap_cons_some named, List.filter_cons_of_pos (by rw [kept]; decide),
        List.map_cons, rest]

/-- Below a base a relative path leads down its steps. -/
theorem components_resolve_steps (file : RelativePath) {base : Path} (nonempty : base.text ≠ "") :
    (file.resolve base).components = base.components ++ (steps file.text).map Component.name := by
  rw [components_resolve file nonempty, filterMap_ofPiece? file.descending, steps_text]

/-- The steps decide where a relative path leads. -/
theorem components_resolve_eq_iff {a b : RelativePath} {base : Path} (nonempty : base.text ≠ "") :
    (a.resolve base).components = (b.resolve base).components ↔ steps a.text = steps b.text := by
  have injective : Function.Injective Component.name := fun _ _ => Component.name.inj
  rw [components_resolve_steps a nonempty, components_resolve_steps b nonempty,
    List.append_cancel_left_eq, (List.map_injective_iff.mpr injective).eq_iff]

/-- A plain text is its steps, joined. -/
theorem Plain.text_eq {file : RelativePath} (plain : file.Plain) :
    file.text = Text.join '/' (steps file.text) := by
  have kept : ∀ piece ∈ Text.pieces '/' file.text, (!Path.isSpelling piece) = true := by
    intro piece mem
    rw [plain piece mem]
    rfl
  rw [steps_text, List.filter_eq_self.mpr kept, Text.join_pieces]

/-- Relative paths that are spelled plainly are told by their steps. -/
theorem Plain.eq_of_steps {a b : RelativePath} (plain : a.Plain) (also : b.Plain)
    (same : steps a.text = steps b.text) : a = b :=
  eq_of_text (by rw [plain.text_eq, also.text_eq, same])

/-- Two accepted texts lead to one place just when they have the same steps. Where both are kept in
plain spelling they are then kept as one, so that a manifest of plainly spelled files has one entry
for each file there is. -/
theorem resolve_tells_steps {first second : String} {a b : RelativePath} {base : Path}
    (nonempty : base.text ≠ "") (accepted : parse first = .ok a) (also : parse second = .ok b) :
    ((a.resolve base).components = (b.resolve base).components ↔ steps first = steps second) ∧
    (a.Plain → b.Plain → (a.resolve base).components = (b.resolve base).components → a = b) ∧
    ∀ manifest : Manifest, (∀ entry ∈ manifest.entries, entry.file.Plain) →
      (manifest.entries.map fun entry => (entry.file.resolve base).components).Nodup := by
  refine ⟨?_, fun plain too same => ?_, fun manifest plain => ?_⟩
  · rw [components_resolve_eq_iff nonempty, steps_of_parse accepted, steps_of_parse also]
  · exact plain.eq_of_steps too ((components_resolve_eq_iff nonempty).mp same)
  · have distinct := List.pairwise_map.mp manifest.distinct
    refine List.pairwise_map.mpr (distinct.imp_of_mem fun mem other differ same => differ ?_)
    exact (plain _ mem).eq_of_steps (plain _ other) ((components_resolve_eq_iff nonempty).mp same)

/-- Backslashes and dots at the start are put right: the text is kept as the plain one, and a
manifest that lists another file besides leads to two places. -/
theorem resolve_tells_steps_backslash :
    let base : Path := ⟨"p"⟩
    let kept : RelativePath := ⟨"a/b", by decide, by decide, by decide, by decide⟩
    let other : RelativePath := ⟨"a", by decide, by decide, by decide, by decide⟩
    let manifest := ((Manifest.empty.insert kept []).1.insert other []).1
    base.text ≠ "" ∧ parse ".\\./a\\b" = .ok kept ∧ parse "a/b" = .ok kept ∧
      steps ".\\./a\\b" = steps "a/b" ∧
      (manifest.entries.map fun entry => (entry.file.resolve base).components).Nodup := by
  intro base kept other manifest
  have nonempty : base.text ≠ "" := by decide
  have accepted : parse ".\\./a\\b" = .ok kept := by decide
  have also : parse "a/b" = .ok kept := by decide
  have plain : ∀ entry ∈ manifest.entries, entry.file.Plain := by decide
  obtain ⟨tells, -, distinct⟩ := resolve_tells_steps nonempty accepted also
  exact ⟨nonempty, accepted, also, tells.mp rfl, distinct manifest plain⟩

/-- A doubled slash is kept, and so a manifest comes to list one file in two entries. -/
theorem doubled_slash_is_kept :
    let base : Path := ⟨"p"⟩
    let plain : RelativePath := ⟨"a/b", by decide, by decide, by decide, by decide⟩
    let doubled : RelativePath := ⟨"a//b", by decide, by decide, by decide, by decide⟩
    let x : QualifiedName := ⟨["X"], by decide, by decide⟩
    let manifest := ((Manifest.empty.insert plain [x]).1.insert doubled [x]).1
    parse "a/b" = .ok plain ∧ parse "a//b" = .ok doubled ∧
      (plain.resolve base).components = (doubled.resolve base).components ∧ plain ≠ doubled ∧
        manifest.entries.map ManifestEntry.file = [plain, doubled] := by
  decide

end RelativePath

end PackageIndex
