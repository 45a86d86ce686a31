import PackageIndex.Fault
import PackageIndex.Path

/-!
# Package-relative paths

A path inside a package is written with slashes, is neither empty nor absolute, and never climbs.
Backslashes are read as slashes and leading `./` are dropped, so that what is kept can be compared
as plain text.
-/
namespace PackageIndex

namespace RelativePath

/-- The text without any leading `./`. -/
def dropHere : List Char → List Char
  | '.' :: '/' :: rest => dropHere rest
  | text => text

@[simp] theorem dropHere_here (rest : List Char) : dropHere ('.' :: '/' :: rest) = dropHere rest :=
  rfl

/-- A text that does not begin with `./` is left alone. -/
theorem dropHere_of_not_here {text : List Char} (h : ∀ rest, text ≠ '.' :: '/' :: rest) :
    dropHere text = text := by
  unfold dropHere
  split
  · next rest => exact absurd rfl (h rest)
  · rfl

theorem dropHere_idem (text : List Char) : dropHere (dropHere text) = dropHere text := by
  fun_induction dropHere text with
  | case1 rest ih => exact ih
  | case2 text h => exact dropHere_of_not_here h

theorem mem_of_mem_dropHere {c : Char} {text : List Char} (h : c ∈ dropHere text) : c ∈ text := by
  fun_induction dropHere text with
  | case1 rest ih => exact List.mem_cons_of_mem _ (List.mem_cons_of_mem _ (ih h))
  | case2 text => exact h

/-- The spelling that is kept. -/
def normalize (path : String) : String :=
  String.ofList (dropHere (Text.replace '\\' '/' path).toList)

end RelativePath

structure RelativePath where
  text : String
  nonempty : text ≠ ""
  relative : text.toList.head? ≠ some '/'
  descending : ".." ∉ Text.pieces '/' text
  normal : RelativePath.normalize text = text

namespace RelativePath

theorem eq_of_text {a b : RelativePath} (h : a.text = b.text) : a = b := by
  cases a; cases b; simp_all

instance : DecidableEq RelativePath := fun _ _ =>
  decidable_of_iff _ ⟨eq_of_text, fun h => h ▸ rfl⟩

instance : Repr RelativePath := ⟨fun path _ => repr path.text⟩

theorem normalize_idem (path : String) : normalize (normalize path) = normalize path := by
  have slashed : '\\' ∉ (normalize path).toList := by
    intro h
    rw [normalize, String.toList_ofList] at h
    have h := mem_of_mem_dropHere h
    rw [Text.toList_replace, List.mem_map] at h
    obtain ⟨c, -, hc⟩ := h
    split at hc
    · exact absurd hc (by decide)
    · exact absurd hc ‹_›
  rw [normalize, Text.replace_of_not_mem slashed]
  simp [normalize, dropHere_idem]

def parse (path : String) : Except Fault RelativePath :=
  if nonempty : normalize path = "" then .error (.badRelativePath path "path is empty")
  else if relative : (normalize path).toList.head? = some '/' then
    .error (.badRelativePath path "absolute paths are not allowed")
  else if descending : ".." ∈ Text.pieces '/' (normalize path) then
    .error (.badRelativePath path "'..' components are not allowed")
  else .ok ⟨normalize path, nonempty, relative, descending, normalize_idem path⟩

@[simp] theorem parse_text (path : RelativePath) : parse path.text = .ok path := by
  simp [parse, path.normal, path.nonempty, path.relative, path.descending]

/-- Piece by piece below `base`. -/
def resolve (path : RelativePath) (base : Path) : Path :=
  (Text.pieces '/' path.text).foldl Path.join base

/-- The form of `path` inside the package at `directory`; a path elsewhere is taken whole. As paths
are texts, no name has to be rewritten for that. -/
def ofPackagePath (directory path : Path) : Except Fault RelativePath :=
  let inside := (Path.dropComponents? directory.components path.components).getD path.components
  parse (Text.join '/' (inside.map Component.text))

end RelativePath

end PackageIndex
