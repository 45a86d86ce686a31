import PackageIndex.Fault
import PackageIndex.Name.Identifier

/-!
# Qualified names

A qualified name is a nonempty list of identifiers. Reading a text and printing a name are inverse
to each other, so two names are equal when their texts are.
-/
namespace PackageIndex

structure QualifiedName where
  segments : List String
  nonempty : segments ≠ []
  identifiers : segments.all Name.isIdentifier = true
  deriving DecidableEq

namespace QualifiedName

def text (name : QualifiedName) : String := Text.join Name.separator name.segments

instance : Repr QualifiedName := ⟨fun name _ => repr name.text⟩

theorem eq_of_segments {a b : QualifiedName} (h : a.segments = b.segments) : a = b := by
  cases a; cases b; simp_all

/-- The first segment that is no identifier is the one reported. -/
def ofSegments (segments : List String) : Except Fault QualifiedName :=
  if nonempty : segments = [] then .error (.badQualifiedName "" "name is empty")
  else if identifiers : segments.all Name.isIdentifier = true then
    .ok ⟨segments, nonempty, identifiers⟩
  else
    let bad := (segments.find? fun segment => !Name.isIdentifier segment).getD ""
    .error (.badQualifiedName (Text.join Name.separator segments)
      s!"segment '{bad}' is not an identifier")

@[simp] theorem ofSegments_segments (name : QualifiedName) :
    ofSegments name.segments = .ok name := by
  simp [ofSegments, name.nonempty, name.identifiers]

def parse (name : String) : Except Fault QualifiedName :=
  if name = "" then .error (.badQualifiedName name "name is empty")
  else ofSegments (Text.pieces Name.separator name)

theorem pieces_text (name : QualifiedName) :
    Text.pieces Name.separator name.text = name.segments := by
  apply Text.pieces_join name.nonempty
  intro segment mem
  exact Name.not_mem_of_isIdentifier (List.all_eq_true.mp name.identifiers segment mem) (by decide)

theorem text_ne_empty (name : QualifiedName) : name.text ≠ "" := by
  intro empty
  have segments := name.pieces_text
  rw [empty, Text.pieces_empty] at segments
  have identifiers := name.identifiers
  simp [← segments] at identifiers

/-- Besides what occurs in identifiers, a printed class name holds only separators. -/
theorem not_mem_text {name : QualifiedName} {c : Char} (hc : Name.isLater c = false)
    (hs : c ≠ Name.separator) : c ∉ name.text.toList := by
  intro mem
  rcases Text.mem_toList_join mem with h | ⟨segment, hsegment, h⟩
  · exact hs h
  · exact Name.not_mem_of_isIdentifier (List.all_eq_true.mp name.identifiers segment hsegment) hc h

/-- What a name is printed as is read back. -/
@[simp] theorem parse_text (name : QualifiedName) : parse name.text = .ok name := by
  rw [parse, if_neg name.text_ne_empty, pieces_text, ofSegments_segments]

/-- `simple` inside `space`; an empty namespace adds nothing. -/
def qualify (space simple : String) : Except Fault QualifiedName :=
  if space = "" then parse simple
  else parse (space ++ String.singleton Name.separator ++ simple)

def simpleName (name : QualifiedName) : String := name.segments.getLast name.nonempty

def space (name : QualifiedName) : String :=
  Text.join Name.separator name.segments.dropLast

theorem segments_of_parse {text : String} {name : QualifiedName} (h : parse text = .ok name) :
    name.segments = Text.pieces Name.separator text := by
  unfold parse ofSegments at h
  split at h
  · cases h
  · split at h
    · cases h
    · split at h
      · cases h
        rfl
      · cases h

/-- An identifier is the simple name of what it is qualified to. -/
theorem simpleName_of_qualify {space simple : String} {name : QualifiedName}
    (identifier : Name.isIdentifier simple = true) (h : qualify space simple = .ok name) :
    name.simpleName = simple := by
  have whole : Text.pieces Name.separator simple = [simple] :=
    Text.pieces_of_not_mem (Name.not_mem_of_isIdentifier identifier (by decide))
  have last : name.segments.getLast? = some simple := by
    unfold qualify at h
    split at h
    · rw [segments_of_parse h, whole]
      rfl
    · rw [segments_of_parse h, Text.pieces_append, whole, List.getLast?_append]
      rfl
  rw [List.getLast?_eq_some_getLast name.nonempty] at last
  exact Option.some.inj last

end QualifiedName

end PackageIndex
