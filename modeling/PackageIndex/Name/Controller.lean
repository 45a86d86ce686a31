import PackageIndex.Name.Qualified

/-!
# Controller references

`Class@method` names a method of a class. Slashes are accepted between the segments of the class,
and exactly one `@` divides the two parts.
-/
namespace PackageIndex

@[ext] structure ControllerRef where
  className : QualifiedName
  method : String
  identifier : Name.isIdentifier method = true

namespace ControllerRef

instance : DecidableEq ControllerRef := fun _ _ => decidable_of_iff _ ControllerRef.ext_iff.symm

def text (reference : ControllerRef) : String :=
  reference.className.text ++ "@" ++ reference.method

instance : Repr ControllerRef := ⟨fun reference _ => repr reference.text⟩

def ofParts (className : QualifiedName) (method : String) : Except Fault ControllerRef :=
  if identifier : Name.isIdentifier method = true then .ok ⟨className, method, identifier⟩
  else .error (.badIdentifier method)

@[simp] theorem ofParts_self (reference : ControllerRef) :
    ofParts reference.className reference.method = .ok reference := by
  simp [ofParts, reference.identifier]

/-- The class is looked at before the method. -/
def parse (reference : String) : Except Fault ControllerRef :=
  match Text.pieces '@' (Name.normalize reference) with
  | [left, method] =>
    match QualifiedName.parse left with
    | .error fault => .error (.malformedControllerRef reference fault.message)
    | .ok className =>
      if identifier : Name.isIdentifier method = true then .ok ⟨className, method, identifier⟩
      else .error (.malformedControllerRef reference s!"'{method}' is not a valid method name")
  | parts =>
    .error (.malformedControllerRef reference
      s!"expected exactly one '@', found {parts.length - 1}")

/-- A printed reference has one `@`. -/
theorem pieces_text (reference : ControllerRef) :
    Text.pieces '@' reference.text = [reference.className.text, reference.method] := by
  have := Text.pieces_append '@' reference.className.text reference.method
  rwa [Text.pieces_of_not_mem (QualifiedName.not_mem_text (by decide) (by decide)),
    Text.pieces_of_not_mem (Name.not_mem_of_isIdentifier reference.identifier (by decide))] at this

/-- A printed reference is read back as it was. -/
@[simp] theorem parse_text (reference : ControllerRef) : parse reference.text = .ok reference := by
  have unslashed : '/' ∉ reference.text.toList := by
    simp only [text, String.toList_append, List.mem_append, not_or]
    exact ⟨⟨QualifiedName.not_mem_text (by decide) (by decide), by decide⟩,
      Name.not_mem_of_isIdentifier reference.identifier (by decide)⟩
  simp [parse, Name.normalize, Text.replace_of_not_mem unslashed, pieces_text,
    reference.identifier]

end ControllerRef

end PackageIndex
