import PackageIndex.Text

/-!
# Identifiers

An identifier is an ASCII letter or underscore followed by ASCII letters, digits and underscores.
A qualified name is a chain of identifiers with backslashes between them; a slash may stand for a
backslash where a person types the name.
-/
namespace PackageIndex.Name

def isInitial (c : Char) : Bool := c.isAlpha || c = '_'

def isLater (c : Char) : Bool := c.isAlphanum || c = '_'

def isIdentifier (name : String) : Bool :=
  match name.toList with
  | [] => false
  | c :: rest => isInitial c && rest.all isLater

@[simp] theorem isIdentifier_empty : isIdentifier "" = false := rfl

theorem ne_empty_of_isIdentifier {name : String} (h : isIdentifier name = true) : name ≠ "" := by
  rintro rfl
  simp at h

theorem isLater_of_isInitial {c : Char} (h : isInitial c = true) : isLater c = true := by
  simp only [isInitial, isLater, Char.isAlphanum, Bool.or_eq_true] at h ⊢
  exact h.imp_left .inl

/-- What is no letter, digit or underscore does not occur in an identifier. -/
theorem not_mem_of_isIdentifier {name : String} (h : isIdentifier name = true) {c : Char}
    (hc : isLater c = false) : c ∉ name.toList := by
  intro mem
  unfold isIdentifier at h
  split at h
  · simp at h
  · next first rest text =>
    rw [Bool.and_eq_true, List.all_eq_true] at h
    rw [text] at mem
    have later : isLater c = true := by
      rcases List.mem_cons.mp mem with rfl | mem
      · exact isLater_of_isInitial h.1
      · exact h.2 c mem
    simp [hc] at later

/-- The separator of namespace segments. -/
def separator : Char := '\\'

def isQualified (name : String) : Bool := (Text.pieces separator name).all isIdentifier

/-- Slashes become namespace separators. -/
def normalize (name : String) : String := Text.replace '/' separator name

end PackageIndex.Name
