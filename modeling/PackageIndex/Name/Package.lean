import PackageIndex.Name.Qualified

/-!
# Package names and the package namespace

A package name is one identifier. The classes of package `p` live in the namespace `packages\p`;
inside the package they are named without it.
-/
namespace PackageIndex

@[ext] structure PackageName where
  text : String
  identifier : Name.isIdentifier text = true

namespace PackageName

instance : DecidableEq PackageName := fun _ _ => decidable_of_iff _ PackageName.ext_iff.symm

instance : Repr PackageName := ⟨fun package _ => repr package.text⟩

def parse (name : String) : Except Fault PackageName :=
  if identifier : Name.isIdentifier name = true then .ok ⟨name, identifier⟩
  else .error (.badPackageName name)

@[simp] theorem parse_text (package : PackageName) : parse package.text = .ok package := by
  simp [parse, package.identifier]

end PackageName

namespace Name

/-- The namespace that holds every package. -/
def root : String := "packages"

theorem isIdentifier_root : isIdentifier root = true := by decide

end Name

namespace QualifiedName

def withPackage (package : PackageName) (name : QualifiedName) : QualifiedName where
  segments := Name.root :: package.text :: name.segments
  nonempty := by simp
  identifiers := by
    simp only [List.all_cons, Name.isIdentifier_root, package.identifier, name.identifiers,
      Bool.and_self]

@[simp] theorem segments_withPackage (package : PackageName) (name : QualifiedName) :
    (name.withPackage package).segments = Name.root :: package.text :: name.segments := rfl

theorem simpleName_withPackage (package : PackageName) (name : QualifiedName) :
    (name.withPackage package).simpleName = name.simpleName := by
  unfold simpleName
  simp only [segments_withPackage]
  rw [List.getLast_cons (by simp), List.getLast_cons name.nonempty]

/-- The name as the package itself writes it: the namespace of the package comes off, and
something has to be left. -/
def withoutPackage (package : PackageName) (name : QualifiedName) :
    Except Fault QualifiedName :=
  match name with
  | ⟨[], _, _⟩ | ⟨[_], _, _⟩ | ⟨[_, _], _, _⟩ => .error outside
  | ⟨root :: owner :: first :: rest, _, identifiers⟩ =>
    if root = Name.root ∧ owner = package.text then
      .ok ⟨first :: rest, by simp, by simp_all⟩
    else .error outside
where
  outside : Fault := .badQualifiedName name.text
    s!"expected the prefix {Name.root}\\{package.text}\\"

/-- What is left of a name is what the package prefixes to it. -/
theorem withoutPackage_eq_ok {package : PackageName} {name inner : QualifiedName} :
    name.withoutPackage package = .ok inner ↔ inner.withPackage package = name := by
  obtain ⟨segments, nonempty, identifiers⟩ := name
  obtain ⟨first, rest, segments_inner⟩ := List.exists_cons_of_ne_nil inner.nonempty
  constructor
  · intro stripped
    unfold withoutPackage at stripped
    split at stripped
    · cases stripped
    · cases stripped
    · cases stripped
    · next root owner _ _ _ _ same =>
      injection same with same
      split at stripped
      · next prefixed =>
        cases stripped
        exact eq_of_segments (by simp [same, prefixed])
      · cases stripped
  · intro prefixed
    have same : segments = Name.root :: package.text :: first :: rest := by
      rw [← segments_inner, ← segments_withPackage, prefixed]
    subst same
    unfold withoutPackage
    simp only [and_self, if_true, Except.ok.injEq]
    exact eq_of_segments segments_inner.symm

end QualifiedName

end PackageIndex
