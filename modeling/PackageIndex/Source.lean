import PackageIndex.Name.Qualified
import PackageIndex.RelativePath

/-!
# Declarations of a source file

What is kept of a parsed source file: its namespaces and the classes, interfaces and traits it
declares, with their methods. Lines are counted from one.

A namespace takes effect where it stands and lasts until the next one, inside its body and after
it; namespaces do not nest.
-/
namespace PackageIndex

inductive TypeKind where
  | classType
  | interfaceType
  | traitType
  deriving DecidableEq, Repr

namespace TypeKind

def text : TypeKind → String
  | classType => "class"
  | interfaceType => "interface"
  | traitType => "trait"

end TypeKind

structure MethodDeclaration where
  name : String
  firstLine : Nat
  lastLine : Nat
  deriving DecidableEq, Repr

structure TypeDeclaration where
  kind : TypeKind
  name : String
  methods : List MethodDeclaration
  firstLine : Nat
  lastLine : Nat
  deriving DecidableEq, Repr

def TypeDeclaration.hasMethod (declaration : TypeDeclaration) (name : String) : Bool :=
  declaration.methods.any fun method => method.name = name

/-- A namespace written as a statement has an empty body, and what it governs follows it. -/
inductive SourceNode where
  | inNamespace (name : String) (body : List SourceNode)
  | declared (declaration : TypeDeclaration)
  deriving Repr

/-- Where a source file stops making sense. -/
structure ParseFault where
  line : Nat
  column : Nat
  message : String
  deriving DecidableEq, Repr

def ParseFault.text (fault : ParseFault) : String :=
  s!"syntax error at line {fault.line}, column {fault.column}: {fault.message}"

/-- A declared type by its full name, and the file it stands in. -/
structure Declaration where
  name : QualifiedName
  kind : TypeKind
  file : RelativePath
  deriving DecidableEq, Repr

namespace SourceNode

mutual
/-- The declarations of a node in order, each with the namespace in force there, and the namespace
in force after the node. -/
def placed (space : String) : SourceNode → List (String × TypeDeclaration) × String
  | .inNamespace name body => placedAll name body
  | .declared declaration => ([(space, declaration)], space)
def placedAll (space : String) : List SourceNode → List (String × TypeDeclaration) × String
  | [] => ([], space)
  | node :: rest =>
    let (first, space) := placed space node
    let (later, space) := placedAll space rest
    (first ++ later, space)
end

/-- The declarations of a file in order; a file begins outside every namespace. -/
def declarations (nodes : List SourceNode) : List (String × TypeDeclaration) :=
  (placedAll "" nodes).1

/-- The first declaration whose full name is no qualified name is the fault. -/
def scan (nodes : List SourceNode) (file : RelativePath) : Except Fault (List Declaration) :=
  (declarations nodes).mapM fun (space, declaration) => do
    let name ← QualifiedName.qualify space declaration.name
    pure ⟨name, declaration.kind, file⟩

mutual
/-- The class of that simple name that comes first in a node. -/
def classIn? : SourceNode → String → Option TypeDeclaration
  | .inNamespace _ body, simple => findClass? body simple
  | .declared declaration, simple =>
    if declaration.kind = .classType ∧ declaration.name = simple then some declaration else none
/-- The first class of that simple name, whatever its namespace. -/
def findClass? : List SourceNode → String → Option TypeDeclaration
  | [], _ => none
  | node :: rest, simple => (classIn? node simple).or (findClass? rest simple)
end

mutual
/-- A search comes upon declarations in the order in which they are placed. -/
theorem classIn?_eq_find? (space simple : String) : (node : SourceNode) →
    classIn? node simple = ((placed space node).1.map Prod.snd).find? fun declaration =>
      declaration.kind = .classType ∧ declaration.name = simple
  | .inNamespace name body => findClass?_eq_find? name simple body
  | .declared declaration => by
    rw [classIn?, placed, List.map_singleton, List.find?_singleton]
    simp only [decide_eq_true_eq]
theorem findClass?_eq_find? (space simple : String) : (nodes : List SourceNode) →
    findClass? nodes simple = ((placedAll space nodes).1.map Prod.snd).find? fun declaration =>
      declaration.kind = .classType ∧ declaration.name = simple
  | [] => rfl
  | node :: rest => by
    rw [findClass?, classIn?_eq_find? space simple node,
      findClass?_eq_find? (placed space node).2 simple rest, placedAll, List.map_append,
      List.find?_append]
end

end SourceNode

end PackageIndex
