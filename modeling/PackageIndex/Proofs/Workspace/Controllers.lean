import PackageIndex.Proofs.Manifest
import PackageIndex.Proofs.Workspace.Routing

/-!
# Which class a controller is looked for in

The class of a reference is looked up by its full name, but in the source that is listed for it
the first class of that simple name answers, whatever its namespace. So a namesake may answer in
place of the class; where there is none, the answer is about the class that was named.
-/
namespace PackageIndex.Controllers

open MemoryStore (Grants Parser perform)

variable {parser : Parser} {store : MemoryStore} {workspace : Workspace} {package : PackageName}

/-! ## What answers -/

/-- The autoloader of a package lists a file for the class, and these are its declarations. -/
def Lists (workspace : Workspace) (package : PackageName) (parser : Parser) (store : MemoryStore)
    (name : QualifiedName) (nodes : List SourceNode) : Prop :=
  ∃ path manifest file, workspace.autoloaderIn? package store = some path ∧
    Autoloader.stored? store path = some (.ok manifest) ∧ manifest.lookup? name = some file ∧
      Autoloader.parsed? parser store (workspace.resolve package file) = some nodes

def Declares (nodes : List SourceNode) (name : QualifiedName) (method : String) : Prop :=
  ∃ placed ∈ SourceNode.declarations nodes, placed.2.kind = .classType ∧
    QualifiedName.qualify placed.1 placed.2.name = .ok name ∧ placed.2.hasMethod method = true

section
variable {name : QualifiedName} {nodes : List SourceNode}

/-- A class is listed with one source. -/
theorem Lists.unique {others : List SourceNode}
    (h : Lists workspace package parser store name nodes)
    (h' : Lists workspace package parser store name others) : nodes = others := by
  obtain ⟨path, manifest, file, named, holds, listed, parses⟩ := h
  obtain ⟨_, _, _, named', holds', listed', parses'⟩ := h'
  rw [named] at named'
  cases named'
  rw [holds] at holds'
  cases holds'
  rw [listed] at listed'
  cases listed'
  rw [parses] at parses'
  exact Option.some.inj parses'

end

/-- A controller is present only if the first class of its simple name has the method. -/
theorem first_of_isPresent {reference : ControllerRef}
    (found : (perform (.granting parser) (isPresent workspace package reference) store).1 =
      .ok true) :
    ∃ nodes declaration, Lists workspace package parser store reference.className nodes ∧
      SourceNode.findClass? nodes reference.className.simpleName = some declaration ∧
        declaration.hasMethod reference.method = true := by
  have outcome := MemoryStore.outcome_perform (.granting parser)
    (isPresent workspace package reference) store
  rw [found] at outcome
  obtain ⟨path, manifest, named, holds, answers⟩ :=
    (reads_isPresent workspace package reference).gives outcome
  unfold Answers at answers
  split at answers
  · cases answers
  · next file listed =>
    obtain ⟨nodes, declaration, parses, first, has⟩ := answers
    exact ⟨nodes, declaration, ⟨path, manifest, file, named, holds, listed, parses⟩, first,
      has.symm⟩

/-- If that class has the method, the controller is present. -/
theorem grants_isPresent {reference : ControllerRef} {nodes : List SourceNode}
    {declaration : TypeDeclaration}
    (lists : Lists workspace package parser store reference.className nodes)
    (first : SourceNode.findClass? nodes reference.className.simpleName = some declaration) :
    Grants parser store (isPresent workspace package reference)
      (declaration.hasMethod reference.method) := by
  obtain ⟨path, manifest, file, named, holds, listed, parses⟩ := lists
  unfold isPresent
  refine (Autoloader.grants_lookup? reference.className named holds).bind ?_
  rw [listed]
  refine (Grants.isPresent _).bind ?_
  rw [Autoloader.isPresent_of_parsed? parses, if_pos rfl]
  refine (Autoloader.grants_parseFile parses).bind ?_
  rw [first]
  exact .pure _

/-! ## Namesakes -/

/-- Every class of that simple name is the one class that the package calls so. -/
structure Unmistakable (package : PackageName) (nodes : List SourceNode) (name : QualifiedName) :
    Prop where
  identifiers : ∀ placed ∈ SourceNode.declarations nodes, placed.2.kind = .classType →
    Name.isIdentifier placed.2.name = true
  inside : ∀ placed ∈ SourceNode.declarations nodes, placed.2.kind = .classType →
    placed.2.name = name.simpleName →
      QualifiedName.qualify placed.1 placed.2.name = .ok (name.withPackage package)
  alone : ∀ placed ∈ SourceNode.declarations nodes, ∀ other ∈ SourceNode.declarations nodes,
    placed.2.kind = .classType → placed.2.name = name.simpleName →
      other.2.kind = .classType → other.2.name = name.simpleName → placed = other

theorem findClass?_eq_some {nodes : List SourceNode} {simple : String}
    {declaration : TypeDeclaration} (h : SourceNode.findClass? nodes simple = some declaration) :
    declaration.kind = .classType ∧ declaration.name = simple ∧
      ∃ space, (space, declaration) ∈ SourceNode.declarations nodes := by
  rw [SourceNode.findClass?_eq_find? ""] at h
  have named := List.find?_some h
  obtain ⟨placed, mem, rfl⟩ := List.mem_map.mp (List.mem_of_find?_eq_some h)
  have named := of_decide_eq_true named
  exact ⟨named.1, named.2, placed.1, mem⟩

/-- Where a class cannot be mistaken, the first class of its simple name is the class. -/
theorem declares_iff {nodes : List SourceNode} {name : QualifiedName}
    (clear : Unmistakable package nodes name) (method : String) :
    Declares nodes (name.withPackage package) method ↔
      ∃ declaration, SourceNode.findClass? nodes name.simpleName = some declaration ∧
        declaration.hasMethod method = true := by
  constructor
  · rintro ⟨placed, mem, isClass, qualified, has⟩
    have simple : placed.2.name = name.simpleName := by
      rw [← QualifiedName.simpleName_withPackage package,
        QualifiedName.simpleName_of_qualify (clear.identifiers placed mem isClass) qualified]
    cases found : SourceNode.findClass? nodes name.simpleName with
    | none =>
      rw [SourceNode.findClass?_eq_find? ""] at found
      have none := List.find?_eq_none.mp found placed.2 (List.mem_map_of_mem mem)
      simp [isClass, simple] at none
    | some declaration =>
      obtain ⟨alsoClass, named, space, also⟩ := findClass?_eq_some found
      rw [clear.alone placed mem _ also isClass simple alsoClass named] at has
      exact ⟨declaration, rfl, has⟩
  · rintro ⟨declaration, found, has⟩
    obtain ⟨isClass, named, space, mem⟩ := findClass?_eq_some found
    exact ⟨_, mem, isClass, clear.inside _ mem isClass named, has⟩

/-- A controller is found when the first class of its simple name in the file that is listed for its
class has the method. So the answer is about the class that was named wherever that class cannot be
mistaken for another. -/
theorem isPresent_tells_first_class (reference : ControllerRef) :
    let found := (perform (.granting parser) (isPresent workspace package reference) store).1
    (found = .ok true ↔
      ∃ nodes declaration, Lists workspace package parser store reference.className nodes ∧
        SourceNode.findClass? nodes reference.className.simpleName = some declaration ∧
          declaration.hasMethod reference.method = true) ∧
    ((∀ nodes, Lists workspace package parser store reference.className nodes →
        Unmistakable package nodes reference.className) →
      (found = .ok true ↔
        ∃ nodes, Lists workspace package parser store reference.className nodes ∧
          Declares nodes (reference.className.withPackage package) reference.method)) := by
  intro found
  have first : found = .ok true ↔
      ∃ nodes declaration, Lists workspace package parser store reference.className nodes ∧
        SourceNode.findClass? nodes reference.className.simpleName = some declaration ∧
          declaration.hasMethod reference.method = true := by
    refine ⟨first_of_isPresent, ?_⟩
    rintro ⟨nodes, declaration, lists, first, has⟩
    have granted := grants_isPresent lists first
    rw [has] at granted
    exact congrArg Prod.fst granted
  refine ⟨first, fun clear => ?_⟩
  rw [first]
  refine exists_congr fun nodes => ?_
  rw [exists_and_left]
  exact and_congr_right fun lists => (declares_iff (clear nodes lists) reference.method).symm

/-- A trait of the same name does not make a class mistakable. -/
theorem isPresent_tells_first_class_beside_trait :
    let workspace : Workspace := ⟨⟨"p"⟩⟩
    let shop : PackageName := ⟨"shop", by decide⟩
    let store := (((MemoryStore.empty.withFile ⟨"p/shop/package.json"⟩
      "\x7b\"autoload\":\"a\"\x7d").withFile ⟨"p/shop/a"⟩ "[[[\"f\",[\"c\\\\A\"]]]]").withFile
        ⟨"p/shop/f"⟩ "")
    let methods : List MethodDeclaration := [⟨"b", 1, 1⟩]
    let nodes : List SourceNode :=
      [.inNamespace "elsewhere" [.declared ⟨.traitType, "A", [], 1, 1⟩],
        .inNamespace "packages\\shop\\c" [.declared ⟨.classType, "A", methods, 1, 1⟩]]
    let parser : Parser := fun _ => .ok nodes
    let reference : ControllerRef := ⟨⟨["c", "A"], by decide, by decide⟩, "b", by decide⟩
    (perform (.granting parser) (isPresent workspace shop reference) store).1 = .ok true ∧
      (∀ nodes, Lists workspace shop parser store reference.className nodes →
        Unmistakable shop nodes reference.className) ∧
      ∃ nodes, Lists workspace shop parser store reference.className nodes ∧
        Declares nodes (reference.className.withPackage shop) reference.method := by
  intro workspace shop store methods nodes parser reference
  have placed : SourceNode.declarations nodes =
      [("elsewhere", ⟨.traitType, "A", [], 1, 1⟩),
        ("packages\\shop\\c", ⟨.classType, "A", methods, 1, 1⟩)] := rfl
  have lists : Lists workspace shop parser store reference.className nodes :=
    ⟨⟨"p/shop/a"⟩, ⟨[⟨⟨"f", by decide, by decide, by decide, by decide⟩,
      [reference.className]⟩], by decide⟩, _, by decide +kernel, by decide +kernel, rfl,
      Option.bind_eq_some_iff.mpr ⟨"", by decide +kernel, rfl⟩⟩
  have clear : Unmistakable shop nodes reference.className := by
    constructor <;> rw [placed] <;> decide +kernel
  have found : (perform (.granting parser) (isPresent workspace shop reference) store).1 =
      .ok true := by decide +kernel
  have all : ∀ nodes, Lists workspace shop parser store reference.className nodes →
      Unmistakable shop nodes reference.className := fun others h => lists.unique h ▸ clear
  have told := (@isPresent_tells_first_class parser store workspace shop reference).2 all
  exact ⟨found, all, told.mp found⟩

/-- A namesake in another namespace hides the class when it comes first, and is taken for it when
the class is not there. -/
theorem namesake_misleads_isPresent :
    let workspace : Workspace := ⟨⟨"p"⟩⟩
    let shop : PackageName := ⟨"shop", by decide⟩
    let store := (((MemoryStore.empty.withFile ⟨"p/shop/package.json"⟩
      "\x7b\"autoload\":\"a\"\x7d").withFile ⟨"p/shop/a"⟩ "[[[\"f\",[\"c\\\\A\"]]]]").withFile
        ⟨"p/shop/f"⟩ "")
    let methods : List MethodDeclaration := [⟨"b", 1, 1⟩]
    let hidden : List SourceNode :=
      [.inNamespace "packages\\shop\\m" [.declared ⟨.classType, "A", [], 1, 1⟩],
        .inNamespace "packages\\shop\\c" [.declared ⟨.classType, "A", methods, 1, 1⟩]]
    let namesake : List SourceNode :=
      [.inNamespace "packages\\shop\\m" [.declared ⟨.classType, "A", methods, 1, 1⟩]]
    let reference : ControllerRef := ⟨⟨["c", "A"], by decide, by decide⟩, "b", by decide⟩
    let found (nodes : List SourceNode) :=
      (perform (.granting fun _ => .ok nodes) (isPresent workspace shop reference) store).1
    let declared (nodes : List SourceNode) := ∃ read,
      Lists workspace shop (fun _ => .ok nodes) store reference.className read ∧
        Declares read (reference.className.withPackage shop) reference.method
    (found hidden = .ok false ∧ declared hidden) ∧
      (found namesake = .ok true ∧ ¬ declared namesake) := by
  intro workspace shop store methods hidden namesake reference found declared
  have lists (nodes : List SourceNode) :
      Lists workspace shop (fun _ => .ok nodes) store reference.className nodes :=
    ⟨⟨"p/shop/a"⟩, ⟨[⟨⟨"f", by decide, by decide, by decide, by decide⟩,
      [reference.className]⟩], by decide⟩, _, by decide +kernel, by decide +kernel, rfl,
      Option.bind_eq_some_iff.mpr ⟨"", by decide +kernel, rfl⟩⟩
  have real : Declares hidden (reference.className.withPackage shop) reference.method :=
    ⟨("packages\\shop\\c", ⟨.classType, "A", methods, 1, 1⟩),
      by simp [hidden, SourceNode.declarations, SourceNode.placedAll, SourceNode.placed],
      rfl, by decide +kernel, rfl⟩
  refine ⟨⟨by decide +kernel, hidden, lists hidden, real⟩, by decide +kernel, ?_⟩
  rintro ⟨read, also, placed, mem, -, qualified, -⟩
  rw [← (lists namesake).unique also] at mem
  rw [List.mem_singleton.mp mem] at qualified
  revert qualified
  decide +kernel

end PackageIndex.Controllers
