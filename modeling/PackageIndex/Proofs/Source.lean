import PackageIndex.Proofs.Attempts
import PackageIndex.Proofs.Name.Qualified
import PackageIndex.Source

/-!
# Scanning a source file from left to right

A file is scanned tree by tree, and what a namespace changes is carried from one node to the next,
into bodies and out of them again. It comes to the same to lay out all nodes in one row, each
namespace before its body, and to go through the row once: a declaration stands in the last
namespace before it, wherever that one was opened, and the first declaration that has no qualified
name there is where the scan ends.
-/
namespace PackageIndex

namespace SourceNode

/-! ## The nodes in a row -/

mutual
/-- The node and all nodes inside it, a namespace before what its body holds. -/
def preorder : SourceNode → List SourceNode
  | .inNamespace name body => .inNamespace name body :: preorderAll body
  | .declared declaration => [.declared declaration]
def preorderAll : List SourceNode → List SourceNode
  | [] => []
  | node :: rest => preorder node ++ preorderAll rest
end

def space? : SourceNode → Option String
  | .inNamespace name _ => some name
  | .declared _ => none

def declaration? : SourceNode → Option TypeDeclaration
  | .inNamespace _ _ => none
  | .declared declaration => some declaration

/-- The namespace after some nodes in a row is the last one opened among them, or `space` if none
is. -/
def spaceAfter (space : String) (nodes : List SourceNode) : String :=
  (nodes.filterMap space?).getLast?.getD space

@[simp] theorem spaceAfter_nil (space : String) : spaceAfter space [] = space := rfl

/-- The namespace after some nodes goes on into the next ones. -/
theorem spaceAfter_append (space : String) (nodes more : List SourceNode) :
    spaceAfter space (nodes ++ more) = spaceAfter (spaceAfter space nodes) more := by
  unfold spaceAfter
  rw [List.filterMap_append, List.getLast?_append]
  cases (more.filterMap space?).getLast? <;> simp

theorem spaceAfter_cons (space : String) (node : SourceNode) (nodes : List SourceNode) :
    spaceAfter space (node :: nodes) = spaceAfter (node.space?.getD space) nodes := by
  rw [← List.singleton_append, spaceAfter_append]
  cases node <;> rfl

/-- The declarations in a row, each with the nodes before it. -/
def sites (nodes : List SourceNode) : List (List SourceNode × TypeDeclaration) :=
  (nodes.inits.zip nodes).filterMap fun place => place.2.declaration?.map (place.1, ·)

theorem sites_nil : sites [] = [] := rfl

/-- A node in front comes before all sites and may be one itself. -/
theorem sites_cons (node : SourceNode) (nodes : List SourceNode) :
    sites (node :: nodes) = (node.declaration?.map fun declaration => ([], declaration)).toList ++
      (sites nodes).map fun site => (node :: site.1, site.2) := by
  have later : ((nodes.inits.map (node :: ·)).zip nodes).filterMap
      (fun place => place.2.declaration?.map (place.1, ·)) =
        (sites nodes).map fun site => (node :: site.1, site.2) := by
    rw [List.zip_map_left, List.filterMap_map, sites, List.map_filterMap]
    refine List.filterMap_congr fun place _ => ?_
    obtain ⟨before, node⟩ := place
    cases node <;> rfl
  rw [sites, List.inits, List.zip_cons_cons, List.filterMap_cons, later]
  cases node <;> rfl

/-! ## The declarations of a file -/

def placedIn (space : String) (nodes : List SourceNode) : List (String × TypeDeclaration) :=
  (sites nodes).map fun site => (spaceAfter space site.1, site.2)

theorem placedIn_cons (space : String) (node : SourceNode) (nodes : List SourceNode) :
    placedIn space (node :: nodes) =
      (node.declaration?.map fun declaration => (space, declaration)).toList ++
        placedIn (node.space?.getD space) nodes := by
  rw [placedIn, sites_cons, List.map_append, List.map_map]
  simp only [Function.comp_def, spaceAfter_cons]
  cases node <;> rfl

/-- What comes later is placed in the namespace that is left before it. -/
theorem placedIn_append (space : String) (nodes more : List SourceNode) :
    placedIn space (nodes ++ more) =
      placedIn space nodes ++ placedIn (spaceAfter space nodes) more := by
  induction nodes generalizing space with
  | nil => rfl
  | cons node nodes ih =>
    rw [List.cons_append, placedIn_cons, ih, placedIn_cons, spaceAfter_cons, List.append_assoc]

mutual
/-- A node is placed like its row, and leaves the namespace that its row leaves. -/
theorem placed_eq (space : String) : (node : SourceNode) →
    placed space node = (placedIn space (preorder node), spaceAfter space (preorder node))
  | .inNamespace name body => by
    rw [placed, placedAll_eq name body, preorder, placedIn_cons, spaceAfter_cons]
    rfl
  | .declared declaration => rfl
theorem placedAll_eq (space : String) : (nodes : List SourceNode) →
    placedAll space nodes =
      (placedIn space (preorderAll nodes), spaceAfter space (preorderAll nodes))
  | [] => rfl
  | node :: rest => by
    rw [placedAll, placed_eq space node]
    dsimp only
    rw [placedAll_eq _ rest, preorderAll, placedIn_append, spaceAfter_append]
end

/-! ## The scan -/

/-- The segments of a declaration's name in the last namespace before it; an empty name of a
namespace adds none. -/
def segments (space : String) (site : List SourceNode × TypeDeclaration) : List String :=
  QualifiedName.qualified (spaceAfter space site.1) site.2.name

/-- A node in front gives the namespace to what stands behind it. -/
theorem segments_cons (space : String) (node : SourceNode) (before : List SourceNode)
    (declaration : TypeDeclaration) :
    segments space (node :: before, declaration) =
      segments (node.space?.getD space) (before, declaration) := by
  rw [segments, segments, spaceAfter_cons]

/-- Every declaration in a row has a qualified name in the last namespace before it. -/
def Qualified (space : String) (nodes : List SourceNode) : Prop :=
  ∀ site ∈ sites nodes, Name.IsChain (segments space site)

instance (space : String) (nodes : List SourceNode) : Decidable (Qualified space nodes) :=
  inferInstanceAs (Decidable (∀ site ∈ sites nodes, _))

theorem qualified_nil (space : String) : Qualified space [] := by
  simp [Qualified, sites_nil]

/-- A row is qualified when its first declaration is, and then the rest. -/
theorem qualified_cons {space : String} {node : SourceNode} {nodes : List SourceNode} :
    Qualified space (node :: nodes) ↔
      (∀ declaration ∈ node.declaration?, Name.IsChain (segments space ([], declaration))) ∧
      Qualified (node.space?.getD space) nodes := by
  rw [Qualified, sites_cons, List.forall_mem_append, List.forall_mem_map]
  simp only [segments_cons]
  refine and_congr ?_ Iff.rfl
  cases node <;> simp [declaration?]

/-- The first declaration in a row that has no qualified name has this fault. -/
def FirstFault (space : String) (nodes : List SourceNode) (fault : Fault) : Prop :=
  ∃ site ∈ sites nodes, Name.Broken (segments space site) fault ∧ Qualified space site.1

/-- The first fault is that of the first node or, if this one has none, that of the rest. -/
theorem firstFault_cons {space : String} {node : SourceNode} {nodes : List SourceNode}
    {fault : Fault} :
    FirstFault space (node :: nodes) fault ↔
      (∃ declaration ∈ node.declaration?, Name.Broken (segments space ([], declaration)) fault) ∨
      (∀ declaration ∈ node.declaration?, Name.IsChain (segments space ([], declaration))) ∧
      FirstFault (node.space?.getD space) nodes fault := by
  have here : (∃ site ∈ (node.declaration?.map fun declaration =>
        (([] : List SourceNode), declaration)).toList,
      Name.Broken (segments space site) fault ∧ Qualified space site.1) ↔
      ∃ declaration ∈ node.declaration?,
        Name.Broken (segments space ([], declaration)) fault := by
    cases node <;> simp [declaration?, qualified_nil]
  rw [FirstFault, sites_cons]
  simp only [List.mem_append, or_and_right, exists_or, here]
  refine or_congr_right ?_
  constructor
  · rintro ⟨_, mem, faulty, fine⟩
    obtain ⟨site, among, rfl⟩ := List.mem_map.mp mem
    obtain ⟨first, rest⟩ := qualified_cons.mp fine
    exact ⟨first, site, among, by rwa [segments_cons] at faulty, rest⟩
  · rintro ⟨first, site, among, faulty, rest⟩
    exact ⟨_, List.mem_map_of_mem among, by rwa [segments_cons], qualified_cons.mpr ⟨first, rest⟩⟩

def qualifyIn (file : RelativePath) (placed : String × TypeDeclaration) :
    Except Fault Declaration :=
  (QualifiedName.qualify placed.1 placed.2.name).map fun name => ⟨name, placed.2.kind, file⟩

/-- A declaration is listed under its name, with its kind and the file. -/
theorem qualifyIn_eq_ok {file : RelativePath} {placed : String × TypeDeclaration}
    {declaration : Declaration} :
    qualifyIn file placed = .ok declaration ↔
      QualifiedName.qualify placed.1 placed.2.name = .ok declaration.name ∧
        declaration.kind = placed.2.kind ∧ declaration.file = file := by
  unfold qualifyIn
  cases QualifiedName.qualify placed.1 placed.2.name with
  | error fault => simp [Except.map]
  | ok name =>
    obtain ⟨other, kind, place⟩ := declaration
    simp [Except.map, eq_comm]

/-- The fault of a declaration is that of the segments of its name. -/
theorem qualifyIn_eq_error {file : RelativePath} {placed : String × TypeDeclaration}
    {fault : Fault} :
    qualifyIn file placed = .error fault ↔
      Name.Broken (QualifiedName.qualified placed.1 placed.2.name) fault := by
  rw [← QualifiedName.qualify_eq_error]
  unfold qualifyIn
  cases QualifiedName.qualify placed.1 placed.2.name <;> simp [Except.map]

theorem exists_qualifyIn_eq_ok {file : RelativePath} {placed : String × TypeDeclaration} :
    (∃ declaration, qualifyIn file placed = .ok declaration) ↔
      Name.IsChain (QualifiedName.qualified placed.1 placed.2.name) := by
  rw [← QualifiedName.exists_qualify_eq_ok]
  unfold qualifyIn
  cases QualifiedName.qualify placed.1 placed.2.name <;> simp [Except.map]

/-- Scanning a file is qualifying its declarations one by one as they stand in a row. -/
theorem scan_eq (nodes : List SourceNode) (file : RelativePath) :
    scan nodes file = (placedIn "" (preorderAll nodes)).mapM (qualifyIn file) := by
  rw [scan, declarations, placedAll_eq]
  rfl

/-- Going through a row ends at the first declaration that has no qualified name. -/
theorem mapM_placedIn_eq_error {space : String} {file : RelativePath} {nodes : List SourceNode}
    {fault : Fault} :
    (placedIn space nodes).mapM (qualifyIn file) = .error fault ↔
      FirstFault space nodes fault := by
  induction nodes generalizing space with
  | nil => simp [FirstFault, placedIn, sites_nil, pure, Except.pure]
  | cons node nodes ih =>
    rw [placedIn_cons, firstFault_cons, ← ih]
    cases node with
    | inNamespace name body => simp [declaration?]
    | declared declaration =>
      change (_ :: placedIn space nodes).mapM _ = _ ↔ _
      rw [mapM_cons_eq_error, qualifyIn_eq_error]
      refine or_congr (by simp [declaration?, segments]) (and_congr_left' ?_)
      rw [exists_qualifyIn_eq_ok]
      simp [declaration?, segments]

/-- Scanning a file is going through its nodes in a row. The scan succeeds when every declaration
has a qualified name in the last namespace before it, and then it finds the declarations one by one
in their order, under these names; otherwise it ends with the fault of the first one that has
none. -/
theorem scan_preorder (nodes : List SourceNode) (file : RelativePath) :
    ((∃ found, scan nodes file = .ok found) ↔ Qualified "" (preorderAll nodes)) ∧
    (∀ found, scan nodes file = .ok found ↔
      List.Forall₂ (fun site declaration =>
        declaration.name.segments = segments "" site ∧
          declaration.kind = site.2.kind ∧ declaration.file = file)
        (sites (preorderAll nodes)) found) ∧
    ∀ fault, scan nodes file = .error fault ↔ FirstFault "" (preorderAll nodes) fault := by
  rw [scan_eq]
  refine ⟨?_, fun found => ?_, fun fault => mapM_placedIn_eq_error⟩
  · rw [exists_mapM_eq_ok, placedIn, List.forall_mem_map]
    simp only [exists_qualifyIn_eq_ok]
    rfl
  · rw [mapM_eq_ok_iff, placedIn, List.forall₂_map_left_iff]
    simp only [qualifyIn_eq_ok, QualifiedName.qualify_eq_ok_iff_segments]
    rfl

/-- A namespace inside a body is in force after it, and an empty name ends every namespace. A name
that is none is refused under the namespace it stands in, before another one behind it. -/
theorem scan_preorder_nested :
    let file : RelativePath := ⟨"f", by decide, by decide, by decide, by decide⟩
    let type (kind : TypeKind) (name : String) : SourceNode := .declared ⟨kind, name, [], 1, 1⟩
    let nodes : List SourceNode :=
      [.inNamespace "a" [type .traitType "T", .inNamespace "b\\c" []], type .classType "C",
        .inNamespace "" [], type .interfaceType "d\\I"]
    let broken : List SourceNode :=
      [.inNamespace "a" [.inNamespace "b" [type .classType "C"]], type .classType "c d",
        .inNamespace "1" [], type .classType "D"]
    scan nodes file =
        .ok [⟨⟨["a", "T"], by decide, by decide⟩, .traitType, file⟩,
          ⟨⟨["b", "c", "C"], by decide, by decide⟩, .classType, file⟩,
          ⟨⟨["d", "I"], by decide, by decide⟩, .interfaceType, file⟩] ∧
      scan broken file =
        .error (.badQualifiedName "b\\c d" "segment 'c d' is not an identifier") := by
  intro file type nodes broken
  obtain ⟨-, lists, -⟩ := scan_preorder nodes file
  obtain ⟨-, -, faults⟩ := scan_preorder broken file
  refine ⟨(lists _).mpr ?_, (faults _).mpr ?_⟩
  · exact .cons ⟨by decide +kernel, rfl, rfl⟩ (.cons ⟨by decide +kernel, rfl, rfl⟩
      (.cons ⟨by decide +kernel, rfl, rfl⟩ .nil))
  · let before := [.inNamespace "a" [.inNamespace "b" [type .classType "C"]],
      .inNamespace "b" [type .classType "C"], type .classType "C"]
    let second : TypeDeclaration := ⟨.classType, "c d", [], 1, 1⟩
    have named : segments "" (before, second) = ["b"] ++ "c d" :: [] := by decide +kernel
    refine ⟨(before, second), .tail _ (.head _), ?_, by decide +kernel⟩
    rw [named]
    exact .segment (by decide) (by decide) (by decide)

end SourceNode

end PackageIndex
