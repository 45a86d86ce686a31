import PackageIndex.Proofs.Source

/-!
# Searching a source file and scanning it

A search for a class goes into the namespaces of a file and stops at the first class of that simple
name; a scan lists every declaration under its full name. Both go through the declarations in one
order, so the search stops at the place where the first such class stands in the list.
-/
namespace PackageIndex

/-- A declaration of a class that is called `simple` in its namespace. -/
def Declaration.IsClass (declaration : Declaration) (simple : String) : Prop :=
  declaration.kind = .classType ∧ declaration.name.simpleName = simple

instance (simple : String) : DecidablePred (Declaration.IsClass · simple) := fun _ =>
  inferInstanceAs (Decidable (_ ∧ _))

namespace SourceNode

def types (nodes : List SourceNode) : List TypeDeclaration :=
  (preorderAll nodes).filterMap declaration?

/-- No declaration in a row is left out with what stands before it. -/
theorem map_snd_sites (nodes : List SourceNode) :
    (sites nodes).map Prod.snd = nodes.filterMap declaration? := by
  induction nodes with
  | nil => rfl
  | cons node nodes ih =>
    rw [sites_cons, List.map_append, List.map_map, List.filterMap_cons]
    cases node <;> simpa [declaration?, Function.comp_def] using ih

/-- A search goes through the types in their order. -/
theorem findClass?_eq_find?_types (nodes : List SourceNode) (simple : String) :
    findClass? nodes simple = (types nodes).find? fun declaration =>
      declaration.kind = .classType ∧ declaration.name = simple := by
  rw [findClass?_eq_find? "", placedAll_eq, placedIn, List.map_map, types, ← map_snd_sites]
  rfl

/-- A scan that succeeds lists the declarations one by one under their kinds and, where these are
identifiers, their names. -/
theorem forall₂_scan {nodes : List SourceNode} {file : RelativePath} {found : List Declaration}
    (identifiers : ∀ declaration ∈ types nodes, Name.isIdentifier declaration.name = true)
    (scans : scan nodes file = .ok found) :
    List.Forall₂ (fun declaration listed =>
      listed.kind = declaration.kind ∧ listed.name.simpleName = declaration.name)
      (types nodes) found := by
  rw [scan_eq, mapM_eq_ok_iff, placedIn, List.forall₂_map_left_iff] at scans
  rw [types, ← map_snd_sites] at identifiers ⊢
  rw [List.forall₂_map_left_iff]
  rw [List.forall_mem_map] at identifiers
  refine List.Forall₂.imp ?_ ((List.forall₂_and_left _ _).mpr ⟨identifiers, scans⟩)
  rintro site listed ⟨identifier, qualifies⟩
  obtain ⟨qualified, kind, -⟩ := qualifyIn_eq_ok.mp qualifies
  exact ⟨kind, QualifiedName.simpleName_of_qualify identifier qualified⟩

/-- A search and a scan see one file. The scan lists the declarations place by place; a class of a
simple name is found just when the scan lists one that is called so, and it is the declaration that
stands where the first of these is listed. -/
theorem findClass?_finds_first_listed {nodes : List SourceNode} {file : RelativePath}
    {found : List Declaration}
    (identifiers : ∀ declaration ∈ types nodes, Name.isIdentifier declaration.name = true)
    (scans : scan nodes file = .ok found) (simple : String) :
    List.Forall₂ (fun declaration listed =>
      listed.kind = declaration.kind ∧ listed.name.simpleName = declaration.name)
      (types nodes) found ∧
    ((∃ declaration, findClass? nodes simple = some declaration) ↔
      ∃ listed ∈ found, listed.IsClass simple) ∧
    ∀ declaration, findClass? nodes simple = some declaration ↔
      ∃ place, found.findIdx? (fun listed => listed.IsClass simple) = some place ∧
        (types nodes)[place]? = some declaration := by
  have each := forall₂_scan identifiers scans
  have alike : List.Forall₂ (fun (declaration : TypeDeclaration) (listed : Declaration) =>
      decide (declaration.kind = .classType ∧ declaration.name = simple) =
        decide (listed.IsClass simple)) (types nodes) found := by
    refine each.imp fun declaration listed told => decide_eq_decide.mpr ?_
    rw [Declaration.IsClass, told.1, told.2]
  have searched := findClass?_eq_find?_types nodes simple
  refine ⟨each, ?_, fun declaration => ?_⟩
  · rw [← Option.isSome_iff_exists, searched, List.find?_isSome]
    constructor
    · rintro ⟨declaration, mem, named⟩
      obtain ⟨listed, among, same⟩ := exists_mem_right alike mem
      exact ⟨listed, among, of_decide_eq_true (same ▸ named)⟩
    · rintro ⟨listed, mem, named⟩
      obtain ⟨declaration, among, same⟩ := exists_mem_left alike mem
      exact ⟨declaration, among, same ▸ decide_eq_true named⟩
  · rw [searched, find?_eq_findIdx?_bind alike, Option.bind_eq_some_iff]

/-- An interface and a trait of that name stand before the class, in other namespaces, and another
class of that name stands after it. -/
theorem findClass?_finds_first_listed_among_namesakes :
    let file : RelativePath := ⟨"f", by decide, by decide, by decide, by decide⟩
    let type (kind : TypeKind) (name : String) (line : Nat) : TypeDeclaration :=
      ⟨kind, name, [], line, line⟩
    let nodes : List SourceNode :=
      [.inNamespace "a" [.declared (type .interfaceType "A" 1),
          .inNamespace "b" [.declared (type .traitType "A" 2)], .declared (type .classType "B" 3)],
        .inNamespace "c" [.inNamespace "d" [.declared (type .classType "A" 4)]],
        .declared (type .classType "A" 5)]
    let named (space name : String) (identifiers : [space, name].all Name.isIdentifier = true) :
        QualifiedName := ⟨[space, name], by simp, identifiers⟩
    let found : List Declaration :=
      [⟨named "a" "A" (by decide), .interfaceType, file⟩,
        ⟨named "b" "A" (by decide), .traitType, file⟩,
        ⟨named "b" "B" (by decide), .classType, file⟩,
        ⟨named "d" "A" (by decide), .classType, file⟩,
        ⟨named "d" "A" (by decide), .classType, file⟩]
    (∀ declaration ∈ types nodes, Name.isIdentifier declaration.name = true) ∧
      scan nodes file = .ok found ∧
      findClass? nodes "A" = some (type .classType "A" 4) ∧
      found.findIdx? (fun listed => listed.IsClass "A") = some 3 ∧
      (types nodes)[3]? = some (type .classType "A" 4) := by
  intro file type nodes named found
  have identifiers : ∀ declaration ∈ types nodes, Name.isIdentifier declaration.name = true := by
    decide
  have scans : scan nodes file = .ok found := by decide +kernel
  have first : found.findIdx? (fun listed => listed.IsClass "A") = some 3 := by decide +kernel
  obtain ⟨-, -, finds⟩ := findClass?_finds_first_listed identifiers scans "A"
  have placed : (types nodes)[3]? = some (type .classType "A" 4) := rfl
  exact ⟨identifiers, scans, (finds _).mpr ⟨3, first, placed⟩, first, placed⟩

end SourceNode

end PackageIndex
