import PackageIndex.Php.Outline
import PackageIndex.Proofs.Source

/-!
# What the outline of a file keeps of its tree

Of the parts of a tree the outline keeps the namespaces and the types that have a name; all others
are transparent, at any depth and inside each other. In a row its nodes stand in document order. The
list of a namespace, or of the file, has what stands in it and in no namespace that is nearer.
-/
namespace PackageIndex

namespace SourceNode

theorem preorderAll_append (nodes more : List SourceNode) :
    preorderAll (nodes ++ more) = preorderAll nodes ++ preorderAll more := by
  induction nodes with
  | nil => rfl
  | cons node nodes ih => rw [List.cons_append, preorderAll, preorderAll, ih, List.append_assoc]

/-- A namespace without what is in it, or a declaration. -/
def heading : SourceNode → SourceNode
  | .inNamespace name _ => .inNamespace name []
  | .declared declaration => .declared declaration

end SourceNode

namespace Php.Tree

open SourceNode (preorder preorderAll preorderAll_append)

/-! ## The parts of a tree -/

mutual
/-- A part and all parts in it in document order, each with the parts around it, the nearest
first. -/
def places (around : List (Tree Mark)) : Tree Mark → List (List (Tree Mark) × Tree Mark)
  | node mark first last children =>
    (around, node mark first last children) ::
      placesAll (node mark first last children :: around) children
def placesAll (around : List (Tree Mark)) :
    List (Tree Mark) → List (List (Tree Mark) × Tree Mark)
  | [] => []
  | tree :: rest => places around tree ++ placesAll around rest
end

def parts (trees : List (Tree Mark)) : List (Tree Mark) := (placesAll [] trees).map Prod.snd

def isSpace (tree : Tree Mark) : Bool := tree.mark = .space

/-- The parts that have no namespace around them, in document order. -/
def free (trees : List (Tree Mark)) : List (Tree Mark) :=
  ((placesAll [] trees).filter fun place => (place.1.find? isSpace).isNone).map Prod.snd

mutual
theorem forest_of_tree {P : List (Tree Mark) → Prop} (nil : P [])
    (cons : ∀ tree rest, P tree.children → P rest → P (tree :: rest)) :
    (tree : Tree Mark) → P tree.children
  | node _ _ _ children => forest_induction nil cons children
/-- What is true of a list of trees if it is true of the children of the first and of the rest is
true of all lists. -/
theorem forest_induction {P : List (Tree Mark) → Prop} (nil : P [])
    (cons : ∀ tree rest, P tree.children → P rest → P (tree :: rest)) :
    (trees : List (Tree Mark)) → P trees
  | [] => nil
  | tree :: rest => cons tree rest (forest_of_tree nil cons tree) (forest_induction nil cons rest)
end

mutual
/-- What is farther around does not change what is found. -/
theorem places_append (inner outer : List (Tree Mark)) : (tree : Tree Mark) →
    places (inner ++ outer) tree =
      (places inner tree).map fun place => (place.1 ++ outer, place.2)
  | node mark first last children => by
    rw [places, places, List.map_cons, ← List.cons_append, placesAll_append]
theorem placesAll_append (inner outer : List (Tree Mark)) : (trees : List (Tree Mark)) →
    placesAll (inner ++ outer) trees =
      (placesAll inner trees).map fun place => (place.1 ++ outer, place.2)
  | [] => rfl
  | tree :: rest => by
    rw [placesAll, placesAll, List.map_append, places_append inner outer tree,
      placesAll_append inner outer rest]
end

/-- The parts in a tree have that tree around them, outside all others. -/
theorem placesAll_cons (tree : Tree Mark) (rest : List (Tree Mark)) :
    placesAll [] (tree :: rest) =
      ([], tree) :: ((placesAll [] tree.children).map fun place => (place.1 ++ [tree], place.2)) ++
        placesAll [] rest := by
  cases tree
  rw [placesAll, places, ← placesAll_append]
  rfl

/-- A tree comes before the parts in it, and these before those of the next. -/
theorem parts_cons (tree : Tree Mark) (rest : List (Tree Mark)) :
    parts (tree :: rest) = tree :: parts tree.children ++ parts rest := by
  simp [parts, placesAll_cons, Function.comp_def]

/-- A namespace keeps what is in it to itself. -/
theorem free_cons (tree : Tree Mark) (rest : List (Tree Mark)) :
    free (tree :: rest) =
      tree :: (if isSpace tree then [] else free tree.children) ++ free rest := by
  have inside : ((placesAll [] tree.children).map fun place => (place.1 ++ [tree], place.2)).filter
      (fun place => (place.1.find? isSpace).isNone) =
        ((placesAll [] tree.children).filter fun place =>
          (place.1.find? isSpace).isNone && !isSpace tree).map
            fun place => (place.1 ++ [tree], place.2) := by
    rw [List.filter_map]
    congr 1
    refine List.filter_congr fun place _ => ?_
    cases space : isSpace tree <;> simp [List.find?_append, space]
  rw [free, placesAll_cons, List.cons_append, List.filter_cons_of_pos rfl, List.filter_append,
    inside]
  cases isSpace tree <;> simp [free, Function.comp_def]

/-! ## The nodes of the outline -/

variable (tokens : Array Token)

def names (tree : Tree Mark) : List (Tree Mark) :=
  tree.children.filter fun child => child.mark = .name

/-- What a part is told as, with this list if it is a namespace: a namespace under the text of its
first name, or none, and a class, interface or trait under the text of its first name, if it has
one. -/
def told? (list : List SourceNode) (tree : Tree Mark) : Option SourceNode :=
  match tree.mark, names tree with
  | .space, [] => some (.inNamespace "" list)
  | .space, name :: _ => some (.inNamespace (name.text tokens) list)
  | .type kind, name :: _ =>
    some (.declared ⟨kind, name.text tokens, methods tokens tree.children, tree.firstLine tokens,
      tree.lastLine tokens⟩)
  | _, _ => none

def heading? (tree : Tree Mark) : Option SourceNode := told? tokens [] tree

/-- What a part is told as, with the list of a namespace made of its body. -/
def node? (tree : Tree Mark) : Option SourceNode :=
  told? tokens (outlines tokens (bodyIn tree.children)) tree

theorem nameIn?_eq_head? (tree : Tree Mark) :
    nameIn? tokens tree.children = (names tree).head?.map (text tokens) := by
  rw [nameIn?, child?, names, List.head?_filter]

/-- A namespace is always told. -/
theorem told?_of_space {tree : Tree Mark} (space : tree.mark = .space) (list : List SourceNode) :
    told? tokens list tree = some (.inNamespace (spaceName tokens tree.children) list) := by
  rw [told?, spaceName, nameIn?_eq_head?, space]
  cases names tree <;> rfl

/-- Only a namespace has a list, and the other parts that are told are the declarations. -/
theorem told?_of_other {tree : Tree Mark} (other : tree.mark ≠ .space) (list : List SourceNode) :
    told? tokens list tree = (declaration? tokens tree).map .declared := by
  rw [told?, declaration?, nameIn?_eq_head?]
  cases mark : tree.mark with
  | space => exact absurd mark other
  | type kind => cases names tree <;> rfl
  | _ => cases names tree <;> rfl

/-- No part of a namespace but its body has anything in it that is told. -/
def Sealed (trees : List (Tree Mark)) : Prop :=
  ∀ space ∈ parts trees, space.mark = .space →
    ∀ part ∈ parts (space.children.eraseP fun child => child.mark = .body),
      heading? tokens part = none

instance (trees : List (Tree Mark)) : Decidable (Sealed tokens trees) :=
  decidable_of_iff (∀ space ∈ parts trees, space.mark = .space →
    ∀ part ∈ parts (space.children.eraseP fun child => child.mark = .body),
      (heading? tokens part).isNone = true) (by simp only [Sealed, Option.isNone_iff_eq_none])

/-- But for its list, a node is what its part is told as. -/
theorem map_heading_node? (tree : Tree Mark) :
    (node? tokens tree).map SourceNode.heading = heading? tokens tree := by
  unfold node? heading? told?
  cases tree.mark <;> cases names tree <;> rfl

theorem node?_eq_none {tree : Tree Mark} :
    node? tokens tree = none ↔ heading? tokens tree = none := by
  rw [← map_heading_node?, Option.map_eq_none_iff]

/-- What stands in the first body is the outline of what the body holds. -/
theorem bodyOutline_eq (children : List (Tree Mark)) :
    bodyOutline tokens children = outlines tokens (bodyIn children) := by
  induction children with
  | nil => rfl
  | cons child children ih =>
    obtain ⟨mark, first, last, inside⟩ := child
    cases mark with
    | body => rfl
    | _ => exact ih

/-- What a part is told as comes before what its children come to. A namespace ends there. -/
theorem outline_eq (tree : Tree Mark) :
    outline tokens tree =
      (node? tokens tree).toList ++
        if isSpace tree then [] else outlines tokens tree.children := by
  obtain ⟨mark, first, last, children⟩ := tree
  cases mark with
  | space =>
    rw [outline, bodyOutline_eq, node?, told?_of_space tokens rfl]
    rfl
  | type kind =>
    rw [outline, node?, told?_of_other tokens (by simp [mark])]
    rfl
  | _ =>
    rw [node?, told?_of_other tokens (by simp [mark])]
    rfl

theorem outlines_cons (tree : Tree Mark) (rest : List (Tree Mark)) :
    outlines tokens (tree :: rest) =
      ((node? tokens tree).toList ++
        if isSpace tree then [] else outlines tokens tree.children) ++ outlines tokens rest := by
  rw [outlines, outline_eq]

/-- A list has the nodes of the parts that no namespace keeps from it. -/
theorem outlines_eq_free (trees : List (Tree Mark)) :
    outlines tokens trees = (free trees).filterMap (node? tokens) := by
  induction trees using forest_induction with
  | nil => rfl
  | cons tree rest inside ih =>
    rw [outlines_cons, free_cons, List.filterMap_append, ih]
    cases space : isSpace tree <;> cases told : node? tokens tree <;> simp [told, inside]

/-- Where nothing is told there is no outline. -/
theorem outlines_eq_nil {trees : List (Tree Mark)}
    (silent : ∀ part ∈ parts trees, heading? tokens part = none) : outlines tokens trees = [] := by
  induction trees using forest_induction with
  | nil => rfl
  | cons tree rest inside ih =>
    rw [parts_cons, List.forall_mem_append, List.forall_mem_cons] at silent
    obtain ⟨⟨untold, within⟩, later⟩ := silent
    rw [outlines_cons, (node?_eq_none tokens).mpr untold, inside within, ih later, ite_self]
    rfl

/-- Nothing is lost with what stands beside a body, if nothing is told there. -/
theorem outlines_bodyIn {children : List (Tree Mark)}
    (silent : ∀ part ∈ parts (children.eraseP fun child => child.mark = .body),
      heading? tokens part = none) :
    outlines tokens (bodyIn children) = outlines tokens children := by
  induction children with
  | nil => rfl
  | cons child children ih =>
    obtain ⟨mark, first, last, inside⟩ := child
    by_cases body : mark = .body
    · -- The body is found here, and all behind it is silent.
      subst body
      rw [List.eraseP_cons_of_pos rfl] at silent
      rw [outlines, outlines_eq_nil tokens silent, List.append_nil]
      rfl
    · -- The body is farther on, and this part is silent.
      have kept : decide ((node mark first last inside).mark = .body) = false :=
        decide_eq_false body
      have skipped : bodyIn (node mark first last inside :: children) = bodyIn children := by
        rw [bodyIn, child?, List.find?_cons_of_neg (by simpa using kept)]
        rfl
      rw [List.eraseP_cons_of_neg (by simpa using kept), parts_cons, List.forall_mem_append,
        List.forall_mem_cons] at silent
      obtain ⟨⟨untold, within⟩, later⟩ := silent
      rw [skipped, ih later, outlines_cons, (node?_eq_none tokens).mpr untold,
        outlines_eq_nil tokens within, ite_self]
      rfl

/-- In a sealed tree all parts are sealed, and a namespace has its outline from its body alone. -/
theorem Sealed.of_cons {tree : Tree Mark} {rest : List (Tree Mark)}
    (sealed : Sealed tokens (tree :: rest)) :
    (isSpace tree = true →
      outlines tokens (bodyIn tree.children) = outlines tokens tree.children) ∧
      Sealed tokens tree.children ∧ Sealed tokens rest := by
  rw [Sealed, parts_cons, List.forall_mem_append, List.forall_mem_cons] at sealed
  obtain ⟨⟨here, within⟩, later⟩ := sealed
  exact ⟨fun space => outlines_bodyIn tokens (here (of_decide_eq_true space)), within, later⟩

/-- In a row, the outline of a part is its own node and the outlines of what is in it. -/
theorem preorderAll_outline {tree : Tree Mark}
    (whole : isSpace tree = true →
      outlines tokens (bodyIn tree.children) = outlines tokens tree.children) :
    preorderAll (outline tokens tree) =
      (node? tokens tree).toList ++ preorderAll (outlines tokens tree.children) := by
  obtain ⟨mark, first, last, children⟩ := tree
  cases mark with
  | space =>
    have whole : outlines tokens (bodyIn children) = outlines tokens children := whole rfl
    have told : node? tokens (node .space first last children) =
        some (.inNamespace (spaceName tokens children) (outlines tokens (bodyIn children))) :=
      told?_of_space tokens rfl _
    rw [outline, bodyOutline_eq, told, whole, preorderAll, preorder, preorderAll, List.append_nil]
    rfl
  | type kind =>
    rw [outline, preorderAll_append, node?, told?_of_other tokens (by simp [mark])]
    cases declaration? tokens (node (.type kind) first last children) <;> rfl
  | _ => rfl

/-- In a row, the outline has the nodes of all parts in document order. -/
theorem preorderAll_outlines {trees : List (Tree Mark)} (sealed : Sealed tokens trees) :
    preorderAll (outlines tokens trees) = (parts trees).filterMap (node? tokens) := by
  induction trees using forest_induction with
  | nil => rfl
  | cons tree rest inside ih =>
    obtain ⟨here, within, later⟩ := sealed.of_cons
    rw [outlines, preorderAll_append, preorderAll_outline tokens here, ih later, inside within,
      parts_cons, List.filterMap_append, List.filterMap_cons]
    cases node? tokens tree <;> rfl

/-- The list of the nearest namespace around, or else that of the file. -/
def listAround (file : List SourceNode) (around : List (Tree Mark)) : List SourceNode :=
  match around.find? isSpace with
  | some space => outlines tokens (bodyIn space.children)
  | none => file

theorem listAround_append (file : List SourceNode) (around : List (Tree Mark)) (tree : Tree Mark) :
    listAround tokens file (around ++ [tree]) =
      listAround tokens
        (if isSpace tree then outlines tokens (bodyIn tree.children) else file) around := by
  unfold listAround
  rw [List.find?_append]
  cases around.find? isSpace with
  | some space => rfl
  | none => cases space : isSpace tree <;> simp [space]

theorem mem_listAround_of_subset {file more : List SourceNode} (within : file ⊆ more)
    {around : List (Tree Mark)} {node : SourceNode} (mem : node ∈ listAround tokens file around) :
    node ∈ listAround tokens more around := by
  unfold listAround at mem ⊢
  cases nearest : around.find? isSpace with
  | some space =>
    rw [nearest] at mem
    exact mem
  | none =>
    rw [nearest] at mem
    exact within mem

/-- What is told stands in the list of the nearest namespace around it. -/
theorem mem_listAround {trees : List (Tree Mark)} (sealed : Sealed tokens trees)
    {place : List (Tree Mark) × Tree Mark} (mem : place ∈ placesAll [] trees) {node : SourceNode}
    (told : node? tokens place.2 = some node) :
    node ∈ listAround tokens (outlines tokens trees) place.1 := by
  induction trees using forest_induction generalizing place with
  | nil => cases mem
  | cons tree rest inside ih =>
    obtain ⟨here, within, later⟩ := sealed.of_cons
    rw [placesAll_cons, List.mem_append, List.mem_cons, List.mem_map] at mem
    rcases mem with (rfl | ⟨inner, mem, rfl⟩) | mem
    · change node ∈ outlines tokens (tree :: rest)
      rw [outlines_cons, told]
      exact List.mem_append_left _ (List.mem_append_left _ (List.mem_singleton_self node))
    · -- Seen from inside, the list around is that of the first tree if it is a namespace.
      rw [listAround_append]
      refine mem_listAround_of_subset tokens ?_ (inside within mem told)
      cases space : isSpace tree with
      | true => rw [if_pos rfl, here space]; exact List.Subset.refl _
      | false =>
        rw [if_neg Bool.false_ne_true, outlines_cons, space, if_neg Bool.false_ne_true]
        exact fun _ among => List.mem_append_left _ (List.mem_append_right _ among)
    · exact mem_listAround_of_subset tokens (List.subset_append_right _ _) (ih later mem told)

/-- The outline of a tree loses, repeats and reorders nothing. In a row its nodes are those of the
namespaces and named types among all parts, in document order, each namespace with the list that is
made of its body. Each stands in the list of the nearest namespace around it, or of the file; and a
list, of the file or of a body, has the nodes of just those parts that no nearer namespace is
around. -/
theorem outlines_tell_all {trees : List (Tree Mark)} (sealed : Sealed tokens trees) :
    (preorderAll (outlines tokens trees)).map SourceNode.heading =
      (parts trees).filterMap (heading? tokens) ∧
    preorderAll (outlines tokens trees) = (parts trees).filterMap (node? tokens) ∧
    (∀ place ∈ placesAll [] trees, ∀ node, node? tokens place.2 = some node →
      node ∈ listAround tokens (outlines tokens trees) place.1) ∧
    ∀ list, outlines tokens list = (free list).filterMap (node? tokens) := by
  refine ⟨?_, preorderAll_outlines tokens sealed,
    fun place mem node told => mem_listAround tokens sealed mem told, outlines_eq_free tokens⟩
  rw [preorderAll_outlines tokens sealed, List.map_filterMap]
  exact List.filterMap_congr fun tree _ => map_heading_node? tokens tree

/-- A namespace has a class with an interface in one of its methods, a trait in a class without a
name and a class in another part; a class stands behind it. -/
theorem outlines_tell_all_nested_types :
    let word (text : String) (line : Nat) : Token := ⟨.name, text, " ", ⟨line, 1⟩, ⟨line, 2⟩⟩
    let tokens := #[word "a" 1, word "C" 2, word "f" 3, word "I" 4, word "T" 5, word "D" 6,
      word "E" 7]
    let name (n : Nat) : Tree Mark := node .name n (n + 1) []
    let type (kind : TypeKind) (n : Nat) (children : List (Tree Mark)) : Tree Mark :=
      node (.type kind) n (n + 1) children
    let method : Tree Mark := node .method 2 4 [name 2, type .interfaceType 3 [name 3]]
    let trees : List (Tree Mark) :=
      [node .space 0 6 [name 0, node .body 1 6
          [type .classType 1 [name 1, node .body 2 4 [method]],
            type .classType 4 [type .traitType 4 [name 4]],
            node .group 5 6 [type .classType 5 [name 5]]]],
        type .classType 6 [name 6]]
    let declared (kind : TypeKind) (name : String) (line : Nat)
        (methods : List MethodDeclaration) : SourceNode :=
      .declared ⟨kind, name, methods, line, line⟩
    let inside : List SourceNode :=
      [declared .classType "C" 2 [⟨"f", 3, 4⟩], declared .interfaceType "I" 4 [],
        declared .traitType "T" 5 [], declared .classType "D" 6 []]
    let last := declared .classType "E" 7 []
    Sealed tokens trees ∧
      (preorderAll (outlines tokens trees)).map SourceNode.heading =
        .inNamespace "a" [] :: inside ++ [last] ∧
      outlines tokens trees = [.inNamespace "a" inside, last] := by
  intro word tokens name type method trees declared inside last
  have sealed : Sealed tokens trees := by decide
  obtain ⟨row, -, -, lists⟩ := outlines_tell_all tokens sealed
  exact ⟨sealed, row, lists trees⟩

end Php.Tree

end PackageIndex
