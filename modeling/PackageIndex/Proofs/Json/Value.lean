import PackageIndex.Json.Value

/-!
# The numbers, the depth and the order of a value

A document can be read back when no number of its value is a double and when not too many levels are
open at once. Sorting members adds neither numbers nor levels, and it has nothing left to do on a
value that has been sorted.
-/
namespace PackageIndex.Json

namespace Value

mutual
def numbers : Value → List Number
  | number n => [n]
  | array items => itemNumbers items
  | object members => memberNumbers members
  | null | bool _ | string _ => []
def itemNumbers : List Value → List Number
  | [] => []
  | item :: rest => numbers item ++ itemNumbers rest
def memberNumbers : List (String × Value) → List Number
  | [] => []
  | (_, value) :: rest => numbers value ++ memberNumbers rest
end

mutual
/-- How many arrays and objects are open at once in a value. -/
def depth : Value → Nat
  | array items => itemDepth items + 1
  | object members => memberDepth members + 1
  | null | bool _ | number _ | string _ => 0
def itemDepth : List Value → Nat
  | [] => 0
  | item :: rest => max (depth item) (itemDepth rest)
def memberDepth : List (String × Value) → Nat
  | [] => 0
  | (_, value) :: rest => max (depth value) (memberDepth rest)
end

theorem itemNumbers_eq_flatMap (items : List Value) :
    itemNumbers items = items.flatMap numbers := by
  induction items with
  | nil => rfl
  | cons item items ih => rw [itemNumbers, ih, List.flatMap_cons]

theorem memberNumbers_eq_flatMap (members : List (String × Value)) :
    memberNumbers members = members.flatMap fun member => member.2.numbers := by
  induction members with
  | nil => rfl
  | cons member members ih => rw [memberNumbers, ih, List.flatMap_cons]

/-- The numbers of an array are those of its items. -/
theorem mem_itemNumbers {n : Number} {items : List Value} :
    n ∈ itemNumbers items ↔ ∃ item ∈ items, n ∈ item.numbers := by
  rw [itemNumbers_eq_flatMap, List.mem_flatMap]

/-- The numbers of an object are those of its members. -/
theorem mem_memberNumbers {n : Number} {members : List (String × Value)} :
    n ∈ memberNumbers members ↔ ∃ member ∈ members, n ∈ member.2.numbers := by
  rw [memberNumbers_eq_flatMap, List.mem_flatMap]

/-- The depth of items is that of the deepest. -/
theorem itemDepth_le {k : Nat} {items : List Value} :
    itemDepth items ≤ k ↔ ∀ item ∈ items, item.depth ≤ k := by
  induction items with
  | nil => simp [itemDepth]
  | cons item items ih => rw [itemDepth, Nat.max_le, ih, List.forall_mem_cons]

/-- The depth of members is that of the deepest. -/
theorem memberDepth_le {k : Nat} {members : List (String × Value)} :
    memberDepth members ≤ k ↔ ∀ member ∈ members, member.2.depth ≤ k := by
  induction members with
  | nil => simp [memberDepth]
  | cons member members ih => rw [memberDepth, Nat.max_le, ih, List.forall_mem_cons]

/-! ## Members by name -/

def ByName (members : List (String × Value)) : Prop :=
  members.Pairwise fun a b => Text.precedes a.1 b.1 = true

theorem mem_insertMember {name : String} {value : Value} {members : List (String × Value)}
    {member : String × Value} (h : member ∈ insertMember name value members) :
    member = (name, value) ∨ member ∈ members := by
  induction members with
  | nil => exact .inl (List.mem_singleton.mp h)
  | cons first members ih =>
    unfold insertMember at h
    split at h
    · exact (List.mem_cons.mp h).imp id (List.mem_cons_of_mem _)
    · split at h
      · exact List.mem_cons.mp h
      · rcases List.mem_cons.mp h with rfl | h
        · exact .inr (List.mem_cons_self ..)
        · exact (ih h).imp id (List.mem_cons_of_mem _)

/-- A member that is put in its place keeps the others in order. -/
theorem byName_insertMember (name : String) (value : Value) {members : List (String × Value)}
    (h : ByName members) : ByName (insertMember name value members) := by
  induction members with
  | nil => exact List.pairwise_singleton _ _
  | cons first members ih =>
    obtain ⟨before, rest⟩ := List.pairwise_cons.mp h
    unfold insertMember
    split
    · next same => exact List.pairwise_cons.mpr ⟨same ▸ before, rest⟩
    · next other =>
      split
      · next earlier =>
        refine List.pairwise_cons.mpr ⟨fun member mem => ?_, h⟩
        rcases List.mem_cons.mp mem with rfl | mem
        · exact earlier
        · exact Text.precedes_trans earlier (before member mem)
      · next later =>
        refine List.pairwise_cons.mpr ⟨fun member mem => ?_, ih rest⟩
        rcases mem_insertMember mem with rfl | mem
        · exact (Text.precedes_total other).resolve_left later
        · exact before member mem

/-- A member that comes after all others goes to the end. -/
theorem insertMember_of_after {name : String} {value : Value} {members : List (String × Value)}
    (after : ∀ member ∈ members, Text.precedes member.1 name = true) :
    insertMember name value members = members ++ [(name, value)] := by
  induction members with
  | nil => rfl
  | cons first members ih =>
    have earlier := after first (List.mem_cons_self ..)
    have other : name ≠ first.1 := by
      rintro rfl
      rw [Text.precedes_irrefl] at earlier
      cases earlier
    have later : ¬ Text.precedes name first.1 = true := by
      intro h
      have circle := Text.precedes_trans h earlier
      rw [Text.precedes_irrefl] at circle
      cases circle
    rw [insertMember, if_neg other, if_neg later,
      ih fun member mem => after member (List.mem_cons_of_mem _ mem), List.cons_append]

/-- Sorted members are in order. -/
theorem byName_sortMembers (members : List (String × Value)) : ByName (sortMembers members) := by
  have insertions (done more : List (String × Value)) (h : ByName done) :
      ByName (more.foldl (fun done member => insertMember member.1 member.2 done) done) := by
    induction more generalizing done with
    | nil => exact h
    | cons member more ih => exact ih _ (byName_insertMember _ _ h)
  exact insertions [] members .nil

theorem mem_sortMembers {member : String × Value} {members : List (String × Value)}
    (h : member ∈ sortMembers members) : member ∈ members := by
  have insertions (done more : List (String × Value))
      (h : member ∈ more.foldl (fun done m => insertMember m.1 m.2 done) done) :
      member ∈ done ∨ member ∈ more := by
    induction more generalizing done with
    | nil => exact .inl h
    | cons first more ih =>
      rcases ih _ h with h | h
      · exact (mem_insertMember h).elim (fun same => .inr (by simp [same])) .inl
      · exact .inr (List.mem_cons_of_mem _ h)
  exact (insertions [] members h).resolve_left List.not_mem_nil

/-- Members that stand by name are left as they are. -/
theorem sortMembers_of_byName {members : List (String × Value)} (h : ByName members) :
    sortMembers members = members := by
  have insertions (done more : List (String × Value)) (h : ByName (done ++ more)) :
      more.foldl (fun done member => insertMember member.1 member.2 done) done = done ++ more := by
    induction more generalizing done with
    | nil => rw [List.foldl_nil, List.append_nil]
    | cons member more ih =>
      have after := (List.pairwise_append.mp h).2.2
      rw [List.foldl_cons, insertMember_of_after fun other mem =>
        after other mem member (List.mem_cons_self ..)]
      rw [ih _ (by rwa [List.append_assoc, List.singleton_append]), List.append_assoc,
        List.singleton_append]
  exact insertions [] members h

/-! ## Sorted values -/

theorem sortedMembers_eq_map (members : List (String × Value)) :
    sortedMembers members = members.map fun member => (member.1, member.2.sorted) := by
  induction members with
  | nil => rfl
  | cons member members ih => rw [sortedMembers, ih, List.map_cons]

mutual
/-- Sorting makes up no number. -/
theorem mem_numbers_of_sorted {n : Number} :
    (value : Value) → n ∈ value.sorted.numbers → n ∈ value.numbers
  | null, h | bool _, h | number _, h | string _, h => h
  | array items, h => mem_itemNumbers_of_sorted items h
  | object members, h => by
    rw [sorted, numbers, mem_memberNumbers] at h
    obtain ⟨member, mem, h⟩ := h
    exact mem_memberNumbers_of_sorted members
      (mem_memberNumbers.mpr ⟨member, mem_sortMembers mem, h⟩)
theorem mem_itemNumbers_of_sorted {n : Number} :
    (items : List Value) → n ∈ itemNumbers (sortedItems items) → n ∈ itemNumbers items
  | [], h => h
  | item :: items, h => by
    rw [sortedItems, itemNumbers, List.mem_append] at h
    rw [itemNumbers, List.mem_append]
    exact h.imp (mem_numbers_of_sorted item) (mem_itemNumbers_of_sorted items)
theorem mem_memberNumbers_of_sorted {n : Number} :
    (members : List (String × Value)) → n ∈ memberNumbers (sortedMembers members) →
      n ∈ memberNumbers members
  | [], h => h
  | (_, value) :: members, h => by
    rw [sortedMembers, memberNumbers, List.mem_append] at h
    rw [memberNumbers, List.mem_append]
    exact h.imp (mem_numbers_of_sorted value) (mem_memberNumbers_of_sorted members)
end

mutual
/-- Sorting makes nothing deeper. -/
theorem depth_sorted_le : (value : Value) → value.sorted.depth ≤ value.depth
  | null | bool _ | number _ | string _ => Nat.le_refl _
  | array items => Nat.succ_le_succ (itemDepth_sorted_le items)
  | object members => by
    rw [sorted, depth, depth]
    refine Nat.succ_le_succ (memberDepth_le.mpr fun member mem => ?_)
    exact memberDepth_le.mp (memberDepth_sorted_le members) member (mem_sortMembers mem)
theorem itemDepth_sorted_le : (items : List Value) → itemDepth (sortedItems items) ≤ itemDepth items
  | [] => Nat.le_refl _
  | item :: items => by
    have first := depth_sorted_le item
    have rest := itemDepth_sorted_le items
    rw [sortedItems, itemDepth, itemDepth]
    omega
theorem memberDepth_sorted_le :
    (members : List (String × Value)) → memberDepth (sortedMembers members) ≤ memberDepth members
  | [] => Nat.le_refl _
  | (_, value) :: members => by
    have first := depth_sorted_le value
    have rest := memberDepth_sorted_le members
    rw [sortedMembers, memberDepth, memberDepth]
    omega
end

mutual
/-- Sorting a sorted value changes nothing. -/
theorem sorted_sorted : (value : Value) → value.sorted.sorted = value.sorted
  | null | bool _ | number _ | string _ => rfl
  | array items => by rw [sorted, sorted, sortedItems_sortedItems items]
  | object members => by
    have kept : sortedMembers (sortMembers (sortedMembers members)) =
        sortMembers (sortedMembers members) := by
      rw [sortedMembers_eq_map (sortMembers _)]
      conv => rhs; rw [← List.map_id (sortMembers (sortedMembers members))]
      refine List.map_congr_left fun member mem => ?_
      rw [sorted_of_mem members member (mem_sortMembers mem)]
      rfl
    rw [sorted, sorted, kept, sortMembers_of_byName (byName_sortMembers _)]
theorem sortedItems_sortedItems :
    (items : List Value) → sortedItems (sortedItems items) = sortedItems items
  | [] => rfl
  | item :: items => by
    rw [sortedItems, sortedItems, sorted_sorted item, sortedItems_sortedItems items]
theorem sorted_of_mem : (members : List (String × Value)) → (member : String × Value) →
    member ∈ sortedMembers members → member.2.sorted = member.2
  | [], member, h => absurd h List.not_mem_nil
  | (name, value) :: members, member, h => by
    rw [sortedMembers, List.mem_cons] at h
    rcases h with rfl | h
    · exact sorted_sorted value
    · exact sorted_of_mem members member h
end

end Value

end PackageIndex.Json
