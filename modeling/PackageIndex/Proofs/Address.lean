import PackageIndex.Address

/-!
# Variables of an address

A compiled address has one segment for each of its parts, no two of its variables have one name, and
it becomes a plain text exactly when it has no variable.
-/
namespace PackageIndex.Address

/-- Nothing is repeated just when the names of the variables differ from each other and from the
earlier ones. -/
theorem repeated?_eq_none {earlier : List String} {segments : List Segment} :
    repeated? earlier segments = none ↔
      (segments.filterMap Segment.variableName?).Nodup ∧
        ∀ name ∈ segments.filterMap Segment.variableName?, name ∉ earlier := by
  induction segments generalizing earlier with
  | nil => simp [repeated?]
  | cons segment segments ih =>
    unfold repeated?
    cases named : segment.variableName? with
    | none =>
      dsimp only
      rw [List.filterMap_cons_none named, ih]
    | some name =>
      dsimp only
      rw [List.filterMap_cons_some named]
      split
      · next seen => simp [seen]
      · next fresh =>
        rw [ih]
        simp only [List.nodup_cons, List.mem_cons, not_or]
        grind

/-- What is compiled has a segment for each part, and its variables have different names. -/
theorem compile_eq_ok {text : String} {address : Address} (h : compile text = .ok address) :
    address.segments = (parts text).map classify ∧ address.variableNames.Nodup := by
  unfold compile at h
  split at h
  · cases h
  · dsimp only at h
    split at h
    · cases h
    · next single =>
      cases h
      exact ⟨rfl, (repeated?_eq_none.mp single).1⟩

/-- An address has no variables just when it has no names of variables. -/
theorem hasVariables_eq_false {address : Address} :
    address.hasVariables = false ↔ address.variableNames = [] := by
  simp [hasVariables, variableNames, List.filterMap_eq_nil_iff]

/-- The path of an address is a plain text exactly when the address has no variable. -/
theorem toRoutePath_eq_literal {address : Address} :
    (∃ text, address.toRoutePath = .literal text) ↔ address.variableNames = [] := by
  rw [← hasVariables_eq_false]
  unfold toRoutePath
  cases address.hasVariables <;> simp

end PackageIndex.Address
