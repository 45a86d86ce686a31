import PackageIndex.Proofs.Address.Grammar

/-!
# The address that a path stands for

The path of a compiled address is written as the address itself with a single slash before it. Empty
parts inside the address and at its end are kept, and no literal part is written as a variable; so
what is written compiles to the same segments, and the path tells the address but for the slashes at
its beginning.
-/
namespace PackageIndex.Address

/-- A segment is written as the part that it was read from. -/
theorem Reads.part_eq {part : String} {segment : Segment} (reads : Reads part segment) :
    segment.part = part := by
  rcases reads with ⟨name, written⟩ | ⟨-, rfl⟩
  · cases written with
    | parameter named => rfl
    | typed named => simp [Segment.part, Segment.numeric]
    | wildcard named => rfl
  · rfl

theorem part_classify (part : String) : (classify part).part = part :=
  (classify_eq_iff.mp rfl).part_eq

/-! ## Writing a path -/

/-- A slash before each part is one slash and the parts joined. -/
theorem join_slash_cons (part : String) (parts : List String) :
    String.join ((part :: parts).map ("/" ++ ·)) = "/" ++ Text.join '/' (part :: parts) := by
  induction parts generalizing part with
  | nil => simp
  | cons next parts ih =>
    rw [List.map_cons, String.join_cons, ih next]
    simp [Text.join, String.append_assoc]

theorem literalText?_eq {segment : Segment} (literal : segment.isLiteral = true) :
    literalText? segment = some segment.part := by
  cases segment with
  | literal text => rfl
  | parameter | wildcard | typed => cases literal

/-- Both kinds of paths are written as the parts of their segments. -/
theorem address_toRoutePath (address : Address) :
    address.toRoutePath.address = "/" ++ Text.join '/' (address.segments.map Segment.part) := by
  cases varies : address.hasVariables with
  | false =>
    have literal : ∀ segment ∈ address.segments, literalText? segment = some segment.part := by
      intro segment mem
      have fixed := List.any_eq_false.mp varies segment mem
      exact literalText?_eq (by simpa using fixed)
    have texts : address.segments.filterMap literalText? = address.segments.map Segment.part := by
      rw [List.filterMap_congr literal]
      exact congrFun List.filterMap_eq_map' _
    simp [toRoutePath, varies, RoutePath.address, texts]
  | true =>
    obtain ⟨segment, rest, split⟩ : ∃ segment rest, address.segments = segment :: rest := by
      cases split : address.segments with
      | nil => simp [hasVariables, split] at varies
      | cons segment rest => exact ⟨segment, rest, rfl⟩
    have joined := join_slash_cons segment.part (rest.map Segment.part)
    simpa [toRoutePath, varies, RoutePath.address, split, Function.comp_def] using joined

/-! ## What is compiled again -/

/-- Compiling looks at an address without its leading slashes only. -/
theorem compile_congr {text other : String} (same : unslashed text = unslashed other) :
    compile text = compile other := by
  simp only [compile, parts_eq, same]

theorem unslashed_slash (text : String) : unslashed ("/" ++ text) = unslashed text := by
  simp [unslashed]

theorem unslashed_unslashed (text : String) : unslashed (unslashed text) = unslashed text := by
  simp [unslashed, List.dropWhile_idempotent]

/-- The segments of an address are written as its parts. -/
theorem parts_of_compile {text : String} {address : Address}
    (compiled : compile text = .ok address) :
    address.segments.map Segment.part = Text.pieces '/' (unslashed text) := by
  have more : unslashed text ≠ "" := by
    intro bare
    rw [compile_of_slashes bare] at compiled
    cases compiled
  rw [(compile_eq_ok compiled).1, parts_eq, if_neg more, List.map_map]
  simp [Function.comp_def, part_classify]

/-- The path of an address stands for the address itself, with one slash before it. -/
theorem address_of_compile {text : String} {address : Address}
    (compiled : compile text = .ok address) :
    address.toRoutePath.address = "/" ++ unslashed text := by
  rw [address_toRoutePath, parts_of_compile compiled, Text.join_pieces]

/-- An accepted address is written with one slash before it, and what is written compiles to what
the address did. So two accepted addresses have one path just when they differ in the slashes at
their beginning alone. -/
theorem path_tells_address {text : String} {address : Address}
    (compiled : compile text = .ok address) :
    address.toRoutePath.address = "/" ++ unslashed text ∧
    compile address.toRoutePath.address = .ok address ∧
    ∀ other otherAddress, compile other = .ok otherAddress →
      (otherAddress.toRoutePath = address.toRoutePath ↔ unslashed other = unslashed text) := by
  have written := address_of_compile compiled
  refine ⟨written, ?_, ?_⟩
  · rw [written, ← compiled]
    apply compile_congr
    rw [unslashed_slash, unslashed_unslashed]
  · intro other otherAddress accepted
    constructor
    · intro same
      have equal : "/" ++ unslashed other = "/" ++ unslashed text := by
        rw [← address_of_compile accepted, ← written, same]
      simpa using equal
    · intro same
      have again : compile other = .ok address := by rw [compile_congr same, compiled]
      rw [again] at accepted
      cases accepted
      rfl

/-- Empty parts inside an address and behind it stay, and only the slashes before it do not. -/
theorem path_tells_address_empty_parts :
    let text := "//a//:id/:page:int/:rest.../"
    let address : Address := ⟨[.literal "a", .literal "", .parameter "id",
      .typed "page" Segment.numeric, .wildcard "rest", .literal ""]⟩
    let other : Address := ⟨[.literal "a", .parameter "id"]⟩
    compile text = .ok address ∧ compile "/a/:id" = .ok other ∧
      address.toRoutePath.address = "/a//:id/:page:int/:rest.../" ∧
      compile "/a//:id/:page:int/:rest.../" = .ok address ∧
      other.toRoutePath ≠ address.toRoutePath := by
  intro text address other
  have compiled : compile text = .ok address := by decide +kernel
  have accepted : compile "/a/:id" = .ok other := by decide +kernel
  obtain ⟨written, again, tells⟩ := path_tells_address compiled
  have spelled : unslashed text = "a//:id/:page:int/:rest.../" := by decide +kernel
  rw [spelled] at written
  refine ⟨compiled, accepted, written, ?_, ?_⟩
  · rw [written] at again
    exact again
  · rw [Ne, tells _ _ accepted]
    decide +kernel

end PackageIndex.Address
