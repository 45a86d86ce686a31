import PackageIndex.Proofs.Path

/-!
# The directory of a path

The parent of a path is found in its text, from the end backwards. It has the components of the path
without the last one, and only what has no component to take off has no parent: the empty path and
the root.
-/
namespace PackageIndex.Path

/-! ## Components of pieces -/

/-- The components of a path without a leading slash, from its pieces. -/
def said (pieces : List String) : List Component :=
  (if pieces.head? = some "." then [.here] else []) ++ pieces.filterMap Component.ofPiece?

/-- A relative path has what its pieces say. -/
theorem components_of_relative {path : Path} (relative : path.isAbsolute = false) :
    path.components = said path.pieces := by
  rw [components_eq, opening, relative, said]
  rfl

theorem components_of_absolute {path : Path} (absolute : path.isAbsolute = true) :
    path.components = .root :: path.pieces.filterMap Component.ofPiece? := by
  rw [components_eq, opening, if_pos absolute]
  rfl

/-- The pieces that stand for nothing are those that are spelling alone. -/
theorem ofPiece?_eq_none {piece : String} :
    Component.ofPiece? piece = none ↔ isSpelling piece = true := by
  unfold Component.ofPiece? isSpelling
  split
  · next spelling => simpa using spelling
  · next said => split <;> simpa using said

theorem filterMap_concat (pieces : List String) (piece : String) :
    (pieces ++ [piece]).filterMap Component.ofPiece? =
      pieces.filterMap Component.ofPiece? ++ (Component.ofPiece? piece).toList := by
  rw [List.filterMap_append]
  cases told : Component.ofPiece? piece <;> simp [told]

/-- The last piece is told by itself, unless it is a dot that the path begins with. -/
theorem said_append {pieces : List String} {piece : String} (later : piece = "." → pieces ≠ []) :
    said (pieces ++ [piece]) = said pieces ++ (Component.ofPiece? piece).toList := by
  have first : ((pieces ++ [piece]).head? = some ".") ↔ pieces.head? = some "." := by
    cases pieces with
    | nil => simpa using fun dot => later dot rfl
    | cons first pieces => rfl
  rw [said, said, filterMap_concat, List.append_assoc]
  simp only [first]

/-- What remains of a list of components when the last one is taken off. -/
structure IsInit (start whole : List Component) : Prop where
  eq_dropLast : start = whole.dropLast
  nonempty : whole ≠ []

theorem IsInit.concat (start : List Component) {piece : String}
    (spelled : isSpelling piece = false) :
    IsInit start (start ++ (Component.ofPiece? piece).toList) := by
  cases told : Component.ofPiece? piece with
  | none =>
    rw [ofPiece?_eq_none.mp told] at spelled
    cases spelled
  | some component => exact ⟨by simp, by simp⟩

/-! ## Relative paths -/

/-- Trimming keeps an end of the pieces, which stand in reverse. -/
theorem trim_suffix (reversed : List String) : dropLast?.trim reversed <:+ reversed := by
  fun_induction dropLast?.trim reversed with
  | case1 => exact List.suffix_refl _
  | case2 => exact List.suffix_refl _
  | case3 piece rest _ _ ih => exact ih.trans (List.suffix_cons _ _)
  | case4 => exact List.suffix_refl _

theorem said_reverse_cons {piece : String} {rest : List String}
    (later : piece = "." → rest = [] → False) :
    said (piece :: rest).reverse = said rest.reverse ++ (Component.ofPiece? piece).toList := by
  rw [List.reverse_cons, said_append fun dot => by simpa using later dot]

/-- Trimming takes off spelling alone. -/
theorem said_trim (reversed : List String) :
    said (dropLast?.trim reversed).reverse = said reversed.reverse := by
  fun_induction dropLast?.trim reversed with
  | case1 => rfl
  | case2 => rfl
  | case3 piece rest later spelling ih =>
    rw [ih, said_reverse_cons later, ofPiece?_eq_none.mpr spelling, Option.toList_none,
      List.append_nil]
  | case4 => rfl

/-- Where no piece can be dropped, nothing is said. -/
theorem said_of_dropLast?_eq_none {reversed : List String} (ends : dropLast? reversed = none) :
    said reversed.reverse = [] := by
  fun_induction dropLast? reversed with
  | case1 => rfl
  | case2 => cases ends
  | case3 => rfl
  | case4 piece rest later _ spelling ih =>
    rw [said_reverse_cons later, ih ends, ofPiece?_eq_none.mpr spelling]
    rfl
  | case5 => cases ends

/-- Dropping the last piece that says something takes one component off. -/
theorem isInit_of_dropLast? {reversed kept : List String} (drops : dropLast? reversed = some kept) :
    IsInit (said kept.reverse) (said reversed.reverse) ∧ kept <:+ reversed := by
  fun_induction dropLast? reversed with
  | case1 => cases drops
  | case2 =>
    cases drops
    exact ⟨⟨rfl, by decide⟩, List.nil_suffix⟩
  | case3 => cases drops
  | case4 piece rest later _ spelling ih =>
    obtain ⟨init, suffix⟩ := ih drops
    rw [said_reverse_cons later, ofPiece?_eq_none.mpr spelling, Option.toList_none,
      List.append_nil]
    exact ⟨init, suffix.trans (List.suffix_cons _ _)⟩
  | case5 piece rest later _ spelled =>
    cases drops
    rw [said_trim, said_reverse_cons later]
    exact ⟨.concat _ (Bool.eq_false_iff.mpr spelled),
      (trim_suffix rest).trans (List.suffix_cons _ _)⟩

/-- Only an empty first piece with others behind it makes a path absolute. -/
theorem isAbsolute_join {first : String} (slashless : '/' ∉ first.toList) (rest : List String) :
    (Path.mk (Text.join '/' (first :: rest))).isAbsolute = true ↔ first = "" ∧ rest ≠ [] := by
  rw [isAbsolute, decide_eq_true_iff, Text.toList_join]
  cases letters : first.toList with
  | nil =>
    obtain rfl := String.toList_eq_nil_iff.mp letters
    cases rest <;> simp [List.intercalate_cons_cons]
  | cons c letters' =>
    have spelled : first ≠ "" := by
      rintro rfl
      cases letters
    have other : c ≠ '/' := by
      rintro rfl
      exact slashless (letters ▸ List.mem_cons_self ..)
    cases rest <;> simp [List.intercalate_cons_cons, letters, other, spelled]

/-- The first pieces of a relative path make a relative path. -/
theorem components_join_of_prefix {path : Path} (relative : path.isAbsolute = false)
    {pieces : List String} (start : pieces <+: path.pieces) :
    (Path.mk (Text.join '/' pieces)).components = said pieces := by
  have slashless : ∀ piece ∈ pieces, '/' ∉ piece.toList := fun piece mem =>
    Text.not_mem_of_mem_pieces (start.subset mem)
  cases pieces with
  | nil => rfl
  | cons first rest =>
    obtain ⟨more, whole⟩ := start
    have text : path = ⟨Text.join '/' (first :: (rest ++ more))⟩ := by
      rw [← List.cons_append, whole, Path.pieces, Text.join_pieces]
    have same : (Path.mk (Text.join '/' (first :: rest))).pieces = first :: rest :=
      Text.pieces_join (by simp) slashless
    rw [components_of_relative ?_, same]
    rw [text, Bool.eq_false_iff, Ne, isAbsolute_join (slashless first (by simp))] at relative
    rw [Bool.eq_false_iff, Ne, isAbsolute_join (slashless first (by simp))]
    exact fun opens => relative ⟨opens.1, List.append_ne_nil_of_left_ne_nil opens.2 _⟩

/-! ## Absolute paths -/

theorem filterMap_dropWhile_isSpelling (reversed : List String) :
    (reversed.dropWhile isSpelling).reverse.filterMap Component.ofPiece? =
      reversed.reverse.filterMap Component.ofPiece? := by
  induction reversed with
  | nil => rfl
  | cons piece rest ih =>
    by_cases spelling : isSpelling piece = true
    · rw [List.dropWhile_cons_of_pos spelling, ih, List.reverse_cons, filterMap_concat,
        ofPiece?_eq_none.mpr spelling, Option.toList_none, List.append_nil]
    · rw [List.dropWhile_cons_of_neg spelling]

theorem filterMap_of_dropLastAbsolute?_eq_none {reversed : List String}
    (ends : dropLastAbsolute? reversed = none) :
    reversed.reverse.filterMap Component.ofPiece? = [] := by
  fun_induction dropLastAbsolute? reversed with
  | case1 => rfl
  | case2 piece rest spelling ih =>
    rw [List.reverse_cons, filterMap_concat, ih ends, ofPiece?_eq_none.mpr spelling]
    rfl
  | case3 => cases ends

/-- Behind a leading slash too, dropping the last piece takes one component off. -/
theorem isInit_of_dropLastAbsolute? {reversed kept : List String}
    (drops : dropLastAbsolute? reversed = some kept) :
    IsInit (kept.reverse.filterMap Component.ofPiece?)
      (reversed.reverse.filterMap Component.ofPiece?) ∧ kept <:+ reversed := by
  fun_induction dropLastAbsolute? reversed with
  | case1 => cases drops
  | case2 piece rest spelling ih =>
    obtain ⟨init, suffix⟩ := ih drops
    rw [List.reverse_cons, filterMap_concat, ofPiece?_eq_none.mpr spelling, Option.toList_none,
      List.append_nil]
    exact ⟨init, suffix.trans (List.suffix_cons _ _)⟩
  | case3 piece rest spelled =>
    cases drops
    rw [filterMap_dropWhile_isSpelling, List.reverse_cons, filterMap_concat]
    exact ⟨.concat _ (Bool.eq_false_iff.mpr spelled),
      (List.dropWhile_suffix _).trans (List.suffix_cons _ _)⟩

/-- The piece before the leading slash is empty. -/
theorem components_of_absolute_tail {path : Path} (absolute : path.isAbsolute = true) :
    path.components = .root :: path.pieces.tail.filterMap Component.ofPiece? := by
  rw [components_of_absolute absolute]
  cases split : path.pieces with
  | nil => rfl
  | cons first rest =>
    have text : path = ⟨Text.join '/' (first :: rest)⟩ := by
      rw [← split, Path.pieces, Text.join_pieces]
    have among : first ∈ path.pieces := split ▸ List.mem_cons_self ..
    have slashless : '/' ∉ first.toList := Text.not_mem_of_mem_pieces among
    rw [text, isAbsolute_join slashless] at absolute
    rw [absolute.1, List.tail_cons, List.filterMap_cons_none rfl]

/-- A slash before pieces is the root before what they stand for. -/
theorem components_root_join {pieces : List String}
    (slashless : ∀ piece ∈ pieces, '/' ∉ piece.toList) :
    (Path.mk ("/" ++ Text.join '/' pieces)).components =
      .root :: pieces.filterMap Component.ofPiece? := by
  have absolute : (Path.mk ("/" ++ Text.join '/' pieces)).isAbsolute = true := by
    simp [isAbsolute]
  have split : (Path.mk ("/" ++ Text.join '/' pieces)).pieces =
      "" :: Text.pieces '/' (Text.join '/' pieces) := by
    have parted := Text.pieces_append '/' "" (Text.join '/' pieces)
    rwa [Text.pieces_empty, String.empty_append] at parted
  rw [components_of_absolute_tail absolute, split, List.tail_cons]
  cases pieces with
  | nil => rfl
  | cons first rest => rw [Text.pieces_join (by simp) slashless]

/-! ## The parent -/

/-- A parent has the components of the path without the last one. -/
theorem components_parent? {path directory : Path} (above : path.parent? = some directory) :
    directory.components = path.components.dropLast := by
  unfold parent? at above
  split at above
  · next absolute =>
    obtain ⟨kept, drops, rfl⟩ := Option.map_eq_some_iff.mp above
    obtain ⟨init, suffix⟩ := isInit_of_dropLastAbsolute? drops
    have start : kept.reverse <+: path.pieces.tail := by
      rwa [← List.reverse_suffix, List.reverse_reverse]
    rw [List.reverse_reverse] at init
    rw [components_of_absolute_tail absolute, List.dropLast_cons_of_ne_nil init.nonempty,
      ← init.eq_dropLast]
    exact components_root_join fun piece mem =>
      Text.not_mem_of_mem_pieces (List.mem_of_mem_tail (start.subset mem))
  · next relative =>
    obtain ⟨kept, drops, rfl⟩ := Option.map_eq_some_iff.mp above
    obtain ⟨init, suffix⟩ := isInit_of_dropLast? drops
    have start : kept.reverse <+: path.pieces := by
      rwa [← List.reverse_suffix, List.reverse_reverse]
    have relative := Bool.eq_false_iff.mpr relative
    rw [List.reverse_reverse] at init
    rw [components_of_relative relative, ← init.eq_dropLast]
    exact components_join_of_prefix relative start

/-- Without a parent there is no component to take off but the root. -/
theorem dropLast_components_of_parent?_eq_none {path : Path} (top : path.parent? = none) :
    path.components.dropLast = [] := by
  unfold parent? at top
  split at top
  · next absolute =>
    have ends := filterMap_of_dropLastAbsolute?_eq_none (Option.map_eq_none_iff.mp top)
    rw [List.reverse_reverse] at ends
    rw [components_of_absolute_tail absolute, ends]
    rfl
  · next relative =>
    have ends := said_of_dropLast?_eq_none (Option.map_eq_none_iff.mp top)
    rw [List.reverse_reverse] at ends
    rw [components_of_relative (Bool.eq_false_iff.mpr relative), ends]
    rfl

end PackageIndex.Path
