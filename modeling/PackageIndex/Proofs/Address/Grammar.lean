import Mathlib.Data.List.DropRight
import Mathlib.Data.List.Forall2
import PackageIndex.Proofs.Address

/-!
# The grammar of addresses

Which parts are variables is told by the three ways a variable is written, and which addresses are
refused by two parts that name one variable. Compiling decides just that: every part that is no
variable stands for itself, and the fault of a repetition names the first part that repeats one.
-/
namespace PackageIndex.Address

/-! ## Variables -/

def IsNameLetter (c : Char) : Prop :=
  'A' ≤ c ∧ c ≤ 'Z' ∨ 'a' ≤ c ∧ c ≤ 'z' ∨ '0' ≤ c ∧ c ≤ '9' ∨ c = '_' ∨ c = '-'

instance : DecidablePred IsNameLetter := fun _ => inferInstanceAs (Decidable (_ ∨ _))

def IsName (name : String) : Prop := name ≠ "" ∧ ∀ c ∈ name.toList, IsNameLetter c

-- Decided over the letters of the name; the instance over all characters could not be evaluated.
instance : DecidablePred IsName := fun name =>
  @instDecidableAnd _ _ _ (List.decidableBAll IsNameLetter name.toList)

/-- The three ways to write a variable, each with the name of the variable and the segment that it
asks for. -/
inductive Variable : (part name : String) → Segment → Prop
  | parameter {name : String} (named : IsName name) :
    Variable (":" ++ name) name (.parameter name)
  | typed {name : String} (named : IsName name) :
    Variable (":" ++ name ++ ":int") name (.typed name "/^\\d+$/")
  | wildcard {name : String} (named : IsName name) :
    Variable (":" ++ name ++ "...") name (.wildcard name)

/-- What no way of writing a variable gives stands for itself. -/
def Reads (part : String) (segment : Segment) : Prop :=
  (∃ name, Variable part name segment) ∨
    (∀ name other, ¬ Variable part name other) ∧ segment = .literal part

/-- The characters that compiling takes for a name are those that a name may have. -/
theorem isNameChar_iff {c : Char} : isNameChar c = true ↔ IsNameLetter c := by
  simp only [isNameChar, IsNameLetter, Char.isAlphanum, Bool.or_eq_true, Text.isAlpha_iff,
    Text.isDigit_iff, decide_eq_true_eq, or_assoc]

theorem Variable.not_literal {part name text : String} : ¬ Variable part name (.literal text) :=
  nofun

theorem Variable.variableName?_eq {part name : String} {segment : Segment}
    (written : Variable part name segment) : segment.variableName? = some name := by
  cases written <;> rfl

/-- The name ends where a character stands that it cannot have. -/
theorem span_name {name : String} (named : IsName name) (ending : List Char)
    (ends : ending.takeWhile isNameChar = []) :
    (name.toList ++ ending).takeWhile isNameChar = name.toList ∧
      (name.toList ++ ending).dropWhile isNameChar = ending := by
  have letters : ∀ c ∈ name.toList, isNameChar c = true :=
    fun c mem => isNameChar_iff.mpr (named.2 c mem)
  have left : ending.dropWhile isNameChar = ending := by
    have whole := @List.takeWhile_append_dropWhile _ isNameChar ending
    rwa [ends, List.nil_append] at whole
  rw [List.takeWhile_append_of_pos letters, List.dropWhile_append_of_pos letters, ends, left,
    List.append_nil]
  exact ⟨rfl, rfl⟩

/-- Each way of writing a variable is read as its own segment. -/
theorem Variable.classify_eq {part name : String} {segment : Segment}
    (written : Variable part name segment) : classify part = segment := by
  cases written with
  | parameter named =>
    have span := span_name named [] rfl
    simp only [List.append_nil] at span
    simp [classify, span, named.1]
  | typed named =>
    have span := span_name named [':', 'i', 'n', 't'] rfl
    simp [classify, span, named.1, Segment.numeric]
  | wildcard named =>
    have span := span_name named ['.', '.', '.'] rfl
    simp [classify, span, named.1]

theorem isName_takeWhile {letters : List Char}
    (nonempty : String.ofList (letters.takeWhile isNameChar) ≠ "") :
    IsName (String.ofList (letters.takeWhile isNameChar)) := by
  refine ⟨nonempty, fun c mem => isNameChar_iff.mp ?_⟩
  rw [String.toList_ofList] at mem
  exact List.mem_takeWhile_imp mem

/-- Whatever is not taken literally was written as a variable. -/
theorem variable_or_literal (part : String) :
    (∃ name, Variable part name (classify part)) ∨ classify part = .literal part := by
  unfold classify
  split
  · next rest letters =>
    dsimp only
    split
    · exact .inr rfl
    · next nonempty =>
      have named := isName_takeWhile nonempty
      have spelled : part = ":" ++ String.ofList (rest.takeWhile isNameChar) ++
          String.ofList (rest.dropWhile isNameChar) := by
        rw [← String.toList_inj, letters]
        simp
      split
      · next ending =>
        rw [spelled, ending]
        exact .inl ⟨_, by simpa using Variable.parameter named⟩
      · next ending =>
        rw [spelled, ending]
        exact .inl ⟨_, by simpa [Segment.numeric] using Variable.typed named⟩
      · next ending =>
        rw [spelled, ending]
        exact .inl ⟨_, by simpa using Variable.wildcard named⟩
      · exact .inr rfl
  · exact .inr rfl

/-- A part is read as one segment and no other. -/
theorem classify_eq_iff {part : String} {segment : Segment} :
    classify part = segment ↔ Reads part segment := by
  constructor
  · rintro rfl
    rcases variable_or_literal part with written | taken
    · exact .inl written
    · refine .inr ⟨fun name other written => ?_, taken⟩
      rw [written.classify_eq] at taken
      exact Variable.not_literal (taken ▸ written)
  · rintro (⟨name, written⟩ | ⟨none, rfl⟩)
    · exact written.classify_eq
    · exact (variable_or_literal part).resolve_left fun ⟨name, written⟩ => none name _ written

theorem forall₂_reads (parts : List String) : List.Forall₂ Reads parts (parts.map classify) := by
  rw [List.forall₂_map_right_iff, List.forall₂_same]
  exact fun part _ => classify_eq_iff.mp rfl

/-! ## Names that occur twice -/

def Names (part name : String) : Prop := ∃ segment, Variable part name segment

/-- No two of the parts are variables of one name. -/
def Apart (parts : List String) : Prop :=
  parts.Pairwise fun part other => ∀ name, Names part name → ¬ Names other name

/-- The first part that names a variable again gives it this name. -/
def FirstRepeats (parts : List String) (name : String) : Prop :=
  ∃ before part after, parts = before ++ part :: after ∧ Apart before ∧ Names part name ∧
    ∃ earlier ∈ before, Names earlier name

/-- A part names a variable just when the segment that it is read as does. -/
theorem names_iff {part name : String} :
    Names part name ↔ (classify part).variableName? = some name := by
  constructor
  · rintro ⟨segment, written⟩
    rw [written.classify_eq, written.variableName?_eq]
  · intro named
    rcases variable_or_literal part with ⟨other, written⟩ | taken
    · rw [written.variableName?_eq, Option.some.injEq] at named
      exact ⟨_, named ▸ written⟩
    · rw [taken] at named
      cases named

/-- Parts name different variables just when compiling finds no repetition. -/
theorem apart_iff {parts : List String} :
    Apart parts ↔ repeated? [] (parts.map classify) = none := by
  simp only [Apart, repeated?_eq_none, names_iff, List.Nodup, List.pairwise_filterMap,
    List.pairwise_map, List.not_mem_nil, not_false_eq_true, implies_true, and_true]
  apply List.Pairwise.iff
  intro part other
  constructor
  · rintro apart one first another second rfl
    exact apart one first second
  · intro apart name first second
    exact apart name first name second rfl

/-- A place in a list is its first place or one in what follows. -/
theorem exists_append_cons {α : Type} {first : α} {rest : List α} {p : List α → α → Prop} :
    (∃ before a after, first :: rest = before ++ a :: after ∧ p before a) ↔
      p [] first ∨ ∃ before a after, rest = before ++ a :: after ∧ p (first :: before) a := by
  constructor
  · rintro ⟨before, a, after, split, holds⟩
    cases before with
    | nil =>
      cases split
      exact .inl holds
    | cons b before =>
      cases split
      exact .inr ⟨before, a, after, rfl, holds⟩
  · rintro (holds | ⟨before, a, after, rfl, holds⟩)
    · exact ⟨[], first, rest, rfl, holds⟩
    · exact ⟨first :: before, a, after, rfl, holds⟩

/-- A name is repeated at the first place where it was met before, among the earlier names or in the
segments that come before it. -/
theorem repeated?_eq_some {earlier : List String} {segments : List Segment} {name : String} :
    repeated? earlier segments = some name ↔
      ∃ before segment after, segments = before ++ segment :: after ∧
        repeated? earlier before = none ∧ segment.variableName? = some name ∧
          (name ∈ earlier ∨ name ∈ before.filterMap Segment.variableName?) := by
  induction segments generalizing earlier with
  | nil => simp [repeated?]
  | cons segment segments ih =>
    rw [exists_append_cons]
    cases named : segment.variableName? with
    | none => simp [repeated?, named, ih]
    | some own =>
      by_cases seen : own ∈ earlier
      · simp only [repeated?, named, seen, if_true, Option.some.injEq, reduceCtorEq, false_and,
          and_false, exists_false, or_false, List.filterMap_nil, List.not_mem_nil, true_and]
        constructor
        · rintro rfl
          exact ⟨rfl, seen⟩
        · exact And.left
      · have fresh : ¬ (name = own ∧ name ∈ earlier) := by
          rintro ⟨rfl, mem⟩
          exact seen mem
        simp only [repeated?, named, seen, if_false, ih, Option.some.injEq, List.filterMap_nil,
          List.not_mem_nil, or_false, true_and, fresh, false_or, List.filterMap_cons_some named,
          List.mem_cons, or_assoc, or_left_comm, @eq_comm _ own]

/-- The repetition that compiling finds is the first one in the parts. -/
theorem firstRepeats_iff {parts : List String} {name : String} :
    FirstRepeats parts name ↔ repeated? [] (parts.map classify) = some name := by
  simp only [FirstRepeats, repeated?_eq_some, apart_iff, names_iff, List.not_mem_nil, false_or,
    List.mem_filterMap, List.map_eq_append_iff, List.map_eq_cons_iff]
  constructor
  · rintro ⟨before, part, after, rfl, apart, named, earlier, mem, again⟩
    exact ⟨before.map classify, classify part, after.map classify, ⟨before, part :: after, rfl, rfl,
      part, after, rfl, rfl, rfl⟩, apart, named, classify earlier, List.mem_map_of_mem mem, again⟩
  · rintro ⟨_, _, _, ⟨before, _, rfl, rfl, part, after, rfl, rfl, rfl⟩, apart, named, _, mem, again⟩
    obtain ⟨earlier, among, rfl⟩ := List.mem_map.mp mem
    exact ⟨before, part, after, rfl, apart, named, earlier, among, again⟩

/-! ## Compiling -/

def unslashed (text : String) : String := String.ofList (text.toList.dropWhile (· = '/'))

theorem unslashed_eq_empty {text : String} : unslashed text = "" ↔ ∀ c ∈ text.toList, c = '/' := by
  rw [unslashed, String.ofList_eq_empty_iff, List.dropWhile_eq_nil_iff]
  simp

/-- Only the empty parts at the beginning come from slashes that do not count. -/
theorem dropWhile_splitOn (letters : List Char) :
    (letters.splitOn '/').dropWhile (· = []) =
      if letters.dropWhile (· = '/') = [] then []
      else (letters.dropWhile (· = '/')).splitOn '/' := by
  induction letters with
  | nil => simp
  | cons c letters ih =>
    by_cases slash : c = '/'
    · subst slash
      simpa [List.splitOn_cons_eq_if_modifyHead] using ih
    · obtain ⟨first, rest, split⟩ :=
        List.exists_cons_of_ne_nil (List.splitOn_ne_nil '/' letters)
      simp [List.splitOn_cons_eq_if_modifyHead, slash, split]

/-- Leading slashes do not count, and the rest of an address is parted at each slash. -/
theorem parts_eq (text : String) :
    parts text = if unslashed text = "" then [] else Text.pieces '/' (unslashed text) := by
  have empty : ∀ part : List Char, (String.ofList part = "") = (part = []) := by simp
  rw [parts, Text.pieces, List.dropWhile_map]
  simp only [Function.comp_def, empty, dropWhile_splitOn]
  split
  · next gone => simp [unslashed, gone]
  · next left => simp [unslashed, left, Text.pieces]

/-- Nothing is left of slashes alone. -/
theorem compile_of_slashes {text : String} (bare : unslashed text = "") :
    compile text = .error .emptyAddress := by
  rw [compile, parts_eq, if_pos bare]

/-- What is left is compiled part by part, unless a name is repeated. -/
theorem compile_of_parts {text : String} (more : unslashed text ≠ "") :
    let segments := (Text.pieces '/' (unslashed text)).map classify
    compile text = (repeated? [] segments).elim (.ok ⟨segments⟩) fun name =>
      .error (.duplicateRouteVariable name) := by
  rw [compile, parts_eq, if_neg more]
  split
  · next none => exact absurd none (Text.pieces_ne_nil '/' _)
  · dsimp only
    split
    · next name found => rw [found, Option.elim_some]
    · next apart => rw [apart, Option.elim_none]

/-- An address is refused when nothing but slashes is in it, or for the first part that repeats a
name; every other address has one segment for each of its parts. -/
theorem compile_grammar (text : String) :
    let parts := Text.pieces '/' (unslashed text)
    (compile text = .error .emptyAddress ↔ ∀ c ∈ text.toList, c = '/') ∧
    (∀ name, compile text = .error (.duplicateRouteVariable name) ↔ FirstRepeats parts name) ∧
    ((∃ name, compile text = .error (.duplicateRouteVariable name)) ↔ ¬ Apart parts) ∧
    ((∃ address, compile text = .ok address ∧ List.Forall₂ Reads parts address.segments) ↔
      (∃ c ∈ text.toList, c ≠ '/') ∧ Apart parts) := by
  intro parts
  have other : (∃ c ∈ text.toList, c ≠ '/') ↔ ¬ unslashed text = "" := by
    simp [unslashed_eq_empty]
  rw [← unslashed_eq_empty, other]
  simp only [firstRepeats_iff, apart_iff]
  by_cases bare : unslashed text = ""
  · -- the one part that is left has no name
    have single : repeated? [] (parts.map classify) = none := by
      simp only [parts, bare, Text.pieces_empty]
      decide
    simp [compile_of_slashes bare, bare, single]
  · have compiled : compile text = (repeated? [] (parts.map classify)).elim
        (.ok ⟨parts.map classify⟩) fun name => .error (.duplicateRouteVariable name) :=
      compile_of_parts bare
    rw [compiled]
    clear_value parts
    cases repeats : repeated? [] (parts.map classify) with
    | some name => simp [bare]
    | none =>
      rw [Option.elim_none]
      refine ⟨by simp [bare], by simp, by simp, fun _ => ⟨bare, rfl⟩, fun _ => ?_⟩
      exact ⟨⟨parts.map classify⟩, rfl, forall₂_reads parts⟩

/-- A variable that repeats one of another kind is refused under its name, and it is the name that
is repeated first, not the one that is written first. Parts that are nearly variables are none. -/
theorem compile_grammar_across_kinds :
    let segments : List Segment :=
      [.literal "::a", .parameter "a", .literal ":", .literal ":a:str", .literal "a:b",
        .wildcard "b", .literal ":c..", .typed "d" "/^\\d+$/", .literal ""]
    compile "/:b.../:a/:a:int/:b" = .error (.duplicateRouteVariable "a") ∧
      compile "//::a/:a/:/:a:str/a:b/:b.../:c../:d:int/" = .ok ⟨segments⟩ ∧
      List.Forall₂ Reads ["::a", ":a", ":", ":a:str", "a:b", ":b...", ":c..", ":d:int", ""]
        segments := by
  intro segments
  obtain ⟨-, repeats, -, -⟩ := compile_grammar "/:b.../:a/:a:int/:b"
  obtain ⟨-, -, -, accepts⟩ := compile_grammar "//::a/:a/:/:a:str/a:b/:b.../:c../:d:int/"
  have refused : Text.pieces '/' (unslashed "/:b.../:a/:a:int/:b") =
      [":b...", ":a", ":a:int", ":b"] := by
    decide +kernel
  have accepted : Text.pieces '/' (unslashed "//::a/:a/:/:a:str/a:b/:b.../:c../:d:int/") =
      ["::a", ":a", ":", ":a:str", "a:b", ":b...", ":c..", ":d:int", ""] := by
    decide +kernel
  rw [refused] at repeats
  rw [accepted] at accepts
  have named : IsName "a" := by decide
  have twice : FirstRepeats [":b...", ":a", ":a:int", ":b"] "a" :=
    ⟨[":b...", ":a"], ":a:int", [":b"], rfl, apart_iff.mpr (by decide +kernel),
      ⟨_, .typed named⟩, ":a", by simp, ⟨_, .parameter named⟩⟩
  obtain ⟨address, compiled, reads⟩ :=
    accepts.mpr ⟨⟨':', by decide, by decide⟩, apart_iff.mpr (by decide +kernel)⟩
  have same : compile "//::a/:a/:/:a:str/a:b/:b.../:c../:d:int/" = .ok ⟨segments⟩ := by
    decide +kernel
  cases compiled.symm.trans same
  exact ⟨(repeats "a").mpr twice, same, reads⟩

end PackageIndex.Address
