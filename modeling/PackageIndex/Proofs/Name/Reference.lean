import PackageIndex.Name.Controller
import PackageIndex.Proofs.Name.Qualified

/-!
# The text of a controller reference

A reference is accepted just when, with backslashes for its slashes, it is words with backslashes
between them, an `@` and one more word. That text is what the reference is printed as, so a
reference has one text and is told by it, whether it is read or made of its parts.
-/
namespace PackageIndex

namespace Name

def IsLetter (c : Char) : Prop := 'A' ≤ c ∧ c ≤ 'Z' ∨ 'a' ≤ c ∧ c ≤ 'z' ∨ c = '_'

instance : DecidablePred IsLetter := fun _ => inferInstanceAs (Decidable (_ ∨ _))

/-- A letter, and then letters and digits. -/
def IsWord (letters : List Char) : Prop :=
  ∃ first rest, letters = first :: rest ∧ IsLetter first ∧
    ∀ c ∈ rest, IsLetter c ∨ '0' ≤ c ∧ c ≤ '9'

theorem isInitial_iff {c : Char} : isInitial c = true ↔ IsLetter c := by
  simp only [isInitial, IsLetter, Bool.or_eq_true, Text.isAlpha_iff, decide_eq_true_eq, or_assoc]

theorem isLater_iff {c : Char} : isLater c = true ↔ IsLetter c ∨ '0' ≤ c ∧ c ≤ '9' := by
  have kinds : isLater c = (isInitial c || c.isDigit) := by
    rw [isLater, isInitial, Char.isAlphanum, Bool.or_right_comm]
  rw [kinds, Bool.or_eq_true, isInitial_iff, Text.isDigit_iff]

/-- The identifiers are the words. -/
theorem isIdentifier_iff {name : String} : isIdentifier name = true ↔ IsWord name.toList := by
  unfold isIdentifier IsWord
  cases name.toList with
  | nil => simp
  | cons first rest =>
    simp only [Bool.and_eq_true, List.all_eq_true, isInitial_iff, isLater_iff, List.cons.injEq]
    constructor
    · exact fun word => ⟨first, rest, ⟨rfl, rfl⟩, word⟩
    · rintro ⟨_, _, ⟨rfl, rfl⟩, word⟩
      exact word

/-- What is an identifier without its slashes has none. -/
theorem normalize_eq_of_isIdentifier {name : String}
    (identifier : isIdentifier (normalize name) = true) : normalize name = name := by
  apply Text.replace_of_not_mem
  intro slash
  apply not_mem_of_isIdentifier identifier (by decide : isLater separator = false)
  rw [normalize, Text.toList_replace]
  exact List.mem_map.mpr ⟨'/', slash, if_pos rfl⟩

end Name

namespace ControllerRef

/-- A reference is read from the texts that are its own but for slashes. -/
theorem parse_eq_ok {text : String} {reference : ControllerRef} :
    parse text = .ok reference ↔ reference.text = Name.normalize text := by
  constructor
  · intro parsed
    unfold parse at parsed
    split at parsed
    · next left method split =>
      cases read : QualifiedName.parse left with
      | error fault =>
        rw [read] at parsed
        cases parsed
      | ok className =>
        rw [read] at parsed
        dsimp only at parsed
        split at parsed
        · cases parsed
          have whole := Text.join_pieces '@' (Name.normalize text)
          rw [split] at whole
          rw [← whole, ControllerRef.text, QualifiedName.parse_eq_ok.mp read]
          simp [Text.join]
        · cases parsed
    · cases parsed
  · intro same
    simp [parse, ← same, pieces_text, reference.identifier]

/-- There is one kind of fault, and it tells the text as it was given. -/
theorem parse_ok_or_malformed (text : String) :
    (∃ reference, parse text = .ok reference) ∨
      ∃ reason, parse text = .error (.malformedControllerRef text reason) := by
  unfold parse
  split
  · next left method split =>
    cases QualifiedName.parse left with
    | error fault => exact .inr ⟨_, rfl⟩
    | ok className =>
      dsimp only
      split
      · exact .inl ⟨_, rfl⟩
      · exact .inr ⟨_, rfl⟩
  · exact .inr ⟨_, rfl⟩

/-- Of the parts of a reference only the method can have a slash in it. -/
theorem normalize_parts (className : QualifiedName) (method : String) :
    Name.normalize (className.text ++ "@" ++ method) =
      className.text ++ "@" ++ Name.normalize method := by
  have unslashed : Name.normalize className.text = className.text :=
    Text.replace_of_not_mem (QualifiedName.not_mem_text (by decide) (by decide))
  rw [← String.toList_inj] at unslashed ⊢
  rw [Name.normalize, Text.toList_replace] at unslashed ⊢
  rw [String.toList_append, String.toList_append, List.map_append, List.map_append, unslashed]
  simp [Name.normalize]

/-- A reference is made of its parts as it is read from them. -/
theorem ofParts_eq_ok {className : QualifiedName} {method : String} {reference : ControllerRef} :
    ofParts className method = .ok reference ↔
      parse (className.text ++ "@" ++ method) = .ok reference := by
  constructor
  · intro made
    unfold ofParts at made
    split at made
    · next identifier =>
      cases made
      exact parse_text ⟨className, method, identifier⟩
    · cases made
  · intro parsed
    have text := parse_eq_ok.mp parsed
    rw [normalize_parts] at text
    have split : [reference.className.text, reference.method] =
        className.text :: Text.pieces '@' (Name.normalize method) := by
      have := Text.pieces_append '@' className.text (Name.normalize method)
      rw [Text.pieces_of_not_mem (QualifiedName.not_mem_text (by decide) (by decide))] at this
      rw [← pieces_text, text]
      exact this
    obtain ⟨named, rest⟩ := List.cons.inj split
    have whole : reference.method = Name.normalize method := by
      rw [← Text.join_pieces '@' (Name.normalize method), ← rest, Text.join_singleton]
    have plain := Name.normalize_eq_of_isIdentifier (whole ▸ reference.identifier)
    rw [← QualifiedName.text_inj.mp named, ← plain, ← whole, ofParts_self]

/-! ## What spells a reference -/

def backslashed (text : String) : List Char :=
  text.toList.map fun c => if c = '/' then '\\' else c

theorem toList_normalize (text : String) : (Name.normalize text).toList = backslashed text :=
  Text.toList_replace _ _ _

/-- Words with backslashes between them, an `@` and one more word. -/
def SpellsReference (letters : List Char) : Prop :=
  ∃ words method, words ≠ [] ∧ (∀ word ∈ words, Name.IsWord word) ∧ Name.IsWord method ∧
    letters = ['\\'].intercalate words ++ '@' :: method

/-- The printed references are the texts that spell one. -/
theorem exists_toList_text_eq {letters : List Char} :
    (∃ reference : ControllerRef, reference.text.toList = letters) ↔ SpellsReference letters := by
  constructor
  · rintro ⟨⟨className, method, identifier⟩, rfl⟩
    refine ⟨className.segments.map String.toList, method.toList,
      by simpa using className.nonempty, ?_, Name.isIdentifier_iff.mp identifier, ?_⟩
    · rw [List.forall_mem_map]
      exact fun segment mem => Name.isIdentifier_iff.mp (className.isChain_segments.2 segment mem)
    · simp [text, QualifiedName.text, Text.toList_join, Name.separator]
  · rintro ⟨words, method, nonempty, each, word, rfl⟩
    have identifiers : (words.map String.ofList).all Name.isIdentifier = true := by
      rw [List.all_eq_true, List.forall_mem_map]
      exact fun word mem => Name.isIdentifier_iff.mpr (by simpa using each word mem)
    have identifier : Name.isIdentifier (String.ofList method) = true :=
      Name.isIdentifier_iff.mpr (by simpa using word)
    refine ⟨⟨⟨words.map String.ofList, by simpa using nonempty, identifiers⟩, _, identifier⟩, ?_⟩
    simp [text, QualifiedName.text, Text.toList_join, Name.separator, Function.comp_def]

/-- Just the texts that spell a reference are read. -/
theorem exists_parse_eq_ok {text : String} :
    (∃ reference, parse text = .ok reference) ↔ SpellsReference (backslashed text) := by
  simp only [← exists_toList_text_eq, parse_eq_ok, ← toList_normalize, String.toList_inj]

/-- What is accepted is words with backslashes between them and one more word behind an `@`, but for
slashes that stand for backslashes. It is printed so, printed references are read back, and a
reference made of its parts is the one that is read from them. Every other text is malformed. -/
theorem reference_has_one_text :
    (∀ text, (∃ reference, parse text = .ok reference) ↔ SpellsReference (backslashed text)) ∧
    (∀ text reference, parse text = .ok reference ↔ reference.text.toList = backslashed text) ∧
    (∀ reference : ControllerRef, parse reference.text = .ok reference) ∧
    (∀ className method reference, ofParts className method = .ok reference ↔
      parse (className.text ++ "@" ++ method) = .ok reference) ∧
    ∀ text, (∃ reason, parse text = .error (.malformedControllerRef text reason)) ↔
      ¬ SpellsReference (backslashed text) := by
  refine ⟨fun _ => exists_parse_eq_ok, fun text reference => ?_, parse_text,
    fun _ _ _ => ofParts_eq_ok, fun text => ?_⟩
  · rw [parse_eq_ok, ← toList_normalize, String.toList_inj]
  · rw [← exists_parse_eq_ok]
    constructor
    · rintro ⟨reason, malformed⟩ ⟨reference, parsed⟩
      cases malformed.symm.trans parsed
    · exact (parse_ok_or_malformed text).resolve_left

/-- Slashes and backslashes stand between the words of a class; in the method a slash is refused. -/
theorem reference_has_one_text_slashes :
    let className : QualifiedName := ⟨["a", "_B", "C1"], by decide, by decide⟩
    let reference : ControllerRef := ⟨className, "m2", by decide⟩
    SpellsReference (backslashed "a/_B\\C1@m2") ∧
      parse "a/_B\\C1@m2" = .ok reference ∧ reference.text = "a\\_B\\C1@m2" ∧
      ofParts className "m2" = .ok reference ∧
      ¬ SpellsReference (backslashed "a/B@m/n") ∧
      parse "a/B@m/n" =
        .error (.malformedControllerRef "a/B@m/n" "'m\\n' is not a valid method name") := by
  intro className reference
  obtain ⟨accepts, prints, again, made, malformed⟩ := reference_has_one_text
  have text : reference.text = "a\\_B\\C1@m2" := by decide
  have parsed : parse "a/_B\\C1@m2" = .ok reference := (prints _ _).mpr (by decide)
  have whole : className.text ++ "@" ++ "m2" = reference.text := rfl
  have refused : parse "a/B@m/n" =
      .error (.malformedControllerRef "a/B@m/n" "'m\\n' is not a valid method name") := by
    decide
  exact ⟨(accepts _).mp ⟨_, parsed⟩, parsed, text, (made _ _ _).mpr (whole ▸ again reference),
    (malformed _).mp ⟨_, refused⟩, refused⟩

end ControllerRef

end PackageIndex
