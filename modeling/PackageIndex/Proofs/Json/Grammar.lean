import PackageIndex.Proofs.Json.Number

/-!
# The grammar of JSON

What a JSON text is, told without reading one. A tree has the parts of a text: a number is its
literal, and a string the units it is written with, be they characters or halves of one. Such a text
need not have a value, for a number may be too large and a half may stand alone; whether a string
says a text is told of its units.

Strings and literals are read as they are written, and nothing else is.
-/
namespace PackageIndex.Json

/-! ## Strings -/

/-- A unit of a string is written as itself, escaped by a letter or escaped by its code. -/
inductive Unit16.Written : Unit16 → List Char → Prop where
  | plain {c : Char} (quote : c ≠ '"') (slash : c ≠ '\\') (high : ¬ c.toNat < 0x20) :
    Written (.char c) [c]
  | escaped {c d : Char} (stands : unescape? c = some d) : Written (.char d) ['\\', c]
  | code {a b c d : Char} {n : Nat} (value : hex4? a b c d = some n) :
    Written (.hex n) ['\\', 'u', a, b, c, d]

inductive UnitsText : List Unit16 → List Char → Prop where
  | nil : UnitsText [] []
  | cons {unit : Unit16} {units : List Unit16} {first more : List Char}
    (written : unit.Written first) (rest : UnitsText units more) :
    UnitsText (unit :: units) (first ++ more)

/-- The characters that units stand for; two halves of one have to stand side by side. -/
inductive Says : List Unit16 → List Char → Prop where
  | nil : Says [] []
  | char {c : Char} {units : List Unit16} {text : List Char} (rest : Says units text) :
    Says (.char c :: units) (c :: text)
  | code {n : Nat} {units : List Unit16} {text : List Char} (notLeading : isLeading n = false)
    (notTrailing : isTrailing n = false) (rest : Says units text) :
    Says (.hex n :: units) (Char.ofNat n :: text)
  | pair {n m : Nat} {units : List Unit16} {text : List Char} (leading : isLeading n = true)
    (trailing : isTrailing m = true) (rest : Says units text) :
    Says (.hex n :: .hex m :: units) (pairValue n m :: text)

/-- A text of units is read up to the quote behind it. -/
theorem readUnits_of_text {units : List Unit16} {body : List Char} (text : UnitsText units body)
    (rest : List Char) : readUnits (body ++ '"' :: rest) = (units, .closed rest) := by
  induction text with
  | nil => rfl
  | cons written _ ih =>
    rw [List.append_assoc]
    cases written with
    | plain quote slash high => rw [List.singleton_append, readUnits_plain quote slash high, ih]
    | escaped stands =>
      rw [List.cons_append, List.singleton_append, readUnits_unescape stands, ih]
    | code value =>
      simp only [List.cons_append, List.nil_append]
      rw [readUnits_hex value, ih]

/-- What is read up to a quote is a text of units. -/
theorem text_of_readUnits {text rest : List Char} {units : List Unit16}
    (h : readUnits text = (units, .closed rest)) :
    ∃ body, UnitsText units body ∧ text = body ++ '"' :: rest := by
  have unit {unit : Unit16} {first : List Char} (written : unit.Written first)
      {units : List Unit16} {more : List Char}
      (ih : ∃ body, UnitsText units body ∧ more = body ++ '"' :: rest) :
      ∃ body, UnitsText (unit :: units) body ∧ first ++ more = body ++ '"' :: rest := by
    obtain ⟨body, text, rfl⟩ := ih
    exact ⟨first ++ body, .cons written text, by rw [List.append_assoc]⟩
  fun_induction readUnits text generalizing units with
  | case2 =>
    cases h
    exact ⟨[], .nil, rfl⟩
  | case4 a b c d more n value units last same ih =>
    cases h
    exact unit (.code value) (ih same)
  | case7 c more _ _ d stands units last same ih =>
    cases h
    exact unit (.escaped stands) (ih same)
  | case10 c more quote none _ _ some high units last same ih =>
    cases h
    -- a backslash is followed by nothing or by something, and both are told above
    refine unit (.plain quote (fun slash => ?_) high) (ih same)
    cases more with
    | nil => exact none slash rfl
    | cons d more => exact some d more slash rfl
  | case1 | case3 | case5 | case8 | case9 => cases h
  | case6 => split at h <;> cases h

/-- Units that say a text are joined to it. -/
theorem Says.joinUnits_closed {units : List Unit16} {text : List Char} (said : Says units text)
    (rest : List Char) : joinUnits (.closed rest) units = .ok text := by
  induction said with
  | nil => rfl
  | char _ ih => rw [joinUnits, ih]; rfl
  | code leading trailing _ ih => rw [joinUnits_code leading trailing, ih]; rfl
  | @pair n m units text leading trailing _ ih =>
    have apart : isTrailing n = false := by
      simp only [isLeading, isTrailing, Bool.and_eq_true, decide_eq_true_eq,
        Bool.and_eq_false_imp, decide_eq_false_iff_not] at leading ⊢
      omega
    simp [joinUnits, apart, leading, trailing, ih, Except.map]

/-- Units that are joined to a text say it. -/
theorem Says.of_joinUnits {last : StringEnd} {units : List Unit16} {text : List Char}
    (h : joinUnits last units = .ok text) : Says units text := by
  fun_induction joinUnits last units generalizing text with
  | case2 =>
    cases h
    exact .nil
  | case3 c rest ih =>
    obtain ⟨more, joined, rfl⟩ := map_eq_ok.mp h
    exact .char (ih joined)
  | case8 n trailing leading ih | case12 n m rest trailing leading ih
    | case15 n c rest trailing leading ih =>
    obtain ⟨more, joined, rfl⟩ := map_eq_ok.mp h
    exact .code (Bool.eq_false_iff.mpr leading) (Bool.eq_false_iff.mpr trailing) (ih joined)
  | case10 n m rest _ leading trailing ih =>
    obtain ⟨more, joined, rfl⟩ := map_eq_ok.mp h
    exact .pair leading trailing (ih joined)
  | case1 | case4 | case5 | case6 | case7 | case9 | case11 | case13 | case14 => cases h

/-- Units say one text at most. -/
theorem Says.unique {units : List Unit16} {a b : List Char} (first : Says units a)
    (second : Says units b) : a = b := by
  have both := (first.joinUnits_closed []).symm.trans (second.joinUnits_closed [])
  cases both
  rfl

/-- A half that stands alone leaves a string without a text. -/
def stringOf (units : List Unit16) : Except Malformed String :=
  (joinUnits (.closed []) units).map String.ofList

/-- A string is what its units say. -/
theorem stringOf_eq_ok {units : List Unit16} {s : String} :
    stringOf units = .ok s ↔ Says units s.toList := by
  constructor
  · intro h
    obtain ⟨text, joined, rfl⟩ := map_eq_ok.mp h
    rw [String.toList_ofList]
    exact .of_joinUnits joined
  · intro said
    rw [stringOf, said.joinUnits_closed, Except.map, String.ofList_toList]

/-- What follows a string says nothing about it. -/
theorem joinUnits_closed_append (rest : List Char) (units : List Unit16) :
    joinUnits (.closed rest) units = joinUnits (.closed []) units := by
  fun_induction joinUnits (.closed []) units <;> simp_all [joinUnits, StringEnd.fault?]

/-- A quoted text is read as the string of its units. -/
theorem readString_of_text {units : List Unit16} {body : List Char} (text : UnitsText units body)
    (rest : List Char) : readString (body ++ '"' :: rest) = .whole (stringOf units) rest := by
  rw [readString, readUnits_of_text text]
  dsimp only
  rw [joinUnits_closed_append, stringOf]

/-- A string is read from a quoted text alone. -/
theorem text_of_readString {text rest : List Char} {kept : Except Malformed String}
    (h : readString text = .whole kept rest) :
    ∃ units body, UnitsText units body ∧ text = body ++ '"' :: rest ∧ kept = stringOf units := by
  cases read : readUnits text with
  | mk units last =>
    have closed : last = .closed rest := by
      rw [readString, read] at h
      dsimp only at h
      split at h
      · cases h
        rfl
      · cases h
      · split at h <;> cases h
    subst closed
    obtain ⟨body, written, rfl⟩ := text_of_readUnits read
    rw [readString_of_text written] at h
    cases h
    exact ⟨units, body, written, rfl, rfl⟩

/-! ## Values -/

/-- A value as it is written: a number is its literal, a string its units, and an object may have a
name more than once. -/
inductive Tree where
  | null
  | bool (b : Bool)
  | number (literal : Number.Literal)
  | string (units : List Unit16)
  | array (items : List Tree)
  | object (members : List (List Unit16 × Tree))

def Blank (text : List Char) : Prop := ∀ c ∈ text, isBlank c = true

inductive NameText : List Unit16 → List Char → Prop where
  | intro {units : List Unit16} {lead body trail : List Char} (before : Blank lead)
    (text : UnitsText units body) (after : Blank trail) :
    NameText units (lead ++ '"' :: (body ++ '"' :: trail))

mutual
/-- The texts of a value, from its first character to its last. -/
inductive Tree.Spells : Tree → List Char → Prop where
  | null : Tree.Spells .null ['n', 'u', 'l', 'l']
  | true : Tree.Spells (.bool true) ['t', 'r', 'u', 'e']
  | false : Tree.Spells (.bool false) ['f', 'a', 'l', 's', 'e']
  | number {literal : Number.Literal} {body : List Char} (spells : literal.Spells body) :
    Tree.Spells (.number literal) body
  | string {units : List Unit16} {body : List Char} (text : UnitsText units body) :
    Tree.Spells (.string units) ('"' :: (body ++ ['"']))
  | arrayNil {blank : List Char} (gap : Blank blank) :
    Tree.Spells (.array []) ('[' :: (blank ++ [']']))
  | array {items : List Tree} {body : List Char} (text : Tree.ItemsText items body) :
    Tree.Spells (.array items) ('[' :: (body ++ [']']))
  | objectNil {blank : List Char} (gap : Blank blank) :
    Tree.Spells (.object []) ('\x7b' :: (blank ++ ['\x7d']))
  | object {members : List (List Unit16 × Tree)} {body : List Char}
    (text : Tree.MembersText members body) :
    Tree.Spells (.object members) ('\x7b' :: (body ++ ['\x7d']))
/-- Blanks may stand on both sides of a value. -/
inductive Tree.Stands : Tree → List Char → Prop where
  | intro {tree : Tree} {lead body trail : List Char} (before : Blank lead)
    (spells : Tree.Spells tree body) (after : Blank trail) :
    Tree.Stands tree (lead ++ (body ++ trail))
inductive Tree.ItemsText : List Tree → List Char → Prop where
  | last {item : Tree} {text : List Char} (stands : Tree.Stands item text) :
    Tree.ItemsText [item] text
  | next {item : Tree} {items : List Tree} {text more : List Char} (stands : Tree.Stands item text)
    (rest : Tree.ItemsText items more) : Tree.ItemsText (item :: items) (text ++ ',' :: more)
inductive Tree.MembersText : List (List Unit16 × Tree) → List Char → Prop where
  | last {units : List Unit16} {value : Tree} {name text : List Char} (named : NameText units name)
    (stands : Tree.Stands value text) : Tree.MembersText [(units, value)] (name ++ ':' :: text)
  | next {units : List Unit16} {value : Tree} {members : List (List Unit16 × Tree)}
    {name text more : List Char} (named : NameText units name) (stands : Tree.Stands value text)
    (rest : Tree.MembersText members more) :
    Tree.MembersText ((units, value) :: members) (name ++ ':' :: (text ++ ',' :: more))
end

end PackageIndex.Json
