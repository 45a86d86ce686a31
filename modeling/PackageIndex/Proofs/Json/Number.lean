import PackageIndex.Proofs.Json.Scalar

/-!
# The texts of numbers

Every number is written as a literal: perhaps a sign, digits that do not begin with a superfluous
zero, and perhaps a fraction and an exponent. So whatever number is written, a number is read,
though a double need not come back as the one that it was.
-/
namespace PackageIndex

/-! ## Digits of doubles -/

namespace Binary64

/-- A double is at least as large as the distance to the next one. -/
theorem spacing_le {units : Nat} (positive : units ≠ 0) : spacing units ≤ units := by
  have half : Nat.pow 2 units.log2 ≤ units := Nat.log2_self_le positive
  exact Nat.le_trans (Nat.pow_le_pow_right (by decide) (Nat.sub_le ..)) half

/-- The double's neighbours are not as far away as zero. -/
theorem basin_lower_pos {units : Nat} (positive : units ≠ 0) : 0 < (basin units).lower := by
  have near := spacing_le positive
  unfold basin
  dsimp only
  split <;> omega

/-- Zero is in no basin that begins above it. -/
theorem not_holds_zero {basin : Basin} {scale : Nat} (lower : 0 < basin.lower) (large : 0 < scale) :
    basin.holds scale 0 = false := by
  have := Nat.mul_pos lower large
  unfold Basin.holds
  split
  · have : ¬ basin.lower * scale ≤ 0 := by omega
    simp [this]
  · simp

/-- What is found on a grid in such a basin is not zero. -/
theorem digits_ne_zero_of_onGrid? {basin : Basin} {exponent : Int} {decimal : Decimal}
    (lower : 0 < basin.lower) (h : onGrid? basin exponent = some decimal) : decimal.digits ≠ 0 := by
  have low {digits step : Nat} (held : basin.holds (Nat.pow 10 (-exponent).toNat) (digits * step)) :
      digits ≠ 0 := by
    rintro rfl
    have large : 0 < Nat.pow 10 (-exponent).toNat := Nat.pow_pos (by decide)
    rw [Nat.zero_mul, not_holds_zero lower large] at held
    cases held
  unfold onGrid? at h
  dsimp only at h
  split at h
  · next both =>
    split at h
    · cases h
      exact low (Bool.and_eq_true_iff.mp both).1
    · cases h
      exact Nat.succ_ne_zero _
  · split at h
    · next held =>
      cases h
      exact low held
    · split at h
      · cases h
        exact Nat.succ_ne_zero _
      · cases h

/-- Dropping zeros leaves digits. -/
theorem digits_dropZeros_ne_zero (steps : Nat) {decimal : Decimal} (h : decimal.digits ≠ 0) :
    (decimal.dropZeros steps).digits ≠ 0 := by
  induction steps generalizing decimal with
  | zero => exact h
  | succ steps ih =>
    unfold Decimal.dropZeros
    split
    · next ends =>
      refine ih ?_
      dsimp only at ends ⊢
      omega
    · exact h

/-- Only zero has no digit but a zero, and then the point stands behind it. -/
theorem exponent_le_zero_of_shortest {value : Binary64} (zero : value.shortest.digits = 0) :
    value.shortest.exponent ≤ 0 := by
  unfold shortest at zero ⊢
  split at zero
  · next none => simp only [if_pos none, Int.le_refl]
  · next positive =>
    rw [if_neg positive]
    dsimp only at zero ⊢
    cases found : (List.range mostDigits).findSome? fun (n : Nat) =>
        onGrid? (basin value.units) (firstExponent value.units - (n : Int)) with
    | none => decide
    | some decimal =>
      rw [found] at zero
      obtain ⟨n, -, grid⟩ := List.exists_of_findSome?_eq_some found
      exact absurd zero (digits_dropZeros_ne_zero _
        (digits_ne_zero_of_onGrid? (basin_lower_pos positive) grid))

end Binary64

namespace Json

/-! ## Spellings -/

structure Digits (text : List Char) : Prop where
  given : text ≠ []
  all : ∀ c ∈ text, c.isDigit = true

/-- A literal in its written parts. An exponent is given with its sign. -/
structure Spelling where
  negative : Bool
  whole : List Char
  fraction : Option (List Char)
  exponent : Option (Bool × List Char)
  isWhole : Digits whole
  plain : ∀ c rest, whole ≠ '0' :: c :: rest
  isFraction : ∀ digits ∈ fraction, Digits digits
  isExponent : ∀ given ∈ exponent, Digits given.2

namespace Spelling

def signText (negative : Bool) : List Char := if negative then ['-'] else []

def fractionText : Option (List Char) → List Char
  | none => []
  | some digits => '.' :: digits

def exponentText : Option (Bool × List Char) → List Char
  | none => []
  | some (negative, digits) => 'e' :: (if negative then '-' else '+') :: digits

def text (spelling : Spelling) : List Char :=
  signText spelling.negative ++
    (spelling.whole ++ (fractionText spelling.fraction ++ exponentText spelling.exponent))

section
variable {rest : List Char}

/-- Digits are read up to what is no digit. -/
theorem readWhole_append {digits : List Char} (all : Digits digits)
    (plain : ∀ c rest, digits ≠ '0' :: c :: rest) (ends : ∀ c ∈ rest.head?, ¬ c.isDigit) :
    readWhole (digits ++ rest) = .ok (digits, rest) := by
  rw [readWhole, splitDigits_append all.all ends]
  split
  · next h =>
    cases h
    exact absurd rfl all.given
  · next h =>
    cases h
    exact absurd rfl (plain _ _)
  · next h =>
    cases h
    rfl

/-- A fraction is read up to what is no digit. -/
theorem readFraction_append {fraction : Option (List Char)}
    (all : ∀ digits ∈ fraction, Digits digits) (ends : ∀ c ∈ rest.head?, ¬ c.isDigit ∧ c ≠ '.') :
    readFraction (fractionText fraction ++ rest) = .ok (fraction, rest) := by
  cases fraction with
  | none =>
    rw [fractionText, List.nil_append]
    unfold readFraction
    split
    · exact absurd rfl (ends '.' rfl).2
    · rfl
  | some digits =>
    have given := all digits rfl
    rw [fractionText, List.cons_append, readFraction,
      splitDigits_append given.all fun c first => (ends c first).1]
    split
    · next h =>
      cases h
      exact absurd rfl given.given
    · next h =>
      cases h
      rfl

/-- How the power of ten behind a number is written: a mark, perhaps a sign, and digits. -/
inductive Power : Option Int → List Char → Prop where
  | none : Power none []
  | given {mark : Char} {sign digits : List Char} (marks : mark = 'e' ∨ mark = 'E')
    (signs : sign = [] ∨ sign = ['+'] ∨ sign = ['-']) (all : Digits digits) :
    Power (some (if sign = ['-'] then -(digitsValue digits : Int) else digitsValue digits))
      (mark :: (sign ++ digits))

namespace Power

variable {exponent : Option Int} {text : List Char}

/-- An exponent is read up to what is no digit. -/
theorem readExponent (power : Power exponent text) (ends : EndsNumber rest) :
    readExponent (text ++ rest) = .ok (exponent, rest) := by
  cases power with
  | none => exact readExponent_of_ends ends
  | @given mark sign digits marks signs all =>
    obtain ⟨first, more, rfl⟩ := List.exists_cons_of_ne_nil all.given
    have unsigned : first ≠ '-' ∧ first ≠ '+' := by
      have digit := all.all first (List.mem_cons_self ..)
      constructor <;> (rintro rfl; cases digit)
    have found := splitDigits_append all.all fun c first => (ends c first).1
    rw [List.cons_append] at found
    rcases signs with rfl | rfl | rfl
    · rw [List.nil_append, List.cons_append, Json.readExponent, if_pos marks]
      · simp [found]
      · exact fun _ h => unsigned.1 (List.cons.inj h).1
      · exact fun _ h => unsigned.2 (List.cons.inj h).1
    · simp [Json.readExponent, marks, found]
    · simp [Json.readExponent, marks, found]

/-- A power begins neither with a digit nor with a point. -/
theorem head (power : Power exponent text) (ends : EndsNumber rest) :
    ∀ c ∈ (text ++ rest).head?, ¬ c.isDigit ∧ c ≠ '.' := by
  cases power with
  | none => exact fun c first => ⟨(ends c first).1, (ends c first).2.1⟩
  | given marks =>
    intro c first
    cases first
    rcases marks with rfl | rfl <;> decide

theorem head_fractionText (power : Power exponent text) (fraction : Option (List Char))
    (ends : EndsNumber rest) :
    ∀ c ∈ (fractionText fraction ++ (text ++ rest)).head?, ¬ c.isDigit := by
  cases fraction with
  | none => exact fun c first => (power.head ends c first).1
  | some digits =>
    intro c first
    cases first
    decide

end Power

end

end Spelling

/-- A literal is written as its parts, one after the other. -/
structure Number.Literal.Spells (literal : Number.Literal) (text : List Char) : Prop where
  isWhole : Digits literal.whole
  plain : ∀ c rest, literal.whole ≠ '0' :: c :: rest
  isFraction : ∀ digits ∈ literal.fraction, Digits digits
  parts : ∃ power, Spelling.Power literal.exponent power ∧
    text = Spelling.signText literal.negative ++
      (literal.whole ++ (Spelling.fractionText literal.fraction ++ power))

/-- What is written as a literal is read as the literal. -/
theorem Number.Literal.Spells.readLiteral {literal : Number.Literal} {text rest : List Char}
    (spells : literal.Spells text) (ends : EndsNumber rest) :
    readLiteral (text ++ rest) = .ok (literal, rest) := by
  obtain ⟨isWhole, plain, isFraction, power, isPower, rfl⟩ := spells
  obtain ⟨negative, whole, fraction, exponent⟩ := literal
  let tail := whole ++ (Spelling.fractionText fraction ++ (power ++ rest))
  have whole_text : Spelling.signText negative ++
      (whole ++ (Spelling.fractionText fraction ++ power)) ++ rest =
        Spelling.signText negative ++ tail := by
    simp [tail]
  dsimp only at isWhole plain isFraction isPower ⊢
  rw [whole_text]
  unfold Json.readLiteral
  split
  next negative' text sign =>
    have parted : negative' = negative ∧ text = tail := by
      cases negative with
      | true =>
        cases sign
        exact ⟨rfl, rfl⟩
      | false =>
        obtain ⟨first, more, rfl⟩ := List.exists_cons_of_ne_nil isWhole.given
        have unsigned : first ≠ '-' := by
          rintro rfl
          exact absurd (isWhole.all '-' (List.mem_cons_self ..)) (by decide)
        split at sign
        · next h => exact absurd (List.cons.inj h).1 unsigned
        · cases sign
          exact ⟨rfl, rfl⟩
    obtain ⟨rfl, rfl⟩ := parted
    rw [Spelling.readWhole_append isWhole plain (isPower.head_fractionText fraction ends), ok_bind]
    dsimp only
    rw [Spelling.readFraction_append isFraction (isPower.head ends), ok_bind]
    dsimp only
    rw [isPower.readExponent ends, ok_bind]
    rfl

namespace Spelling

variable {text digits rest : List Char}

theorem of_splitDigits (h : splitDigits text = (digits, rest)) :
    (∀ c ∈ digits, c.isDigit = true) ∧ text = digits ++ rest := by
  rw [splitDigits, List.span_eq_takeWhile_dropWhile] at h
  cases h
  exact ⟨List.all_eq_true.mp List.all_takeWhile, List.takeWhile_append_dropWhile.symm⟩

/-- What is read before the point is digits, with no zero before others. -/
theorem of_readWhole (h : readWhole text = .ok (digits, rest)) :
    Digits digits ∧ (∀ c more, digits ≠ '0' :: c :: more) ∧ text = digits ++ rest := by
  unfold readWhole at h
  split at h
  · cases h
  · cases h
  · next given plain split =>
    cases h
    obtain ⟨all, same⟩ := of_splitDigits split
    exact ⟨⟨given, all⟩, plain, same⟩

/-- What is read behind the point is digits. -/
theorem of_readFraction {fraction : Option (List Char)}
    (h : readFraction text = .ok (fraction, rest)) :
    (∀ digits ∈ fraction, Digits digits) ∧ text = fractionText fraction ++ rest := by
  unfold readFraction at h
  split at h
  · next after =>
    split at h
    · cases h
    · next given split =>
      cases h
      obtain ⟨all, rfl⟩ := of_splitDigits split
      refine ⟨fun digits mem => ?_, rfl⟩
      cases mem
      exact ⟨given, all⟩
  · cases h
    exact ⟨by simp, rfl⟩

/-- What is read as an exponent is a power. -/
theorem of_readExponent {exponent : Option Int} (h : readExponent text = .ok (exponent, rest)) :
    ∃ power, Power exponent power ∧ text = power ++ rest := by
  unfold readExponent at h
  split at h
  · next mark after =>
    split at h
    · next marks =>
      split at h
      next negative unsigned sign =>
      split at h
      · cases h
      · next given split =>
        cases h
        obtain ⟨all, rfl⟩ := of_splitDigits split
        split at sign
        · cases sign
          exact ⟨_, .given marks (.inr (.inr rfl)) ⟨given, all⟩, rfl⟩
        · cases sign
          exact ⟨_, .given marks (.inr (.inl rfl)) ⟨given, all⟩, rfl⟩
        · cases sign
          exact ⟨_, .given marks (.inl rfl) ⟨given, all⟩, rfl⟩
    · cases h
      exact ⟨[], .none, rfl⟩
  · cases h
    exact ⟨[], .none, rfl⟩

end Spelling

/-- What is read as a literal is written as the literal. -/
theorem Number.Literal.Spells.of_readLiteral {literal : Number.Literal} {text rest : List Char}
    (h : Json.readLiteral text = .ok (literal, rest)) :
    ∃ body, literal.Spells body ∧ text = body ++ rest := by
  unfold Json.readLiteral at h
  split at h
  next negative unsigned sign =>
  obtain ⟨⟨whole, fractional⟩, isWhole, h⟩ := bind_eq_ok.mp h
  obtain ⟨⟨fraction, raised⟩, isFraction, h⟩ := bind_eq_ok.mp h
  obtain ⟨⟨exponent, after⟩, isExponent, h⟩ := bind_eq_ok.mp h
  cases h
  obtain ⟨digits, plain, rfl⟩ := Spelling.of_readWhole isWhole
  obtain ⟨given, rfl⟩ := Spelling.of_readFraction isFraction
  obtain ⟨power, isPower, rfl⟩ := Spelling.of_readExponent isExponent
  have signed : text = Spelling.signText negative ++
      (whole ++ (Spelling.fractionText fraction ++ (power ++ rest))) := by
    split at sign <;> cases sign <;> rfl
  exact ⟨_, ⟨digits, plain, given, power, isPower, rfl⟩, by simp [signed]⟩

namespace Spelling

def exponentValue (given : Bool × List Char) : Int :=
  if given.1 then -(digitsValue given.2) else digitsValue given.2

theorem power_exponentText {exponent : Option (Bool × List Char)}
    (all : ∀ given ∈ exponent, Digits given.2) :
    Power (exponent.map exponentValue) (exponentText exponent) := by
  cases exponent with
  | none => exact .none
  | some given =>
    obtain ⟨negative, digits⟩ := given
    cases negative with
    | true => exact .given (.inl rfl) (.inr (.inr rfl)) (all _ rfl)
    | false => exact .given (.inl rfl) (.inr (.inl rfl)) (all _ rfl)

def literal (spelling : Spelling) : Number.Literal :=
  ⟨spelling.negative, spelling.whole, spelling.fraction, spelling.exponent.map exponentValue⟩

/-- A spelling is a text of the grammar. -/
theorem spells_text (spelling : Spelling) : spelling.literal.Spells spelling.text :=
  ⟨spelling.isWhole, spelling.plain, spelling.isFraction, exponentText spelling.exponent,
    power_exponentText spelling.isExponent, rfl⟩

/-- What is spelled as a number is read as one. -/
theorem readLiteral_text (spelling : Spelling) {rest : List Char} (ends : EndsNumber rest) :
    readLiteral (spelling.text ++ rest) = .ok (spelling.literal, rest) :=
  spelling.spells_text.readLiteral ends

end Spelling

theorem digits_toDigits (m : Nat) : Digits (Nat.toDigits 10 m) :=
  ⟨Nat.toDigits_ne_nil, fun _ mem => Nat.isDigit_of_mem_toDigits (by decide) (by decide) mem⟩

/-! ## Written numbers -/

def Spelled (text : List Char) : Prop := ∃ spelling : Spelling, spelling.text = text

/-- A whole number is written in the grammar. -/
theorem spelled_integer (n : Int) : Spelled (Number.integer n).text.toList := by
  refine ⟨⟨decide (n < 0), Nat.toDigits 10 n.natAbs, none, none, digits_toDigits _,
    fun c rest => toDigits_ne_zero_cons _ c rest, by simp, by simp⟩, ?_⟩
  rw [text_integer]
  by_cases negative : n < 0 <;>
    simp [Spelling.text, Spelling.signText, Spelling.fractionText, Spelling.exponentText, negative]

/-- One digit stands in front of the point, and a power of ten behind the others. -/
theorem spelled_scientific (negative : Bool) (m : Nat) (exponent : Int) :
    Spelled (Spelling.signText negative ++
      (Number.layout.scientific (Nat.toDigits 10 m) exponent).toList) := by
  have digits := digits_toDigits m
  obtain ⟨first, more, same⟩ := List.exists_cons_of_ne_nil digits.given
  rw [same] at digits ⊢
  have whole : Digits [first] :=
    ⟨by simp, fun c mem => digits.all c (by simp [List.mem_singleton.mp mem])⟩
  have power : ∀ given ∈ some (decide (exponent < 0), Nat.toDigits 10 exponent.natAbs),
      Digits given.2 := by
    intro given mem
    cases mem
    exact digits_toDigits _
  have signed : exponent.repr.toList =
      (if exponent < 0 then ['-'] else []) ++ Nat.toDigits 10 exponent.natAbs := by
    rw [← Int.toString_eq_repr]
    exact text_integer exponent
  have sign : (exponent < 0 ∧ ¬ 0 ≤ exponent) ∨ (¬ exponent < 0 ∧ 0 ≤ exponent) := by omega
  cases more with
  | nil =>
    refine ⟨⟨negative, [first], none, _, whole, by simp, by simp, power⟩, ?_⟩
    rcases sign with ⟨below, notAbove⟩ | ⟨notBelow, above⟩ <;>
      simp [Spelling.text, Spelling.fractionText, Spelling.exponentText, NumberLayout.scientific,
        Number.layout, *]
  | cons second more =>
    have fraction : ∀ digits ∈ some (second :: more), Digits digits := by
      intro digits' mem
      cases mem
      exact ⟨by simp, fun c mem => digits.all c (List.mem_cons_of_mem _ mem)⟩
    refine ⟨⟨negative, [first], _, _, whole, by simp, fraction, power⟩, ?_⟩
    rcases sign with ⟨below, notAbove⟩ | ⟨notBelow, above⟩ <;>
      simp [Spelling.text, Spelling.fractionText, Spelling.exponentText, NumberLayout.scientific,
        Number.layout, *]

theorem eq_zero_of_toDigits {m : Nat} (h : Nat.toDigits 10 m = ['0']) : m = 0 := by
  have value := Nat.ofDigitChars_ten_toDigits (n := m)
  rw [h] at value
  exact value.symm.trans (by decide)

theorem isDigit_of_mem_replicate {n : Nat} {c : Char} (mem : c ∈ List.replicate n '0') :
    c.isDigit = true := by
  rw [List.eq_of_mem_replicate mem]
  rfl

/-- Zeros are put before the digits until the point stands in front. -/
theorem spelled_leading (negative : Bool) (m : Nat) {exponent : Int} (below : exponent < 0) :
    Spelled (Spelling.signText negative ++
      (Number.layout.positional (Nat.toDigits 10 m) exponent).toList) := by
  have digits := digits_toDigits m
  have fraction : ∀ digits ∈ some
      (List.replicate ((-exponent).toNat - 1) '0' ++ Nat.toDigits 10 m), Digits digits := by
    intro digits' mem
    cases mem
    refine ⟨by simp [digits.given], fun c mem => ?_⟩
    exact (List.mem_append.mp mem).elim isDigit_of_mem_replicate (digits.all c)
  refine ⟨⟨negative, ['0'], _, none, ⟨by simp, by simp⟩, by simp, fraction, by simp⟩, ?_⟩
  simp [Spelling.text, Spelling.fractionText, Spelling.exponentText, NumberLayout.positional,
    below, digits.given]

/-- Zeros are put behind the digits until the point stands there. Only a lone zero begins with one,
so none may be put behind that. -/
theorem spelled_trailing (negative : Bool) (m : Nat) {exponent : Int} (notBelow : ¬ exponent < 0)
    (nonzero : m = 0 → exponent ≤ 0) :
    Spelled (Spelling.signText negative ++
      (Number.layout.positional (Nat.toDigits 10 m) exponent).toList) := by
  have digits := digits_toDigits m
  obtain ⟨first, more, same⟩ := List.exists_cons_of_ne_nil digits.given
  rw [same] at digits ⊢
  let front := first ::
    (more.take exponent.toNat ++ List.replicate (exponent.toNat - more.length) '0')
  have whole : Digits front := by
    refine ⟨by simp [front], fun c mem => ?_⟩
    rcases List.mem_cons.mp mem with rfl | mem
    · exact digits.all c (List.mem_cons_self ..)
    · rcases List.mem_append.mp mem with mem | mem
      · exact digits.all c (List.mem_cons_of_mem _ (List.mem_of_mem_take mem))
      · exact isDigit_of_mem_replicate mem
  have plain : ∀ c rest, front ≠ '0' :: c :: rest := by
    intro c rest h
    obtain ⟨rfl, tail⟩ := List.cons.inj h
    cases more with
    | cons second more => exact toDigits_ne_zero_cons m second more same
    | nil =>
      have small := nonzero (eq_zero_of_toDigits same)
      have none : exponent.toNat = 0 := by omega
      simp [none] at tail
  have shown : Number.layout.positional (first :: more) exponent =
      if more.drop exponent.toNat = [] then String.ofList front ++ ".0"
      else String.ofList front ++ "." ++ String.ofList (more.drop exponent.toNat) := by
    simp [NumberLayout.positional, notBelow, Number.layout, front]
  rw [shown]
  split
  · refine ⟨⟨negative, front, some ['0'], none, whole, plain, ?_, by simp⟩, ?_⟩
    · intro digits' mem
      cases mem
      exact ⟨by simp, by simp⟩
    · simp [Spelling.text, Spelling.fractionText, Spelling.exponentText]
  · next given =>
    refine ⟨⟨negative, front, some (more.drop exponent.toNat), none, whole, plain, ?_, by simp⟩, ?_⟩
    · intro digits' mem
      cases mem
      exact ⟨given, fun c mem =>
        digits.all c (List.mem_cons_of_mem _ (List.mem_of_mem_drop mem))⟩
    · simp [Spelling.text, Spelling.fractionText, Spelling.exponentText]

/-- The digits of a decimal are written in the grammar, wherever the point comes. -/
theorem spelled_positional (negative : Bool) (m : Nat) (exponent : Int)
    (nonzero : m = 0 → exponent ≤ 0) :
    Spelled (Spelling.signText negative ++
      (Number.layout.positional (Nat.toDigits 10 m) exponent).toList) := by
  by_cases below : exponent < 0
  · exact spelled_leading negative m below
  · exact spelled_trailing negative m below nonzero

/-- Every number is written as a literal. -/
theorem spelled_text (n : Number) : Spelled n.text.toList := by
  cases n with
  | integer n => exact spelled_integer n
  | double value =>
    have sign : (NumberLayout.sign value.negative).toList = Spelling.signText value.negative := by
      cases value.negative <;> rfl
    rw [Number.text, NumberLayout.render, String.toList_append, sign]
    split
    · refine spelled_positional _ _ _ fun zero => ?_
      have none := Binary64.exponent_le_zero_of_shortest zero
      rw [zero]
      simpa using none
    · exact spelled_scientific _ _ _

def Number.readBack (n : Number) : Except Malformed Number :=
  match readNumber n.text.toList with
  | .whole kept _ => kept
  | .cut gap => .error gap.kept

/-- A written number is read up to what ends it. -/
theorem readNumber_text_append (n : Number) {rest : List Char} (ends : EndsNumber rest) :
    readNumber (n.text.toList ++ rest) = .whole n.readBack rest := by
  obtain ⟨spelling, same⟩ := spelled_text n
  have alone : readLiteral (spelling.text ++ []) = .ok (spelling.literal, []) :=
    spelling.readLiteral_text fun c first => by cases first
  rw [List.append_nil] at alone
  rw [Number.readBack, ← same, readNumber, readNumber, spelling.readLiteral_text ends, alone]
  dsimp only
  cases Number.ofLiteral? spelling.literal <;> rfl

/-- A whole number that fits is read back as it was. -/
theorem readBack_integer {n : Int} (word : Number.IsWord n) :
    (Number.integer n).readBack = .ok (.integer n) := by
  have alone : readNumber ((Number.integer n).text.toList ++ []) = .whole (.ok (.integer n)) [] :=
    readNumber_text word fun c first => by cases first
  rw [List.append_nil] at alone
  rw [Number.readBack, alone]

/-- A number is told by its first character. -/
theorem text_eq_cons (n : Number) :
    ∃ c more, n.text.toList = c :: more ∧ (c = '-' ∨ c.isDigit = true) := by
  obtain ⟨spelling, same⟩ := spelled_text n
  rw [← same, Spelling.text]
  cases spelling.negative with
  | true => exact ⟨'-', _, rfl, .inl rfl⟩
  | false =>
    obtain ⟨first, more, whole⟩ := List.exists_cons_of_ne_nil spelling.isWhole.given
    rw [whole]
    exact ⟨first, _, rfl, .inr (spelling.isWhole.all first (by simp [whole]))⟩

end Json

end PackageIndex
