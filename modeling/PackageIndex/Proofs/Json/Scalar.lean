import Mathlib.Data.List.TakeDrop
import PackageIndex.Json.Read
import PackageIndex.Json.Render

/-!
# Strings and integers in JSON

What a string or an integer is written as is read back, and reading stops where it ends. Integers
are those of a word of 64 bits; no other integer comes out of a text.
-/
namespace PackageIndex.Json

/-! ## Steps that may fail -/

@[simp] theorem ok_bind {ε α β : Type} (a : α) (next : α → Except ε β) :
    ((Except.ok a : Except ε α) >>= next) = next a := rfl

@[simp] theorem error_bind {ε α β : Type} (fault : ε) (next : α → Except ε β) :
    ((Except.error fault : Except ε α) >>= next) = .error fault := rfl

/-- A step that was followed by others without a fault has given its result. -/
theorem bind_eq_ok {ε α β : Type} {step : Except ε α} {next : α → Except ε β} {b : β} :
    step >>= next = .ok b ↔ ∃ a, step = .ok a ∧ next a = .ok b := by
  cases step <;> simp

/-- What a step is mapped to comes from what it gives. -/
theorem map_eq_ok {ε α β : Type} {step : Except ε α} {f : α → β} {b : β} :
    step.map f = .ok b ↔ ∃ a, step = .ok a ∧ f a = b := by
  cases step <;> simp [Except.map]

/-! ## Strings -/

/-- A control character is read back from its four digits. -/
theorem hex4?_hexDigit :
    ∀ n < 0x20, hex4? '0' '0' (hexDigit (n / 16)) (hexDigit n) = some n := by
  decide

/-- Four digits behind an escape are one unit. -/
theorem readUnits_hex {a b c d : Char} {n : Nat} (h : hex4? a b c d = some n) (text : List Char) :
    readUnits ('\\' :: 'u' :: a :: b :: c :: d :: text) =
      (.hex n :: (readUnits text).1, (readUnits text).2) := by
  rw [readUnits, h]

/-- An escaped character is one unit. -/
theorem readUnits_unescape {c d : Char} (h : unescape? c = some d) (text : List Char) :
    readUnits ('\\' :: c :: text) = (.char d :: (readUnits text).1, (readUnits text).2) := by
  have other : c ≠ 'u' := by
    rintro rfl
    cases h
  rw [readUnits, h]
  · rintro a b c d rest rfl
    exact absurd rfl other
  · exact other

/-- A character that needs no escape is one unit. -/
theorem readUnits_plain {c : Char} (quote : c ≠ '"') (slash : c ≠ '\\') (high : ¬ c.toNat < 0x20)
    (text : List Char) :
    readUnits (c :: text) = (.char c :: (readUnits text).1, (readUnits text).2) := by
  rw [readUnits, if_neg high]
  all_goals grind

/-- A code that is no half of a character stands for one. -/
theorem joinUnits_code {n : Nat} (leading : isLeading n = false) (trailing : isTrailing n = false)
    (last : StringEnd) (units : List Unit16) :
    joinUnits last (.hex n :: units) = (joinUnits last units).map (Char.ofNat n :: ·) := by
  cases units with
  | nil => simp [joinUnits, trailing, leading]
  | cons unit units => cases unit <;> simp [joinUnits, trailing, leading]

/-- A character of a low code cannot be half of another one. -/
theorem joinUnits_hex {n : Nat} (low : n < 0x20) (last : StringEnd) (units : List Unit16) :
    joinUnits last (.hex n :: units) = (joinUnits last units).map (Char.ofNat n :: ·) := by
  have trailing : isTrailing n = false := by
    simp only [isTrailing, Bool.and_eq_false_imp, decide_eq_true_eq, decide_eq_false_iff_not]
    omega
  have leading : isLeading n = false := by
    simp only [isLeading, Bool.and_eq_false_imp, decide_eq_true_eq, decide_eq_false_iff_not]
    omega
  exact joinUnits_code leading trailing last units

/-- An escaped character is read as one unit, and that unit is the character. -/
theorem readUnits_escape (c : Char) :
    ∃ unit, (∀ text, readUnits (escape c ++ text) =
        (unit :: (readUnits text).1, (readUnits text).2)) ∧
      ∀ last units, joinUnits last (unit :: units) = (joinUnits last units).map (c :: ·) := by
  have short {written : Char} (h : unescape? written = some c) :
      ∃ unit, (∀ text, readUnits (['\\', written] ++ text) =
          (unit :: (readUnits text).1, (readUnits text).2)) ∧
        ∀ last units, joinUnits last (unit :: units) = (joinUnits last units).map (c :: ·) :=
    ⟨.char c, readUnits_unescape h, fun _ _ => rfl⟩
  unfold escape
  split
  · next h => exact short (by rw [h]; rfl)
  · next quote =>
    split
    · next h => exact short (by rw [h]; rfl)
    · next slash =>
      split
      · next h => exact short (by rw [h]; rfl)
      · split
        · next h => exact short (by rw [h]; rfl)
        · split
          · next h => exact short (by rw [h]; rfl)
          · split
            · next h => exact short (by rw [h]; rfl)
            · split
              · next h => exact short (by rw [h]; rfl)
              · split
                · next low =>
                  refine ⟨.hex c.toNat, readUnits_hex (hex4?_hexDigit _ low), fun last units => ?_⟩
                  rw [joinUnits_hex low, Char.ofNat_toNat]
                · next high => exact ⟨.char c, readUnits_plain quote slash high, fun _ _ => rfl⟩

/-- The characters of an escaped text are read back from it. -/
theorem readUnits_flatMap (cs rest : List Char) :
    ∃ units, readUnits (cs.flatMap escape ++ '"' :: rest) = (units, .closed rest) ∧
      joinUnits (.closed rest) units = .ok cs := by
  induction cs with
  | nil => exact ⟨[], rfl, rfl⟩
  | cons c cs ih =>
    obtain ⟨units, read, join⟩ := ih
    obtain ⟨unit, first, joins⟩ := readUnits_escape c
    refine ⟨unit :: units, ?_, ?_⟩
    · rw [List.flatMap_cons, List.append_assoc, first, read]
    · rw [joins, join]
      rfl

/-- A quoted string is read back. -/
theorem readString_quoted (s : String) (rest : List Char) :
    readString (s.toList.flatMap escape ++ '"' :: rest) = .whole (.ok s) rest := by
  obtain ⟨units, read, join⟩ := readUnits_flatMap s.toList rest
  rw [readString, read]
  simp [join, Except.map]

/-! ## Integers -/

namespace Number

/-- The integers that a word of 64 bits holds, with or without a sign. -/
def IsWord (n : Int) : Prop := -(Nat.pow 2 63) ≤ n ∧ n < wordLimit

instance (n : Int) : Decidable (IsWord n) := instDecidableAnd

/-- A significand that fits stays so, however many digits follow. -/
theorem takeDigits_lt {significand : Nat} (small : significand < wordLimit) (digits : List Char) :
    (takeDigits significand digits).1 < wordLimit := by
  induction digits generalizing significand with
  | nil => exact small
  | cons digit digits ih =>
    unfold takeDigits
    dsimp only
    split
    · next fits => exact ih fits
    · exact small

/-- Digits whose value fits a word are all taken. -/
theorem takeDigits_eq {significand : Nat} {digits : List Char}
    (fits : Nat.ofDigitChars 10 digits significand < wordLimit) :
    takeDigits significand digits = (Nat.ofDigitChars 10 digits significand, digits.length) := by
  induction digits generalizing significand with
  | nil => rw [takeDigits, Nat.ofDigitChars_nil, List.length_nil]
  | cons digit digits ih =>
    rw [Nat.ofDigitChars_cons] at fits ⊢
    have next : significand * 10 + digitValue digit =
        10 * significand + (digit.toNat - '0'.toNat) := by rw [digitValue, Nat.mul_comm]
    have grows : 10 * significand + (digit.toNat - '0'.toNat) ≤
        Nat.ofDigitChars 10 digits (10 * significand + (digit.toNat - '0'.toNat)) := by
      rw [Nat.ofDigitChars_eq_ofDigitChars_zero]
      have := Nat.le_mul_of_pos_left (10 * significand + (digit.toNat - '0'.toNat))
        (Nat.pow_pos (n := digits.length) (show 0 < 10 by decide))
      omega
    unfold takeDigits
    dsimp only
    rw [next, if_pos (by omega), ih fits]
    rfl

/-- An integer that comes out of a literal fits a word. -/
theorem isWord_of_ofLiteral? {literal : Literal} {n : Int}
    (h : ofLiteral? literal = some (.integer n)) : IsWord n := by
  have small := takeDigits_lt (show 0 < wordLimit by decide) literal.whole
  have limit : wordLimit = 2 ^ 64 := rfl
  have half : Nat.pow 2 63 = 2 ^ 63 := rfl
  have inexact (significand : Nat) (exponent : Int) :
      (Binary64.ofParts? significand exponent).map
        (fun value => Number.double (value.withSign literal.negative)) ≠ some (.integer n) := by
    cases Binary64.ofParts? significand exponent <;> simp
  unfold ofLiteral? at h
  dsimp only at h
  unfold IsWord
  split at h
  · split at h
    · exact absurd h (inexact _ _)
    · split at h
      · cases h
        omega
      · split at h
        · cases h
          omega
        · exact absurd h (inexact _ _)
  · exact absurd h (inexact _ _)
  · exact absurd h (inexact _ _)

/-- A literal of digits alone is the integer they stand for, if that fits a word. -/
theorem ofLiteral?_toDigits (negative : Bool) {m : Nat}
    (fits : if negative then 0 < m ∧ m ≤ Nat.pow 2 63 else m < wordLimit) :
    ofLiteral? ⟨negative, Nat.toDigits 10 m, none, none⟩ =
      some (.integer (if negative then -(m : Int) else m)) := by
  have limit : wordLimit = 2 ^ 64 := rfl
  have half : Nat.pow 2 63 = 2 ^ 63 := rfl
  have small : m < wordLimit := by
    cases negative with
    | false => exact fits
    | true => simp only [if_true] at fits; omega
  have digits : takeDigits 0 (Nat.toDigits 10 m) = (m, (Nat.toDigits 10 m).length) := by
    have value : Nat.ofDigitChars 10 (Nat.toDigits 10 m) 0 = m := Nat.ofDigitChars_ten_toDigits
    rw [takeDigits_eq (by rwa [value]), value]
  unfold ofLiteral?
  cases negative with
  | false => simp [digits]
  | true =>
    simp only [if_true] at fits
    simp [digits, fits.2, Nat.pos_iff_ne_zero.mp fits.1]

end Number

/-- No text that goes on in this way makes the number before it longer. -/
def EndsNumber (rest : List Char) : Prop :=
  ∀ c ∈ rest.head?, ¬ c.isDigit ∧ c ≠ '.' ∧ c ≠ 'e' ∧ c ≠ 'E'

theorem splitDigits_append {digits rest : List Char} (all : ∀ c ∈ digits, c.isDigit = true)
    (ends : ∀ c ∈ rest.head?, ¬ c.isDigit) : splitDigits (digits ++ rest) = (digits, rest) := by
  have first : rest.takeWhile Char.isDigit = [] ∧ rest.dropWhile Char.isDigit = rest := by
    cases rest with
    | nil => exact ⟨rfl, rfl⟩
    | cons c rest =>
      have other := ends c rfl
      rw [List.takeWhile_cons_of_neg other, List.dropWhile_cons_of_neg other]
      exact ⟨rfl, rfl⟩
  rw [splitDigits, List.span_eq_takeWhile_dropWhile, List.takeWhile_append_of_pos all,
    List.dropWhile_append_of_pos all, first.1, first.2, List.append_nil]

/-- The digits of a number begin with a zero only if that is all of them. -/
theorem toDigits_ne_zero_cons (m : Nat) (c : Char) (rest : List Char) :
    Nat.toDigits 10 m ≠ '0' :: c :: rest := by
  induction m using Nat.strongRecOn generalizing c rest with
  | ind m ih =>
    intro h
    by_cases small : m < 10
    · rw [Nat.toDigits_of_lt_base small] at h
      simp at h
    · rw [Nat.toDigits_of_base_le (by decide) (by omega)] at h
      cases front : Nat.toDigits 10 (m / 10) with
      | nil => exact Nat.toDigits_ne_nil front
      | cons first more =>
        rw [front, List.cons_append, List.cons.injEq] at h
        obtain ⟨rfl, -⟩ := h
        cases more with
        | cons second more => exact ih (m / 10) (by omega) second more front
        | nil =>
          -- A lone zero in front would make the number less than ten.
          have value := Nat.ofDigitChars_ten_toDigits (n := m / 10)
          rw [front] at value
          simp [Nat.ofDigitChars_cons] at value
          omega

/-- The digits of a number are read up to what ends it. -/
theorem readWhole_toDigits (m : Nat) {rest : List Char} (ends : EndsNumber rest) :
    readWhole (Nat.toDigits 10 m ++ rest) = .ok (Nat.toDigits 10 m, rest) := by
  have all : ∀ c ∈ Nat.toDigits 10 m, c.isDigit = true := fun c mem =>
    Nat.isDigit_of_mem_toDigits (by decide) (by decide) mem
  rw [readWhole, splitDigits_append all fun c first => (ends c first).1]
  split
  · next h => simp at h
  · next h => simp only [Prod.mk.injEq] at h; exact absurd h.1 (toDigits_ne_zero_cons m _ _)
  · next h => cases h; rfl

theorem readFraction_of_ends {rest : List Char} (ends : EndsNumber rest) :
    readFraction rest = .ok (none, rest) := by
  unfold readFraction
  split
  · exact absurd rfl (ends '.' rfl).2.1
  · rfl

theorem readExponent_of_ends {rest : List Char} (ends : EndsNumber rest) :
    readExponent rest = .ok (none, rest) := by
  unfold readExponent
  split
  · next mark rest =>
    have other := (ends mark rfl).2.2
    rw [if_neg (by simp [other])]
  · rfl

theorem toDigits_eq_cons (m : Nat) :
    ∃ c rest, Nat.toDigits 10 m = c :: rest ∧ c.isDigit = true := by
  cases digits : Nat.toDigits 10 m with
  | nil => exact absurd digits Nat.toDigits_ne_nil
  | cons c rest =>
    have mem : c ∈ Nat.toDigits 10 m := by rw [digits]; exact List.mem_cons_self ..
    exact ⟨c, rest, rfl, Nat.isDigit_of_mem_toDigits (by decide) (by decide) mem⟩

/-- A whole number is read with its sign. -/
theorem readLiteral_toDigits (negative : Bool) (m : Nat) {rest : List Char}
    (ends : EndsNumber rest) :
    readLiteral ((if negative then ['-'] else []) ++ (Nat.toDigits 10 m ++ rest)) =
      .ok (⟨negative, Nat.toDigits 10 m, none, none⟩, rest) := by
  have more : readWhole (Nat.toDigits 10 m ++ rest) >>= (fun whole =>
      readFraction whole.2 >>= fun fraction => readExponent fraction.2 >>= fun exponent =>
        pure (⟨negative, whole.1, fraction.1, exponent.1⟩, exponent.2)) =
      (.ok (⟨negative, Nat.toDigits 10 m, none, none⟩, rest) :
        Except Gap (Number.Literal × List Char)) := by
    rw [readWhole_toDigits m ends, ok_bind, readFraction_of_ends ends, ok_bind,
      readExponent_of_ends ends, ok_bind]
    rfl
  rw [← more]
  cases negative with
  | true => rfl
  | false =>
    obtain ⟨c, digits, first, digit⟩ := toDigits_eq_cons m
    have unsigned : c ≠ '-' := by
      rintro rfl
      cases digit
    rw [first]
    unfold readLiteral
    split
    next negative text sign =>
      split at sign
      · next h => exact absurd (List.cons.inj h).1 unsigned
      · cases sign
        rfl

/-- What an integer is written as: an optional sign and digits. -/
theorem text_integer (n : Int) :
    (Number.integer n).text.toList =
      (if n < 0 then ['-'] else []) ++ Nat.toDigits 10 n.natAbs := by
  rw [Number.text, Int.toString_eq_repr, Int.repr_eq_if]
  by_cases negative : n < 0
  · rw [if_neg (by omega), if_pos negative, String.toList_append, Nat.toList_repr,
      show (-n).toNat = n.natAbs by omega]
    rfl
  · rw [if_pos (by omega), if_neg negative, Nat.toList_repr, show n.toNat = n.natAbs by omega]
    rfl

/-- An integer that fits a word is read back. -/
theorem readNumber_text {n : Int} (word : Number.IsWord n) {rest : List Char}
    (ends : EndsNumber rest) :
    readNumber ((Number.integer n).text.toList ++ rest) = .whole (.ok (.integer n)) rest := by
  have literal := readLiteral_toDigits (decide (n < 0)) n.natAbs ends
  have number : Number.ofLiteral? ⟨decide (n < 0), Nat.toDigits 10 n.natAbs, none, none⟩ =
      some (.integer n) := by
    unfold Number.IsWord at word
    rw [Number.ofLiteral?_toDigits]
    · by_cases negative : n < 0
      · simp only [negative, decide_true, if_true]
        congr 2
        omega
      · simp only [negative, decide_false, Bool.false_eq_true, if_false]
        congr 2
        omega
    · by_cases negative : n < 0
      · simp only [negative, decide_true, if_true]
        omega
      · simp only [negative, decide_false, Bool.false_eq_true, if_false]
        omega
  rw [text_integer, readNumber, List.append_assoc]
  simp only [decide_eq_true_eq] at literal
  rw [literal]
  simp only [number]

end PackageIndex.Json
