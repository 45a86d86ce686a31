import PackageIndex.Decimal.Shortest
import PackageIndex.Text

/-!
# JSON values

A number is an integer of 64 bits or a double; anything else that is written with digits is read as
a double. The members of an object stand in the order in which they are written. Free-form objects
are kept in `sorted` form, by name and each name once.
-/
namespace PackageIndex.Json

inductive Number where
  | integer (n : Int)
  | double (value : Binary64)
  deriving DecidableEq, Repr

namespace Number

/-- Numbers from `1e-5` up to, but not including, `1e16` are written without a power of ten, and a
double always shows that it is one. -/
def layout : NumberLayout := ⟨-5, 15, true, true⟩

def text : Number → String
  | integer n => toString n
  | double value => layout.render value

/-- The first integer that no machine word of 64 bits holds. -/
def wordLimit : Nat := Nat.pow 2 64

def digitValue (c : Char) : Nat := c.toNat - '0'.toNat

/-- Takes in digits as long as the significand fits a word; also tells how many were taken. -/
def takeDigits : (significand : Nat) → (digits : List Char) → Nat × Nat
  | significand, [] => (significand, 0)
  | significand, digit :: rest =>
    let next := significand * 10 + digitValue digit
    if next < wordLimit then
      let (last, taken) := takeDigits next rest
      (last, taken + 1)
    else (significand, 0)

/-- A literal in its parts. -/
structure Literal where
  negative : Bool
  whole : List Char
  fraction : Option (List Char)
  exponent : Option Int

/-- The number a literal stands for; `none` when it is too large. -/
def ofLiteral? (literal : Literal) : Option Number :=
  let (whole, taken) := takeDigits 0 literal.whole
  let dropped := literal.whole.length - taken
  let double (significand : Nat) (exponent : Int) : Option Number :=
    (Binary64.ofParts? significand exponent).map fun value =>
      .double (value.withSign literal.negative)
  match literal.fraction, literal.exponent with
  | none, none =>
    if dropped ≠ 0 then double whole dropped
    else if ¬ literal.negative then some (.integer whole)
    else if whole ≠ 0 ∧ whole ≤ Nat.pow 2 63 then some (.integer (-(whole : Int)))
    else double whole 0
  | none, some exponent => double whole (dropped + exponent)
  | some fraction, exponent =>
    let (significand, places) := takeDigits whole fraction
    double significand ((dropped : Int) - places + exponent.getD 0)

end Number

inductive Value where
  | null
  | bool (b : Bool)
  | number (n : Number)
  | string (s : String)
  | array (items : List Value)
  | object (members : List (String × Value))
  deriving Repr

namespace Value

mutual
def decEq : (a b : Value) → Decidable (a = b)
  | null, null => isTrue rfl
  | bool a, bool b => decidable_of_iff (a = b) (by simp)
  | number a, number b => decidable_of_iff (a = b) (by simp)
  | string a, string b => decidable_of_iff (a = b) (by simp)
  | array a, array b =>
    match decEqItems a b with
    | isTrue h => isTrue (by rw [h])
    | isFalse h => isFalse (by simpa using h)
  | object a, object b =>
    match decEqMembers a b with
    | isTrue h => isTrue (by rw [h])
    | isFalse h => isFalse (by simpa using h)
  | null, bool _ | null, number _ | null, string _ | null, array _ | null, object _
  | bool _, null | bool _, number _ | bool _, string _ | bool _, array _ | bool _, object _
  | number _, null | number _, bool _ | number _, string _ | number _, array _
  | number _, object _
  | string _, null | string _, bool _ | string _, number _ | string _, array _
  | string _, object _
  | array _, null | array _, bool _ | array _, number _ | array _, string _ | array _, object _
  | object _, null | object _, bool _ | object _, number _ | object _, string _
  | object _, array _ => isFalse (by simp)
def decEqItems : (a b : List Value) → Decidable (a = b)
  | [], [] => isTrue rfl
  | [], _ :: _ | _ :: _, [] => isFalse (by simp)
  | a :: as, b :: bs =>
    match decEq a b, decEqItems as bs with
    | isTrue h, isTrue h' => isTrue (by rw [h, h'])
    | isFalse h, _ => isFalse (by simp [h])
    | _, isFalse h => isFalse (by simp [h])
def decEqMembers : (a b : List (String × Value)) → Decidable (a = b)
  | [], [] => isTrue rfl
  | [], _ :: _ | _ :: _, [] => isFalse (by simp)
  | (k, a) :: as, (l, b) :: bs =>
    match decEq a b, decEqMembers as bs with
    | isTrue h, isTrue h' => decidable_of_iff (k = l) (by simp [h, h'])
    | isFalse h, _ => isFalse (by simp [h])
    | _, isFalse h => isFalse (by simp [h])
end

instance : DecidableEq Value := decEq

/-- Puts a member at its place among sorted ones; an equal name gives way. -/
def insertMember (name : String) (value : Value) :
    List (String × Value) → List (String × Value)
  | [] => [(name, value)]
  | (other, old) :: rest =>
    if name = other then (name, value) :: rest
    else if Text.precedes name other then (name, value) :: (other, old) :: rest
    else (other, old) :: insertMember name value rest

def sortMembers (members : List (String × Value)) : List (String × Value) :=
  members.foldl (fun done member => insertMember member.1 member.2 done) []

mutual
/-- Every object inside, and the value itself, with its members by name; of equal names the last
one counts. -/
def sorted : Value → Value
  | array items => .array (sortedItems items)
  | object members => .object (sortMembers (sortedMembers members))
  | value => value
def sortedItems : List Value → List Value
  | [] => []
  | item :: rest => sorted item :: sortedItems rest
def sortedMembers : List (String × Value) → List (String × Value)
  | [] => []
  | (name, value) :: rest => (name, sorted value) :: sortedMembers rest
end

end Value

end PackageIndex.Json
