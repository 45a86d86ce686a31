/-!
# Doubles, exactly

A finite double is a sign and a whole number of the smallest positive double, `2 ^ -1074`. Those
whole numbers are the ones with at most 53 significant bits below the largest exponent, and every
operation rounds its exact result to one of them, a half going to the even neighbour.
-/
namespace PackageIndex

structure Binary64 where
  negative : Bool
  units : Nat
  deriving DecidableEq, Repr

namespace Binary64

/-- The exponent of the unit, without its sign. -/
def unitBits : Nat := 1074

/-- No finite double has this many units. -/
def limit : Nat := Nat.pow 2 (1024 + unitBits)

def zero : Binary64 := ⟨false, 0⟩

def roundDivision (numerator denominator : Nat) : Nat :=
  let quotient := numerator / denominator
  let twice := 2 * (numerator % denominator)
  if denominator < twice ∨ (twice = denominator ∧ quotient % 2 = 1) then quotient + 1 else quotient

/-- The number of units from a double of this size to the next larger one. -/
def spacing (units : Nat) : Nat := Nat.pow 2 (units.log2 - 52)

/-- The double nearest to a nonnegative ratio; `none` when it is too large for any. -/
def ofRatio? (numerator denominator : Nat) : Option Binary64 :=
  let exact := numerator * Nat.pow 2 unitBits
  let step := spacing (exact / denominator)
  let units := roundDivision exact (denominator * step) * step
  if units < limit then some ⟨false, units⟩ else none

def ofNat? (n : Nat) : Option Binary64 := ofRatio? n 1

def withSign (negative : Bool) (a : Binary64) : Binary64 := ⟨negative, a.units⟩

/-- The product of the magnitudes. -/
def mul? (a b : Binary64) : Option Binary64 :=
  ofRatio? (a.units * b.units) (Nat.pow 2 (2 * unitBits))

/-- The quotient of the magnitudes. -/
def div? (a b : Binary64) : Option Binary64 := ofRatio? a.units b.units

def powerOfTen? (exponent : Nat) : Option Binary64 := ofNat? (Nat.pow 10 exponent)

/-- The exponent up to which a power of ten is a double. -/
def lastPower : Nat := 308

/-- `significand * 10 ^ exponent` in two roundings, of the significand and of the product; a long
way below one the division is done in several steps. -/
def ofParts? (significand : Nat) (exponent : Int) : Option Binary64 := do
  let start ← ofNat? significand
  scale 4 start exponent
where
  scale : (steps : Nat) → Binary64 → Int → Option Binary64
    | 0, _, _ => some zero
    | steps + 1, value, exponent =>
      if exponent.natAbs ≤ lastPower then do
        let power ← powerOfTen? exponent.natAbs
        if 0 ≤ exponent then value.mul? power else value.div? power
      else if value.units = 0 then some value
      else if 0 ≤ exponent then none
      else do
        let power ← powerOfTen? lastPower
        let smaller ← value.div? power
        scale steps smaller (exponent + lastPower)

end Binary64

end PackageIndex
