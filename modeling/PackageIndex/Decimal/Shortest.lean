import PackageIndex.Decimal.Binary64

/-!
# The shortest decimal of a double

Of the decimals that read back as a given double, the ones with fewest digits are looked at, and of
these the one nearest to the double is taken. A decimal grid has a point that reads back exactly
when one of the two grid points next to the double does, so only those two are tried, on finer and
finer grids.
-/
namespace PackageIndex

/-- `digits * 10 ^ exponent`. -/
structure Decimal where
  digits : Nat
  exponent : Int
  deriving DecidableEq, Repr

namespace Decimal

def length (n : Nat) : Nat := (Nat.toDigits 10 n).length

/-- Drops zeros from the end of the digits; `steps` bounds how many. -/
def dropZeros : (steps : Nat) → Decimal → Decimal
  | 0, decimal => decimal
  | steps + 1, ⟨digits, exponent⟩ =>
    if digits ≠ 0 ∧ digits % 10 = 0 then dropZeros steps ⟨digits / 10, exponent + 1⟩
    else ⟨digits, exponent⟩

end Decimal

namespace Binary64

/-- The exponent of the first decimal digit of a positive double. -/
def firstExponent (units : Nat) : Int :=
  let whole := units / Nat.pow 2 unitBits
  if whole = 0 then -(Decimal.length ((Nat.pow 2 unitBits - 1) / units) : Int)
  else Decimal.length whole - 1

/-- The reals that round to a double, all in quarters of a unit: the ends belong to them when the
significand is even. -/
structure Basin where
  lower : Nat
  centre : Nat
  upper : Nat
  closed : Bool

/-- Below a power of two the next double is only half as far away. -/
def basin (units : Nat) : Basin :=
  let step := spacing units
  let below := if units = Nat.pow 2 52 * step ∧ 1 < step then step else 2 * step
  ⟨4 * units - below, 4 * units, 4 * units + 2 * step, (units / step) % 2 = 0⟩

def Basin.holds (basin : Basin) (scale point : Nat) : Bool :=
  if basin.closed then basin.lower * scale ≤ point && point ≤ basin.upper * scale
  else basin.lower * scale < point && point < basin.upper * scale

/-- A point of the grid of multiples of `10 ^ exponent` in the basin, the one nearer to the
centre; of two equally near ones the even one. -/
def onGrid? (basin : Basin) (exponent : Int) : Option Decimal :=
  let scale := Nat.pow 10 (-exponent).toNat
  let step := Nat.pow 10 exponent.toNat * Nat.pow 2 (unitBits + 2)
  let centre := basin.centre * scale
  let digits := centre / step
  let low := basin.holds scale (digits * step)
  let high := basin.holds scale ((digits + 1) * step)
  let fromLow := centre - digits * step
  let fromHigh := (digits + 1) * step - centre
  if low && high then
    if fromLow < fromHigh ∨ (fromLow = fromHigh ∧ digits % 2 = 0) then some ⟨digits, exponent⟩
    else some ⟨digits + 1, exponent⟩
  else if low then some ⟨digits, exponent⟩
  else if high then some ⟨digits + 1, exponent⟩
  else none

/-- Seventeen digits are always enough. -/
def mostDigits : Nat := 17

def shortest (value : Binary64) : Decimal :=
  if value.units = 0 then ⟨0, 0⟩
  else
    let basin := basin value.units
    let first := firstExponent value.units
    let found := (List.range mostDigits).findSome? fun (n : Nat) =>
      onGrid? basin (first - (n : Int))
    (found.getD ⟨0, 0⟩).dropZeros mostDigits

end Binary64

/-- How a decimal is written. -/
structure NumberLayout where
  /-- The exponents of the first digit that are written without a power of ten. -/
  positionalFrom : Int
  positionalTo : Int
  /-- Whether a whole number ends in a point and a zero. -/
  markWhole : Bool
  plusExponent : Bool

namespace NumberLayout

def sign (negative : Bool) : String := if negative then "-" else ""

/-- The digits with the point before the place whose exponent is -1. -/
def positional (layout : NumberLayout) (digits : List Char) (exponent : Int) : String :=
  let zeros (n : Nat) := List.replicate n '0'
  let whole := String.ofList <|
    if exponent < 0 then ['0']
    else digits.take (exponent.toNat + 1) ++ zeros (exponent.toNat + 1 - digits.length)
  let part := String.ofList <|
    if exponent < 0 then zeros ((-exponent).toNat - 1) ++ digits
    else digits.drop (exponent.toNat + 1)
  if part = "" then whole ++ (if layout.markWhole then ".0" else "") else whole ++ "." ++ part

def scientific (layout : NumberLayout) (digits : List Char) (exponent : Int) : String :=
  let mantissa := match digits with
    | [] => "0"
    | [digit] => digit.toString
    | digit :: rest => digit.toString ++ "." ++ String.ofList rest
  let plus := if layout.plusExponent ∧ 0 ≤ exponent then "+" else ""
  mantissa ++ "e" ++ plus ++ toString exponent

def render (layout : NumberLayout) (value : Binary64) : String :=
  let decimal := value.shortest
  let digits := Nat.toDigits 10 decimal.digits
  let first : Int := decimal.exponent + digits.length - 1
  sign value.negative ++
    if layout.positionalFrom ≤ first ∧ first ≤ layout.positionalTo then
      layout.positional digits first
    else layout.scientific digits first

end NumberLayout

end PackageIndex
