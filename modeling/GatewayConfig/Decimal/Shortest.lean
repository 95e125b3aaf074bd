import GatewayConfig.Decimal.Binary64

/-!
# The shortest decimal

The fewest digits that read back as a given binary64 number. A decimal reads back when it lies in
the interval of values that round to the number, the ends included when the mantissa is even. For
each count of digits the two decimals next to the number are tried, and of two that fit the
nearer one is taken.
-/

namespace GatewayConfig.Decimal

/-- A digit string times a power of ten. -/
structure Digits where
  /-- The digits as a number, without trailing zeros. -/
  digits : Nat
  /-- The power of ten of the last digit. -/
  power : Int
  deriving DecidableEq, Repr

/-- How many decimal digits a number has. -/
def decimalLength (n : Nat) : Nat := (Nat.toDigits 10 n).length

/-- The place of the first digit of a positive quotient: the quotient is below that power of ten
and not below the one before it. -/
def decimalPlace (num den : Nat) : Int :=
  if den ≤ num then decimalLength (num / den) else 1 - (decimalLength ((den - 1) / num) : Nat)

/-- A number times a power of ten, as numerator and denominator. -/
def scaleDecimal (n : Nat) (power : Int) : Nat × Nat :=
  (n * Nat.pow 10 power.toNat, Nat.pow 10 (-power).toNat)

/-- Whether the first quotient is below the second. -/
def ratioLt (x y : Nat × Nat) : Bool := x.1 * y.2 < y.1 * x.2

namespace Binary64

/-- The ends of the interval of values that round to the number. Below a power of two the
neighbours are half as far apart. -/
def bounds (f : Binary64) : (Nat × Nat) × (Nat × Nat) :=
  let below := if f.mantissa = Nat.pow 2 52 ∧ -1074 < f.exponent then 1 else 2
  (scaleBinary (4 * f.mantissa - below) 1 (f.exponent - 2),
    scaleBinary (4 * f.mantissa + 2) 1 (f.exponent - 2))

/-- Whether a decimal reads back as the number. -/
def readsBack (f : Binary64) (digits : Nat) (power : Int) : Bool :=
  let x := scaleDecimal digits power
  let (low, high) := f.bounds
  if f.mantissa % 2 = 0 then !ratioLt x low && !ratioLt high x else ratioLt low x && ratioLt x high

/-- The decimal with the given count of digits that is nearest to the number, if it reads back. -/
def nearest? (f : Binary64) (count : Nat) : Option Digits :=
  let (num, den) := f.ratio
  let power := decimalPlace num den - count
  let (n, d) := (num * Nat.pow 10 (-power).toNat, den * Nat.pow 10 power.toNat)
  let low := n / d
  let high := low + 1
  let nearer := roundDiv n d
  if f.readsBack nearer power then some ⟨nearer, power⟩
  else if f.readsBack low power then some ⟨low, power⟩
  else if f.readsBack high power then some ⟨high, power⟩
  else none

/-- Move trailing zeros into the power of ten. -/
def stripZeros : Nat → Digits → Digits
  | 0, d => d
  | n + 1, d => if d.digits % 10 = 0 then stripZeros n ⟨d.digits / 10, d.power + 1⟩ else d

/-- The shortest decimal that reads back as a number that is not zero. Seventeen digits always
do. -/
def shortest (f : Binary64) : Digits :=
  match (List.range 17).findSome? fun n => f.nearest? (n + 1) with
  | some d => stripZeros 17 d
  | none => ⟨0, 0⟩

end Binary64

end GatewayConfig.Decimal
