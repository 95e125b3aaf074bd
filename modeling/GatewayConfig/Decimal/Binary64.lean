/-!
# Binary floating point

A finite number of the format binary64: an integer of at most 53 bits times a power of two between
2^-1074 and 2^971. Products and quotients are computed exactly and rounded once, to the nearest
number of the format; a value halfway between two goes to the even one. A value beyond the format
has no result.
-/

namespace GatewayConfig.Decimal

/-- A finite binary64 number. -/
structure Binary64 where
  /-- Whether a minus sign stands in front, also in front of zero. -/
  negative : Bool
  /-- The integer that is scaled. -/
  mantissa : Nat
  /-- The power of two that scales it. -/
  exponent : Int
  deriving DecidableEq, Repr

/-- The quotient rounded to the nearest integer, a half to the even neighbour. -/
def roundDiv (num den : Nat) : Nat :=
  let q := num / den
  let r := 2 * (num % den)
  if den < r ∨ (r = den ∧ q % 2 = 1) then q + 1 else q

/-- A quotient `num / den` times a power of two, as numerator and denominator. -/
def scaleBinary (num den : Nat) (power : Int) : Nat × Nat :=
  (num * Nat.pow 2 power.toNat, den * Nat.pow 2 (-power).toNat)

namespace Binary64

/-- The exponent at which the quotient of two positive numbers has 53 bits, or the least exponent
of the format if that is greater. -/
def exponentFor (num den : Nat) : Int :=
  let e : Int := Nat.log2 num - Nat.log2 den - 53
  let (n, d) := scaleBinary num den (-e)
  max (-1074) (if Nat.pow 2 53 ≤ n / d then e + 1 else e)

/-- The number nearest to a quotient, with a sign. -/
def ofRatio? (negative : Bool) (num den : Nat) : Option Binary64 :=
  if num = 0 then some ⟨negative, 0, -1074⟩
  else
    let e := exponentFor num den
    let (n, d) := scaleBinary num den (-e)
    let m := roundDiv n d
    let (m, e) := if m = Nat.pow 2 53 then (Nat.pow 2 52, e + 1) else (m, e)
    if 971 < e then none else some ⟨negative, m, e⟩

/-- The absolute value as a quotient. -/
def ratio (f : Binary64) : Nat × Nat := scaleBinary f.mantissa 1 f.exponent

/-- The rounded product of two numbers. -/
def mul? (f g : Binary64) : Option Binary64 :=
  ofRatio? (f.negative != g.negative) (f.ratio.1 * g.ratio.1) (f.ratio.2 * g.ratio.2)

/-- The rounded quotient of two numbers, the second of which is not zero. -/
def div? (f g : Binary64) : Option Binary64 :=
  ofRatio? (f.negative != g.negative) (f.ratio.1 * g.ratio.2) (f.ratio.2 * g.ratio.1)

/-- The number nearest to a power of ten. -/
def powerOfTen? (n : Nat) : Option Binary64 := ofRatio? false (Nat.pow 10 n) 1

/-- The number read for an unsigned significand times a power of ten. The significand is rounded
first, and multiplied or divided by a rounded power of ten afterwards; a power below 10^-308 is
divided out in steps. So the result may miss the nearest number by a few units. -/
def ofDecimal? (significand : Binary64) (power : Int) : Option Binary64 :=
  if significand.mantissa = 0 then some significand
  else if 308 < power then none
  else if 0 ≤ power then do
    significand.mul? (← powerOfTen? power.toNat)
  else if -308 ≤ power then do
    significand.div? (← powerOfTen? (-power).toNat)
  else do
    ofDecimal? (← significand.div? (← powerOfTen? 308)) (power + 308)
termination_by (-power).toNat

end Binary64

end GatewayConfig.Decimal
