import GatewayConfig.Decimal.Shortest
import GatewayConfig.Proofs.Decimal.Reading

/-!
# What is written for a number is read

The shortest decimal of a number lies in the interval of values that round to the number, so it
stays within what can be read: it has at most seventeen digits, and its value does not pass the
upper end of the interval of any number but the greatest.
-/

namespace GatewayConfig.Decimal

/-- A number is below the power of ten of its length. -/
theorem lt_pow_decimalLength (n : Nat) : n < 10 ^ decimalLength n :=
  (Nat.length_toDigits_le_iff (by norm_num) (List.length_pos_iff.2 Nat.toDigits_ne_nil)).1 le_rfl

/-- A positive number is at least the power of ten before. -/
theorem pow_decimalLength_le {n : Nat} (hn : 0 < n) : 10 ^ (decimalLength n - 1) ≤ n := by
  by_contra hlt
  rcases Nat.eq_zero_or_pos (decimalLength n - 1) with hzero | hpos
  · rw [hzero, pow_zero] at hlt
    omega
  · have hle := (Nat.length_toDigits_le_iff (by norm_num) hpos).2 (not_le.1 hlt)
    rw [decimalLength] at hle hpos
    omega

/-- A positive quotient is below the power of ten of its place. -/
theorem quotient_lt_decimalPlace {num den : Nat} (hnum : 0 < num) (hden : 0 < den) :
    quotient (num, den) < 10 ^ decimalPlace num den := by
  have hpos : (0 : ℚ) < den := by exact_mod_cast hden
  rw [decimalPlace, quotient, div_lt_iff₀ hpos]
  split
  next hle =>
    have hlt := lt_pow_decimalLength (num / den)
    rw [Nat.div_lt_iff_lt_mul hden] at hlt
    rw [zpow_natCast]
    exact_mod_cast hlt
  next hless =>
    have hone : 0 < (den - 1) / num := Nat.div_pos (by omega) hnum
    have hle := pow_decimalLength_le hone
    rw [Nat.le_div_iff_mul_le hnum] at hle
    have hlength : 0 < decimalLength ((den - 1) / num) :=
      List.length_pos_iff.2 Nat.toDigits_ne_nil
    have hpow : (10 : ℚ) ^ (1 - (decimalLength ((den - 1) / num) : Int)) =
        (10 ^ (decimalLength ((den - 1) / num) - 1))⁻¹ := by
      rw [← zpow_natCast, ← zpow_neg]
      congr 1
      omega
    rw [hpow, inv_mul_eq_div, lt_div_iff₀ (by positivity)]
    have hlt : num * 10 ^ (decimalLength ((den - 1) / num) - 1) < den := by
      rw [Nat.mul_comm]
      omega
    exact_mod_cast hlt

/-- Scaling multiplies the number by the power of ten. -/
theorem quotient_scaleDecimal (n : Nat) (power : Int) :
    quotient (scaleDecimal n power) = n * 10 ^ power := by
  rw [quotient, scaleDecimal, ← zpow_toNat_sub 10 (by norm_num) power]
  push_cast [Nat.pow_eq]
  exact mul_div_assoc _ _ _

/-- Fractions are compared without division. -/
theorem ratioLt_iff {x y : Nat × Nat} (hx : 0 < x.2) (hy : 0 < y.2) :
    ratioLt x y = true ↔ quotient x < quotient y := by
  have hx' : (0 : ℚ) < x.2 := by exact_mod_cast hx
  have hy' : (0 : ℚ) < y.2 := by exact_mod_cast hy
  rw [ratioLt, decide_eq_true_eq, quotient, quotient, div_lt_div_iff₀ hx' hy']
  exact_mod_cast Iff.rfl

/-- The order of fractions is asymmetric, also where a denominator is zero. -/
theorem ratioLt_asymm {x y : Nat × Nat} (h : ratioLt x y = true) : ratioLt y x = false := by
  rw [ratioLt, decide_eq_true_eq] at h
  rw [ratioLt, decide_eq_false_iff_not]
  exact not_lt.2 h.le

/-- The number that a decimal stands for. -/
def Digits.value (d : Digits) : ℚ := d.digits * 10 ^ d.power

namespace Binary64

variable {f : Binary64}

/-- A decimal that reads back is positive, and not beyond the upper end of the interval. -/
theorem of_readsBack {digits : Nat} {power : Int} (hm : f.mantissa ≠ 0)
    (h : f.readsBack digits power = true) :
    0 < digits ∧ (digits : ℚ) * 10 ^ power ≤ (4 * f.mantissa + 2 : Nat) * 2 ^ (f.exponent - 2) := by
  have hdecimal : 0 < (scaleDecimal digits power).2 := Nat.pow_pos (by norm_num)
  have hlow : 0 < f.bounds.1.2 := scaleBinary_snd_pos Nat.one_pos _ _
  have hhigh : 0 < f.bounds.2.2 := scaleBinary_snd_pos Nat.one_pos _ _
  have hlowpos : 0 < f.bounds.1.1 := by
    refine scaleBinary_fst_pos ?_ _ _
    split <;> omega
  have hquotient : quotient f.bounds.2 = (4 * f.mantissa + 2 : Nat) * 2 ^ (f.exponent - 2) := by
    rw [bounds, quotient_scaleBinary, quotient, Nat.cast_one, div_one]
  have hbetween : ratioLt (scaleDecimal digits power) f.bounds.1 = false ∧
      ratioLt f.bounds.2 (scaleDecimal digits power) = false := by
    have hcases : (if f.mantissa % 2 = 0 then
        !ratioLt (scaleDecimal digits power) f.bounds.1 &&
          !ratioLt f.bounds.2 (scaleDecimal digits power)
        else ratioLt f.bounds.1 (scaleDecimal digits power) &&
          ratioLt (scaleDecimal digits power) f.bounds.2) = true := h
    split at hcases
    · rwa [Bool.and_eq_true, Bool.not_eq_true', Bool.not_eq_true'] at hcases
    · rw [Bool.and_eq_true] at hcases
      exact ⟨ratioLt_asymm hcases.1, ratioLt_asymm hcases.2⟩
  constructor
  · refine Nat.pos_of_ne_zero fun hzero => ?_
    have hlt : ratioLt (scaleDecimal digits power) f.bounds.1 = true := by
      rw [ratioLt, scaleDecimal, hzero, Nat.zero_mul, Nat.zero_mul]
      exact decide_eq_true (Nat.mul_pos hlowpos (Nat.pow_pos (by norm_num)))
    rw [hbetween.1] at hlt
    cases hlt
  · have hle : ¬ quotient f.bounds.2 < quotient (scaleDecimal digits power) := fun hlt => by
      rw [(ratioLt_iff hhigh hdecimal).2 hlt] at hbetween
      exact absurd hbetween.2 (by simp)
    rw [quotient_scaleDecimal, hquotient] at hle
    exact not_lt.1 hle

/-- Divided by the power of ten that leaves a given count of digits, a number is below that power
of ten of as many digits. -/
theorem quotient_shifted_lt (hm : f.mantissa ≠ 0) {count : Nat} {power : Int}
    (hpower : power = decimalPlace f.ratio.1 f.ratio.2 - count) :
    quotient (f.ratio.1 * Nat.pow 10 (-power).toNat, f.ratio.2 * Nat.pow 10 power.toNat) <
      (10 ^ count : Nat) := by
  have hplace := quotient_lt_decimalPlace
    (scaleBinary_fst_pos (Nat.pos_of_ne_zero hm) 1 f.exponent) f.ratio_snd_pos
  have hscaled : quotient (f.ratio.1 * Nat.pow 10 (-power).toNat,
      f.ratio.2 * Nat.pow 10 power.toNat) = quotient f.ratio * 10 ^ (-power) := by
    rw [← zpow_toNat_sub 10 (by norm_num) (-power), neg_neg, quotient, quotient]
    push_cast [Nat.pow_eq]
    exact mul_div_mul_comm _ _ _ _
  have hten : (0 : ℚ) < 10 ^ (-power) := zpow_pos (by norm_num) _
  have hcount : decimalPlace f.ratio.1 f.ratio.2 + -power = count := by omega
  rw [hscaled, Nat.cast_pow, Nat.cast_ofNat, ← zpow_natCast, ← hcount, zpow_add₀ (by norm_num)]
  exact mul_lt_mul_of_pos_right hplace hten

/-- A decimal with a given count of digits that is found reads back, and has no more digits. -/
theorem of_nearest? {count : Nat} {d : Digits} (hm : f.mantissa ≠ 0)
    (h : f.nearest? count = some d) :
    f.readsBack d.digits d.power = true ∧ d.digits ≤ 10 ^ count := by
  let power := decimalPlace f.ratio.1 f.ratio.2 - count
  let num := f.ratio.1 * Nat.pow 10 (-power).toNat
  let den := f.ratio.2 * Nat.pow 10 power.toNat
  have hden : 0 < den := Nat.mul_pos f.ratio_snd_pos (Nat.pow_pos (by norm_num))
  have hlt : quotient (num, den) < (10 ^ count : Nat) := quotient_shifted_lt hm rfl
  have hfloor : num / den < 10 ^ count := by
    rw [Nat.div_lt_iff_lt_mul hden]
    have hpos : (0 : ℚ) < den := by exact_mod_cast hden
    rw [quotient, div_lt_iff₀ hpos] at hlt
    exact_mod_cast hlt
  have hcases : (if f.readsBack (roundDiv num den) power then
        some (⟨roundDiv num den, power⟩ : Digits)
      else if f.readsBack (num / den) power then some ⟨num / den, power⟩
      else if f.readsBack (num / den + 1) power then some ⟨num / den + 1, power⟩
      else none) = some d := h
  split at hcases
  next hback =>
    obtain rfl := Option.some.inj hcases
    exact ⟨hback, roundDiv_le hden hlt.le⟩
  split at hcases
  next hback =>
    obtain rfl := Option.some.inj hcases
    exact ⟨hback, hfloor.le⟩
  split at hcases
  next hback =>
    obtain rfl := Option.some.inj hcases
    exact ⟨hback, hfloor⟩
  · cases hcases

/-- To move zeros into the power keeps the value, and makes the digits fewer. -/
theorem stripZeros_spec (n : Nat) (d : Digits) :
    (stripZeros n d).value = d.value ∧ (stripZeros n d).digits ≤ d.digits ∧
      (0 < d.digits → 0 < (stripZeros n d).digits) := by
  induction n generalizing d with
  | zero => exact ⟨rfl, le_rfl, id⟩
  | succ n ih =>
    rw [stripZeros]
    split
    next hzero =>
      obtain ⟨hvalue, hdigits, hpos⟩ := ih ⟨d.digits / 10, d.power + 1⟩
      have hten : (d.digits : ℚ) = (d.digits / 10 : Nat) * 10 := by
        exact_mod_cast (Nat.div_mul_cancel (Nat.dvd_of_mod_eq_zero hzero)).symm
      refine ⟨hvalue.trans ?_, hdigits.trans (Nat.div_le_self _ _), fun h => hpos ?_⟩
      · rw [Digits.value, Digits.value, zpow_add_one₀ (by norm_num), hten]
        ring
      · dsimp only
        omega
    · exact ⟨rfl, le_rfl, id⟩

/-- The limit below which decimals are read, as a multiple of a power of two. -/
theorem readLimit_eq : (readLimit : ℚ) = (2 ^ 55 - 6 : Nat) * 2 ^ (969 : Int) := by
  have hcast : (readLimit : ℚ) = (2 ^ 54 - 3 : Nat) * 2 ^ (970 : Int) :=
    cast_mul_pow (2 ^ 54 - 3) 970
  have hdouble : ((2 ^ 54 - 3 : Nat) : ℚ) * 2 = (2 ^ 55 - 6 : Nat) := by norm_num
  rw [hcast, ← hdouble, show (970 : Int) = 1 + 969 by rfl, zpow_add₀ two_ne_zero, zpow_one,
    mul_assoc]

/-- The upper end of the interval of any number of the format but the greatest. -/
theorem upperEnd_le (hf : f.Finite) (hless : f.mantissa < 2 ^ 53 - 1 ∨ f.exponent < 971) :
    ((4 * f.mantissa + 2 : Nat) : ℚ) * 2 ^ (f.exponent - 2) ≤ readLimit := by
  have hmantissa := hf.mantissa
  have hexponent := hf.exponent
  rw [readLimit_eq]
  rcases hless with hless | hless
  · have hcast : ((4 * f.mantissa + 2 : Nat) : ℚ) ≤ (2 ^ 55 - 6 : Nat) := by
      exact_mod_cast (by omega)
    exact mul_le_mul hcast (zpow_le_zpow_right₀ one_le_two (by omega)) (two_zpow_pos _).le
      (by positivity)
  · have hcast : ((4 * f.mantissa + 2 : Nat) : ℚ) ≤ (2 ^ 55 - 6 : Nat) * 2 := by
      exact_mod_cast (by omega)
    calc ((4 * f.mantissa + 2 : Nat) : ℚ) * 2 ^ (f.exponent - 2)
        ≤ (2 ^ 55 - 6 : Nat) * 2 * 2 ^ (968 : Int) :=
          mul_le_mul hcast (zpow_le_zpow_right₀ one_le_two (by omega)) (two_zpow_pos _).le
            (by positivity)
      _ = (2 ^ 55 - 6 : Nat) * 2 ^ (969 : Int) := by
          rw [show (969 : Int) = 1 + 968 by rfl, zpow_add₀ two_ne_zero, zpow_one, mul_assoc]

end Binary64

/-- A decimal that can be read, whatever its sign. -/
structure Digits.Legible (d : Digits) : Prop where
  /-- It has at most seventeen digits. -/
  digits : d.digits ≤ 10 ^ 17
  /-- It is positive, or zero without any zeros to spare. -/
  positive : 0 < d.digits ∨ d = ⟨0, 0⟩
  /-- It is within the format. -/
  within : 0 ≤ d.power → d.digits * 10 ^ d.power.toNat ≤ Binary64.readLimit ∨
    d = ⟨17976931348623157, 292⟩

/-- Digits without a fraction are an integer. -/
theorem Digits.value_of_nonneg {d : Digits} (h : 0 ≤ d.power) :
    d.value = (d.digits * 10 ^ d.power.toNat : Nat) := by
  have hpower : (d.power.toNat : Int) = d.power := Int.toNat_of_nonneg h
  rw [value, Nat.cast_mul, Nat.cast_pow, Nat.cast_ofNat, ← zpow_natCast, hpower]

namespace Binary64

variable {f : Binary64}

/-- The greatest number of the format has seventeen shortest digits. -/
theorem shortest_greatest (negative : Bool) :
    (⟨negative, 2 ^ 53 - 1, 971⟩ : Binary64).shortest = ⟨17976931348623157, 292⟩ := by
  cases negative <;> decide +kernel

/-- The shortest decimal of a number that is not zero can be read. -/
theorem legible_shortest (hf : f.Finite) (hm : f.mantissa ≠ 0) : f.shortest.Legible := by
  by_cases hgreatest : f.mantissa = 2 ^ 53 - 1 ∧ f.exponent = 971
  · obtain ⟨negative, mantissa, exponent⟩ := f
    obtain ⟨rfl, rfl⟩ := hgreatest
    rw [shortest_greatest]
    exact ⟨by norm_num, .inl (by norm_num), fun _ => .inr rfl⟩
  have hless : f.mantissa < 2 ^ 53 - 1 ∨ f.exponent < 971 := by
    have hmantissa := hf.mantissa
    have hexponent := hf.exponent
    omega
  rw [shortest]
  cases hfound : (List.range 17).findSome? fun n => f.nearest? (n + 1) with
  | none => exact ⟨by norm_num, .inr rfl, fun _ => .inl (by norm_num)⟩
  | some d =>
    obtain ⟨n, hn, hnearest⟩ := List.exists_of_findSome?_eq_some hfound
    obtain ⟨hback, hdigits⟩ := of_nearest? hm hnearest
    obtain ⟨hpositive, hvalue⟩ := of_readsBack hm hback
    obtain ⟨hsame, hfewer, hstill⟩ := stripZeros_spec 17 d
    have hcount : 10 ^ (n + 1) ≤ 10 ^ 17 :=
      Nat.pow_le_pow_right (by norm_num) (by have := List.mem_range.1 hn; omega)
    refine ⟨hfewer.trans (hdigits.trans hcount), .inl (hstill hpositive), fun hpower => .inl ?_⟩
    have hwithin : (stripZeros 17 d).value ≤ readLimit :=
      hsame.le.trans (hvalue.trans (upperEnd_le hf hless))
    rw [Digits.value_of_nonneg hpower] at hwithin
    exact_mod_cast hwithin

end Binary64

end GatewayConfig.Decimal
