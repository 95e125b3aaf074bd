import GatewayConfig.Proofs.Decimal.Rounding

/-!
# Decimals within the format are read

A decimal is read in two roundings, of its digits and of the product with a rounded power of ten,
and either may carry the result beyond the format though the decimal itself lies within.
`exists_ofDecimal?` says that this does not happen to decimals of up to seventeen digits below
`limit`. For a positive power of ten that is a matter of the greatest number of digits that stays
below `limit`, which `powersFit` looks at for each of the powers.
-/

namespace GatewayConfig.Decimal

/-- The fraction of a product is the product of the fractions. -/
theorem quotient_mul (x y : Nat × Nat) :
    quotient (x.1 * y.1, x.2 * y.2) = quotient x * quotient y := by
  rw [quotient, quotient, quotient]
  push_cast
  exact mul_div_mul_comm _ _ _ _

/-- The fraction of a quotient is the quotient of the fractions. -/
theorem quotient_div (x y : Nat × Nat) :
    quotient (x.1 * y.2, x.2 * y.1) = quotient x / quotient y := by
  rw [quotient, quotient, quotient, div_div_div_eq]
  push_cast
  rfl

namespace Binary64

variable {f g r : Binary64}

/-- The denominator of a number of the format is positive. -/
theorem ratio_snd_pos (f : Binary64) : 0 < f.ratio.2 := scaleBinary_snd_pos Nat.one_pos _ _

/-- So is the numerator, for a number of at least one. -/
theorem ratio_fst_pos (h : 1 ≤ f.value) : 0 < f.ratio.1 := by
  refine scaleBinary_fst_pos (Nat.pos_of_ne_zero fun hzero => ?_) _ _
  rw [value, hzero, Nat.cast_zero, zero_mul] at h
  exact absurd h (by norm_num)

/-- A product that is found is a number of the format. -/
theorem finite_of_mul? (h : f.mul? g = some r) : r.Finite :=
  finite_of_ofRatio? (Nat.mul_pos f.ratio_snd_pos g.ratio_snd_pos) h

/-- A quotient that is found is one too, if the divisor is not small. -/
theorem finite_of_div? (hg : 1 ≤ g.value) (h : f.div? g = some r) : r.Finite :=
  finite_of_ofRatio? (Nat.mul_pos f.ratio_snd_pos (ratio_fst_pos hg)) h

/-- A product below the limit has a result. -/
theorem exists_mul? (h : f.value * g.value < limit) : ∃ r, f.mul? g = some r := by
  refine exists_ofRatio? (Nat.mul_pos f.ratio_snd_pos g.ratio_snd_pos) ?_
  rwa [quotient_mul, quotient_ratio, quotient_ratio]

/-- To divide by a number that is not below one keeps within the format. -/
theorem exists_div? (hf : f.Finite) (hg : 1 ≤ g.value) : ∃ r, f.div? g = some r := by
  refine exists_ofRatio? (Nat.mul_pos f.ratio_snd_pos (ratio_fst_pos hg)) ?_
  rw [quotient_div, quotient_ratio, quotient_ratio]
  exact (div_le_self f.value_nonneg hg).trans_lt hf.value_lt

/-- What no decimal exceeds that reads back as a number of the format, but for the greatest. -/
def readLimit : Nat := (2 ^ 54 - 3) * 2 ^ 970

/-- The greatest number of up to seventeen digits whose product with a power of ten stays within
that. -/
def mostDigits (k : Nat) : Nat := min (Nat.pow 10 17) (readLimit / Nat.pow 10 k)

/-- Whether a power of ten is rounded to a number that is not below one, and its product with the
greatest number of digits, which is one of the format, stays below the limit. -/
def powerFits (k : Nat) : Bool :=
  match powerOfTen? k with
  | none => false
  | some p => p.ratio.2 ≤ p.ratio.1 && mostDigits k * p.ratio.1 < limit * p.ratio.2 &&
      (List.range 5).any fun n =>
        mostDigits k % Nat.pow 2 n = 0 && mostDigits k / Nat.pow 2 n < Nat.pow 2 53

/-- All powers of ten of the format fit. -/
theorem powerFits_of_lt : ∀ k < 309, powerFits k = true := by decide +kernel

/-- A power of ten as it is rounded. -/
structure Power (k : Nat) (p : Binary64) : Prop where
  /-- It is not below one. -/
  one_le : 1 ≤ p.value
  /-- Its product with the greatest number of digits stays below the limit. -/
  lt : mostDigits k * p.value < limit

/-- A number is compared to one by its numerator and its denominator. -/
theorem one_le_value_iff : 1 ≤ f.value ↔ f.ratio.2 ≤ f.ratio.1 := by
  have hpos : (0 : ℚ) < f.ratio.2 := by exact_mod_cast f.ratio_snd_pos
  rw [← quotient_ratio, quotient, one_le_div hpos]
  exact_mod_cast Iff.rfl

/-- So is a multiple of it to an integer. -/
theorem mul_value_lt_iff {n bound : Nat} :
    (n : ℚ) * f.value < bound ↔ n * f.ratio.1 < bound * f.ratio.2 := by
  have hpos : (0 : ℚ) < f.ratio.2 := by exact_mod_cast f.ratio_snd_pos
  rw [← quotient_ratio, quotient, mul_div_assoc', div_lt_iff₀ hpos]
  exact_mod_cast Iff.rfl

/-- Each power of ten of the format is rounded so, and the greatest number of digits is one of the
format. -/
theorem exists_power {k : Nat} (hk : k < 309) :
    (∃ p, powerOfTen? k = some p ∧ Power k p) ∧
      ∃ m n : Nat, m < 2 ^ 53 ∧ mostDigits k = m * 2 ^ n := by
  have hfits := powerFits_of_lt k hk
  rw [powerFits] at hfits
  cases hp : powerOfTen? k with
  | none =>
    rw [hp] at hfits
    cases hfits
  | some p =>
    rw [hp] at hfits
    simp only [Bool.and_eq_true, decide_eq_true_eq, List.any_eq_true] at hfits
    obtain ⟨⟨hone, hlt⟩, n, -, hmod, hm⟩ := hfits
    refine ⟨⟨p, rfl, one_le_value_iff.2 hone, mul_value_lt_iff.2 hlt⟩, _, n, hm, ?_⟩
    exact (Nat.div_mul_cancel (Nat.dvd_of_mod_eq_zero hmod)).symm

/-- Zero stays zero at every power of ten. -/
theorem ofDecimal?_of_zero (h : f.mantissa = 0) (power : Int) : f.ofDecimal? power = some f := by
  rw [ofDecimal?, if_pos h]

/-- A power of ten that the format has is multiplied with in one step. -/
theorem ofDecimal?_of_nonneg (h : f.mantissa ≠ 0) {k : Nat} (hk : k < 309) :
    f.ofDecimal? k = (powerOfTen? k).bind f.mul? := by
  rw [ofDecimal?, if_neg h, if_neg (by omega), if_pos (by omega), Int.toNat_natCast]
  rfl

/-- It is divided by in one step too. -/
theorem ofDecimal?_of_neg (h : f.mantissa ≠ 0) {k : Nat} (hpos : 0 < k) (hk : k < 309) :
    f.ofDecimal? (-(k : Int)) = (powerOfTen? k).bind f.div? := by
  rw [ofDecimal?, if_neg h, if_neg (by omega), if_neg (by omega), if_pos (by omega), neg_neg,
    Int.toNat_natCast]
  rfl

/-- A lower power is reached in steps of the greatest one that the format has. -/
theorem ofDecimal?_of_less (h : f.mantissa ≠ 0) {power : Int} (hpower : power < -308) :
    f.ofDecimal? power =
      ((powerOfTen? 308).bind f.div?).bind fun g => g.ofDecimal? (power + 308) := by
  rw [ofDecimal?, if_neg h, if_neg (by omega), if_neg (by omega), if_neg (by omega)]
  cases powerOfTen? 308 <;> rfl

/-- To divide by a power of ten keeps within the format. -/
theorem exists_div?_power (hf : f.Finite) {k : Nat} (hk : k < 309) :
    ∃ r, (powerOfTen? k).bind f.div? = some r ∧ r.Finite := by
  obtain ⟨⟨p, hp, hpower⟩, -⟩ := exists_power hk
  obtain ⟨r, hr⟩ := exists_div? hf hpower.one_le
  rw [hp, Option.bind_some]
  exact ⟨r, hr, finite_of_div? hpower.one_le hr⟩

/-- Whatever is read with a negative power of ten is in the format. Each step divides by 10^308
until the rest of the power is one of the format, so the induction is on the power. -/
theorem exists_ofDecimal?_neg (hf : f.Finite) {power : Int} (hpower : power < 0) :
    ∃ r, f.ofDecimal? power = some r ∧ r.Finite := by
  induction hn : (-power).toNat using Nat.strong_induction_on generalizing f power with
  | _ n ih =>
    by_cases hzero : f.mantissa = 0
    · exact ⟨f, ofDecimal?_of_zero hzero power, hf⟩
    by_cases hless : power < -308
    · obtain ⟨g, hdiv, hg⟩ := exists_div?_power hf (k := 308) (by norm_num)
      rw [ofDecimal?_of_less hzero hless, hdiv, Option.bind_some]
      exact ih _ (by omega) hg (by omega) rfl
    · obtain ⟨k, rfl⟩ : ∃ k : Nat, power = -(k : Int) := ⟨(-power).toNat, by omega⟩
      rw [ofDecimal?_of_neg hzero (by omega) (by omega)]
      exact exists_div?_power hf (by omega)

/-- So is whatever is read at all. -/
theorem finite_of_ofDecimal? (hf : f.Finite) {power : Int} (h : f.ofDecimal? power = some r) :
    r.Finite := by
  by_cases hneg : power < 0
  · obtain ⟨r', hr', hfinite⟩ := exists_ofDecimal?_neg hf hneg
    rwa [Option.some.inj (h.symm.trans hr')]
  by_cases hzero : f.mantissa = 0
  · rw [ofDecimal?_of_zero hzero] at h
    rwa [← Option.some.inj h]
  by_cases hgreat : 308 < power
  · rw [ofDecimal?, if_neg hzero, if_pos hgreat] at h
    cases h
  · obtain ⟨k, rfl⟩ : ∃ k : Nat, power = k := ⟨power.toNat, by omega⟩
    rw [ofDecimal?_of_nonneg hzero (by omega)] at h
    obtain ⟨p, -, hmul⟩ := Option.bind_eq_some_iff.1 h
    exact finite_of_mul? hmul

/-- The decimal that is written for the greatest number of the format. -/
theorem ofDecimal?_greatest (negative : Bool) :
    (ofRatio? negative 17976931348623157 1).bind (fun g => g.ofDecimal? 292) =
      some ⟨negative, 2 ^ 53 - 1, 971⟩ := by
  cases negative <;> decide +kernel

/-- A rounded number of digits is at most the greatest number of digits for a power of ten. -/
theorem value_le_mostDigits {negative : Bool} {d k : Nat} (hk : k < 309) (hd : d ≤ mostDigits k)
    (hf : ofRatio? negative d 1 = some f) : f.value ≤ mostDigits k := by
  obtain ⟨-, m, n, hm, hmost⟩ := exists_power hk
  have hcast : (mostDigits k : ℚ) = m * 2 ^ (n : Int) := by
    rw [hmost, zpow_natCast]
    push_cast
    rfl
  rw [hcast]
  refine value_le_of_ofRatio? Nat.one_pos hm (by omega) ?_ hf
  rw [← hcast, quotient, Nat.cast_one, div_one]
  exact_mod_cast hd

/-- A positive multiple of a power of ten is below another power of ten only if its exponent is
lower. -/
theorem lt_of_mul_pow_le {d k n bound : Nat} (hpos : 0 < d) (h : d * 10 ^ k ≤ bound)
    (hbound : bound < 10 ^ n) : k < n := by
  have hlt : 10 ^ k < 10 ^ n := ((Nat.le_mul_of_pos_left _ hpos).trans h).trans_lt hbound
  exact (Nat.pow_lt_pow_iff_right (by norm_num)).1 hlt

/-- A decimal of up to seventeen digits that does not exceed `readLimit`, or is that of the greatest
number, is read. -/
theorem exists_ofDecimal? (negative : Bool) {d : Nat} {power : Int} (hd : d ≤ 10 ^ 17)
    (h : 0 ≤ power → d * 10 ^ power.toNat ≤ readLimit ∨ d = 17976931348623157 ∧ power = 292) :
    ∃ g r, ofRatio? negative d 1 = some g ∧ g.ofDecimal? power = some r ∧ r.Finite := by
  have hlimit : quotient (d, 1) < limit := by
    have hgreat : 10 ^ 17 < limit := by decide +kernel
    rw [quotient, Nat.cast_one, div_one]
    exact_mod_cast hd.trans_lt hgreat
  obtain ⟨g, hg⟩ : ∃ g, ofRatio? negative d 1 = some g := exists_ofRatio? Nat.one_pos hlimit
  have hfinite := finite_of_ofRatio? Nat.one_pos hg
  by_cases hneg : power < 0
  · obtain ⟨r, hr, hread⟩ := exists_ofDecimal?_neg hfinite hneg
    exact ⟨g, r, hg, hr, hread⟩
  obtain ⟨k, rfl⟩ : ∃ k : Nat, power = k := ⟨power.toNat, by omega⟩
  by_cases hzero : g.mantissa = 0
  · exact ⟨g, g, hg, ofDecimal?_of_zero hzero k, hfinite⟩
  suffices hread : ∃ r, g.ofDecimal? k = some r by
    obtain ⟨r, hr⟩ := hread
    exact ⟨g, r, hg, hr, finite_of_ofDecimal? hfinite hr⟩
  rcases h (by omega) with hsmall | ⟨rfl, hk⟩
  · rw [Int.toNat_natCast] at hsmall
    have hpos : 0 < d := by
      refine Nat.pos_of_ne_zero fun hd => hzero ?_
      rw [hd] at hg
      rw [← Option.some.inj (ofRatio?_zero.symm.trans hg)]
    have hk : k < 309 := lt_of_mul_pow_le hpos hsmall (by decide +kernel)
    obtain ⟨⟨p, hp, hpower⟩, -⟩ := exists_power hk
    have hmost : d ≤ mostDigits k :=
      Nat.le_min.2 ⟨hd, (Nat.le_div_iff_mul_le (Nat.pow_pos (by norm_num))).2 hsmall⟩
    have hp0 : 0 ≤ p.value := p.value_nonneg
    rw [ofDecimal?_of_nonneg hzero hk, hp, Option.bind_some]
    exact exists_mul? ((mul_le_mul_of_nonneg_right (value_le_mostDigits hk hmost hg) hp0).trans_lt
      hpower.lt)
  · have hread := ofDecimal?_greatest negative
    rw [hg, Option.bind_some] at hread
    rw [hk]
    exact ⟨_, hread⟩

end Binary64

end GatewayConfig.Decimal
