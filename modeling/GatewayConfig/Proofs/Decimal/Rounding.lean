import GatewayConfig.Decimal.Binary64
import Mathlib.Algebra.Order.Field.Power
import Mathlib.Data.Rat.Cast.Order
import Mathlib.Tactic.Linarith
import Mathlib.Tactic.NormNum
import Mathlib.Tactic.Positivity
import Mathlib.Tactic.Ring

/-!
# Rounding to binary64

What is needed of the rounding is that it stays inside the format. Every result is finite, a value
below the middle between the greatest number of the format and the next power of two has a result,
and rounding does not pass a number of the format.
-/

namespace GatewayConfig.Decimal

/-- The rational number that a numerator and a denominator stand for. -/
def quotient (x : Nat × Nat) : ℚ := x.1 / x.2

/-- Every power of two is positive, whatever the sign of its exponent. -/
theorem two_zpow_pos (n : Int) : (0 : ℚ) < 2 ^ n := zpow_pos (by norm_num) n

/-- A power with an integer exponent is a quotient of two with natural ones, of which one is
trivial. -/
theorem zpow_toNat_sub (b : ℚ) (hb : b ≠ 0) (n : Int) :
    b ^ n.toNat / b ^ (-n).toNat = b ^ n := by
  rw [← zpow_natCast, ← zpow_natCast, ← zpow_sub₀ hb]
  congr 1
  omega

/-- Scaling multiplies the fraction by the power of two. -/
theorem quotient_scaleBinary (num den : Nat) (power : Int) :
    quotient (scaleBinary num den power) = quotient (num, den) * 2 ^ power := by
  rw [quotient, quotient, scaleBinary, ← zpow_toNat_sub 2 two_ne_zero power]
  push_cast [Nat.pow_eq]
  exact mul_div_mul_comm _ _ _ _

/-- A scaled denominator stays positive. -/
theorem scaleBinary_snd_pos {den : Nat} (h : 0 < den) (num : Nat) (power : Int) :
    0 < (scaleBinary num den power).2 := Nat.mul_pos h (Nat.pow_pos Nat.two_pos)

/-- So does a scaled numerator. -/
theorem scaleBinary_fst_pos {num : Nat} (h : 0 < num) (den : Nat) (power : Int) :
    0 < (scaleBinary num den power).1 := Nat.mul_pos h (Nat.pow_pos Nat.two_pos)

/-- A fraction is compared to an integer from below without division. -/
theorem quotient_le_iff {num den bound : Nat} (hden : 0 < den) :
    quotient (num, den) ≤ bound ↔ num ≤ bound * den := by
  have hpos : (0 : ℚ) < den := by exact_mod_cast hden
  rw [quotient, div_le_iff₀ hpos]
  exact_mod_cast Iff.rfl

/-- From above it is compared by the integer part. -/
theorem le_quotient_iff {num den bound : Nat} (hden : 0 < den) :
    (bound : ℚ) ≤ quotient (num, den) ↔ bound ≤ num / den := by
  have hpos : (0 : ℚ) < den := by exact_mod_cast hden
  rw [quotient, le_div_iff₀ hpos, Nat.le_div_iff_mul_le hden]
  exact_mod_cast Iff.rfl

/-- The nearest integer is at most any integer that is not exceeded. Where the quotient is that
integer nothing is left to round. -/
theorem roundDiv_le {num den bound : Nat} (hden : 0 < den) (h : quotient (num, den) ≤ bound) :
    roundDiv num den ≤ bound := by
  have hnum := (quotient_le_iff hden).1 h
  have hsplit := Nat.div_add_mod num den
  have hle : num / den ≤ bound := by
    rw [Nat.div_le_iff_le_mul_add_pred hden, Nat.mul_comm]
    omega
  rcases Nat.lt_or_eq_of_le hle with hlt | heq
  · rw [roundDiv]
    split <;> omega
  · have hrest : num % den = 0 := by
      rw [heq, Nat.mul_comm] at hsplit
      omega
    rw [roundDiv, hrest, if_neg (by omega), heq]

/-- It is less than any integer that lies more than a half above. Where the quotient is one less,
what is left is less than a half. -/
theorem roundDiv_lt {num den bound : Nat} (hden : 0 < den)
    (h : quotient (num, den) < bound - 1 / 2) : roundDiv num den < bound := by
  have hpos : (0 : ℚ) < den := by exact_mod_cast hden
  have hnum : 2 * num + den < 2 * (bound * den) := by
    rw [quotient, div_lt_iff₀ hpos] at h
    have hcast : (2 * num + den : ℚ) < 2 * (bound * den) := by linarith
    exact_mod_cast hcast
  have hsplit := Nat.div_add_mod num den
  have hlt : num / den < bound := by
    rw [Nat.div_lt_iff_lt_mul hden]
    omega
  rcases Nat.lt_or_eq_of_le (Nat.succ_le_of_lt hlt) with hless | heq
  · rw [roundDiv]
    split <;> omega
  · have hrest : 2 * (num % den) < den := by
      have hbound : bound * den = den * (num / den) + den := by
        rw [← heq, Nat.succ_mul, Nat.mul_comm]
      omega
    rw [roundDiv, if_neg (by omega)]
    exact hlt

/-- The logarithm of a quotient is that of the numerator less that of the denominator, or one less
than that. -/
theorem quotient_log {num den : Nat} (hnum : 0 < num) (hden : 0 < den) :
    (2 : ℚ) ^ ((Nat.log2 num : Int) - Nat.log2 den - 1) < quotient (num, den) ∧
      quotient (num, den) < 2 ^ ((Nat.log2 num : Int) - Nat.log2 den + 1) := by
  have hpos : (0 : ℚ) < den := by exact_mod_cast hden
  have hnumlow : (2 : ℚ) ^ (Nat.log2 num : Int) ≤ num := by
    rw [zpow_natCast]
    exact_mod_cast Nat.log2_self_le hnum.ne'
  have hnumhigh : (num : ℚ) < 2 ^ ((Nat.log2 num : Int) + 1) := by
    have := Nat.lt_log2_self (n := num)
    exact_mod_cast this
  have hdenlow : (2 : ℚ) ^ (Nat.log2 den : Int) ≤ den := by
    rw [zpow_natCast]
    exact_mod_cast Nat.log2_self_le hden.ne'
  have hdenhigh : (den : ℚ) < 2 ^ ((Nat.log2 den : Int) + 1) := by
    have := Nat.lt_log2_self (n := den)
    exact_mod_cast this
  constructor
  · rw [quotient, lt_div_iff₀ hpos]
    calc (2 : ℚ) ^ ((Nat.log2 num : Int) - Nat.log2 den - 1) * den
        < 2 ^ ((Nat.log2 num : Int) - Nat.log2 den - 1) * 2 ^ ((Nat.log2 den : Int) + 1) :=
          mul_lt_mul_of_pos_left hdenhigh (two_zpow_pos _)
      _ = 2 ^ (Nat.log2 num : Int) := by
          rw [← zpow_add₀ two_ne_zero]
          congr 1
          ring
      _ ≤ num := hnumlow
  · rw [quotient, div_lt_iff₀ hpos]
    calc (num : ℚ) < 2 ^ ((Nat.log2 num : Int) + 1) := hnumhigh
      _ = 2 ^ ((Nat.log2 num : Int) - Nat.log2 den + 1) * 2 ^ (Nat.log2 den : Int) := by
          rw [← zpow_add₀ two_ne_zero]
          congr 1
          ring
      _ ≤ 2 ^ ((Nat.log2 num : Int) - Nat.log2 den + 1) * den :=
          mul_le_mul_of_nonneg_left hdenlow (two_zpow_pos _).le

namespace Binary64

/-- The absolute value of a number. -/
def value (f : Binary64) : ℚ := f.mantissa * 2 ^ f.exponent

/-- A number of the format is the fraction of its numerator and its denominator. -/
theorem quotient_ratio (f : Binary64) : quotient f.ratio = f.value := by
  rw [ratio, quotient_scaleBinary, quotient, value, Nat.cast_one, div_one]

/-- The value leaves the sign out. -/
theorem value_nonneg (f : Binary64) : 0 ≤ f.value :=
  mul_nonneg (Nat.cast_nonneg _) (two_zpow_pos _).le

/-- A number that the format holds. -/
structure Finite (f : Binary64) : Prop where
  /-- The mantissa has 53 bits. -/
  mantissa : f.mantissa < 2 ^ 53
  /-- The exponent is not too great. -/
  exponent : f.exponent ≤ 971

/-- The middle between the greatest number of the format and the next power of two. -/
def limit : Nat := (2 ^ 54 - 1) * 2 ^ 970

/-- A product with a power of two is the same among the fractions. -/
theorem cast_mul_pow (m n : Nat) : ((m * 2 ^ n : Nat) : ℚ) = m * 2 ^ (n : Int) := by
  rw [Nat.cast_mul, Nat.cast_pow, Nat.cast_ofNat, zpow_natCast]

/-- The limit of the format, from which on numbers are not read, as a multiple of a power of two. -/
theorem limit_eq : (limit : ℚ) = (2 ^ 54 - 1) * 2 ^ (970 : Int) := by
  have hcast : ((2 ^ 54 - 1 : Nat) : ℚ) = 2 ^ 54 - 1 := by norm_num
  rw [← hcast]
  exact cast_mul_pow (2 ^ 54 - 1) 970

/-- Every number of the format is below the limit. -/
theorem Finite.value_lt {f : Binary64} (h : f.Finite) : f.value < limit := by
  have hmantissa : (f.mantissa : ℚ) ≤ 2 ^ 53 - 1 := by
    have hle : f.mantissa + 1 ≤ 2 ^ 53 := h.mantissa
    have hcast : (f.mantissa + 1 : ℚ) ≤ 2 ^ 53 := by exact_mod_cast hle
    linarith
  have hexponent : (2 : ℚ) ^ f.exponent ≤ 2 ^ (971 : Int) :=
    zpow_le_zpow_right₀ one_le_two h.exponent
  calc f.value ≤ (2 ^ 53 - 1) * 2 ^ (971 : Int) :=
        mul_le_mul hmantissa hexponent (two_zpow_pos _).le (by norm_num)
    _ = (2 ^ 54 - 2) * 2 ^ (970 : Int) := by
        rw [show (971 : Int) = 1 + 970 by rfl, zpow_add₀ two_ne_zero]
        ring
    _ < (2 ^ 54 - 1) * 2 ^ (970 : Int) := mul_lt_mul_of_pos_right (by norm_num) (two_zpow_pos _)
    _ = limit := limit_eq.symm

/-- An exponent at which a quotient has 53 bits, or fewer if the exponent is the least. -/
structure Scaled (num den : Nat) (e : Int) : Prop where
  /-- There are no more bits. -/
  lt : quotient (num, den) < 2 ^ (e + 53)
  /-- There are no fewer, unless the exponent is the least. -/
  le : -1074 < e → 2 ^ (e + 52) ≤ quotient (num, den)
  /-- The exponent is one of the format. -/
  least : -1074 ≤ e

/-- A scaled quotient has more than 53 bits exactly when the quotient reaches the power of two that
is so much higher. -/
theorem two_pow_le_scaled_iff (num : Nat) {den : Nat} (hden : 0 < den) (e : Int) :
    2 ^ 53 ≤ (scaleBinary num den (-e)).1 / (scaleBinary num den (-e)).2 ↔
      (2 : ℚ) ^ (e + 53) ≤ quotient (num, den) := by
  have htest : ((2 ^ 53 : Nat) : ℚ) ≤ quotient (scaleBinary num den (-e)) ↔
      2 ^ 53 ≤ (scaleBinary num den (-e)).1 / (scaleBinary num den (-e)).2 :=
    le_quotient_iff (scaleBinary_snd_pos hden num (-e))
  have hsplit : (2 : ℚ) ^ (e + 53) = 2 ^ e * 2 ^ 53 := by
    rw [zpow_add₀ two_ne_zero]
    rfl
  rw [← htest, quotient_scaleBinary, zpow_neg, ← div_eq_mul_inv, le_div_iff₀ (two_zpow_pos e),
    Nat.cast_pow, Nat.cast_ofNat, mul_comm, ← hsplit]

/-- The exponent of a fraction is the one at which its mantissa has 53 bits, or the least one of the
format. The first guess by the lengths of the two numbers is off by one at most, and before the
least exponent is imposed there are exactly 53 bits. -/
theorem exponentFor_spec {num den : Nat} (hnum : 0 < num) (hden : 0 < den) :
    Scaled num den (exponentFor num den) := by
  obtain ⟨hlow, hhigh⟩ := quotient_log hnum hden
  let e : Int := Nat.log2 num - Nat.log2 den - 53
  have htest := two_pow_le_scaled_iff num hden e
  have hexponent : exponentFor num den = max (-1074)
      (if 2 ^ 53 ≤ (scaleBinary num den (-e)).1 / (scaleBinary num den (-e)).2 then e + 1
        else e) := rfl
  have hexact : ∀ e', e' = (if 2 ^ 53 ≤ (scaleBinary num den (-e)).1 / (scaleBinary num den (-e)).2
      then e + 1 else e) →
      quotient (num, den) < 2 ^ (e' + 53) ∧ 2 ^ (e' + 52) ≤ quotient (num, den) := by
    rintro e' rfl
    split
    next hbits =>
      refine ⟨?_, ?_⟩
      · rwa [show e + 1 + 53 = (Nat.log2 num : Int) - Nat.log2 den + 1 by omega]
      · rw [show e + 1 + 52 = e + 53 by ring]
        exact htest.1 hbits
    next hbits =>
      refine ⟨lt_of_not_ge fun h => hbits (htest.2 h), ?_⟩
      rw [show e + 52 = (Nat.log2 num : Int) - Nat.log2 den - 1 by omega]
      exact hlow.le
  generalize (if 2 ^ 53 ≤ (scaleBinary num den (-e)).1 / (scaleBinary num den (-e)).2 then e + 1
    else e) = e' at hexponent hexact
  obtain ⟨hlt, hle⟩ := hexact e' rfl
  rw [hexponent]
  constructor
  case lt => exact hlt.trans_le (zpow_le_zpow_right₀ one_le_two (by omega))
  case le =>
    intro hleast
    rwa [max_eq_right (by omega)]
  case least => exact le_max_left _ _

/-- A quotient without its exponent, rounded to an integer. -/
def mantissaFor (num den : Nat) : Nat :=
  let scaled := scaleBinary num den (-exponentFor num den)
  roundDiv scaled.1 scaled.2

section Ratio

variable {negative : Bool} {num den : Nat} {f : Binary64}

/-- The fraction that is rounded to the mantissa is the quotient in units of its exponent. -/
theorem quotient_scaled (num den : Nat) :
    quotient (scaleBinary num den (-exponentFor num den)) =
      quotient (num, den) / 2 ^ exponentFor num den := by
  rw [quotient_scaleBinary, zpow_neg, div_eq_mul_inv]

/-- A fraction up to an integer multiple of its unit is rounded to at most that. -/
theorem mantissaFor_le {bound : Nat} (hden : 0 < den)
    (h : quotient (num, den) ≤ bound * 2 ^ exponentFor num den) : mantissaFor num den ≤ bound := by
  refine roundDiv_le (scaleBinary_snd_pos hden _ _) ?_
  rwa [Prod.mk.eta, quotient_scaled, div_le_iff₀ (two_zpow_pos _)]

/-- Below the middle of two multiples it is rounded to less than the upper one. -/
theorem mantissaFor_lt {bound : Nat} (hden : 0 < den)
    (h : quotient (num, den) < (bound - 1 / 2) * 2 ^ exponentFor num den) :
    mantissaFor num den < bound := by
  refine roundDiv_lt (scaleBinary_snd_pos hden _ _) ?_
  rwa [Prod.mk.eta, quotient_scaled, div_lt_iff₀ (two_zpow_pos _)]

/-- Rounding adds no bit, or makes a power of two. -/
theorem mantissaFor_le_pow (hnum : 0 < num) (hden : 0 < den) : mantissaFor num den ≤ 2 ^ 53 := by
  have hlt := (exponentFor_spec hnum hden).lt
  rw [zpow_add₀ two_ne_zero, mul_comm] at hlt
  refine mantissaFor_le hden ?_
  rw [Nat.cast_pow, Nat.cast_ofNat]
  exact hlt.le

/-- A mantissa of 53 bits is taken with its exponent, unless the exponent is too great. -/
theorem ofRatio?_of_lt (hnum : 0 < num) (h : mantissaFor num den < 2 ^ 53) :
    ofRatio? negative num den = if 971 < exponentFor num den then none
      else some ⟨negative, mantissaFor num den, exponentFor num den⟩ := by
  have hne : mantissaFor num den ≠ Nat.pow 2 53 := h.ne
  rw [ofRatio?, if_neg hnum.ne']
  simp only [mantissaFor] at hne ⊢
  rw [if_neg hne]

/-- A mantissa that is rounded up to 54 bits is half of that with the next exponent. -/
theorem ofRatio?_of_eq (hnum : 0 < num) (h : mantissaFor num den = 2 ^ 53) :
    ofRatio? negative num den = if 971 < exponentFor num den + 1 then none
      else some ⟨negative, 2 ^ 52, exponentFor num den + 1⟩ := by
  have heq : mantissaFor num den = Nat.pow 2 53 := h
  rw [ofRatio?, if_neg hnum.ne']
  simp only [mantissaFor] at heq ⊢
  rw [if_pos heq]
  rfl

/-- Zero has the least exponent. -/
theorem ofRatio?_zero : ofRatio? negative 0 den = some ⟨negative, 0, -1074⟩ := by
  rw [ofRatio?, if_pos rfl]

/-- A number that is the result of rounding is in the format, and its value is the rounded
mantissa at the exponent of the quotient. -/
theorem of_ofRatio? (hnum : 0 < num) (hden : 0 < den) (h : ofRatio? negative num den = some f) :
    f.Finite ∧ f.value = mantissaFor num den * 2 ^ exponentFor num den := by
  rcases Nat.lt_or_eq_of_le (mantissaFor_le_pow hnum hden) with hlt | heq
  · rw [ofRatio?_of_lt hnum hlt] at h
    split at h
    · cases h
    next hexponent =>
      obtain rfl := Option.some.inj h
      exact ⟨⟨hlt, not_lt.1 hexponent⟩, rfl⟩
  · rw [ofRatio?_of_eq hnum heq] at h
    split at h
    · cases h
    next hexponent =>
      obtain rfl := Option.some.inj h
      refine ⟨⟨by norm_num, not_lt.1 hexponent⟩, ?_⟩
      rw [heq, value, zpow_add_one₀ two_ne_zero]
      push_cast
      ring

/-- A fraction that is rounded is rounded to a number of the format. -/
theorem finite_of_ofRatio? (hden : 0 < den) (h : ofRatio? negative num den = some f) :
    f.Finite := by
  rcases Nat.eq_zero_or_pos num with rfl | hnum
  · obtain rfl := Option.some.inj (ofRatio?_zero.symm.trans h)
    exact ⟨by norm_num, by norm_num⟩
  · exact (of_ofRatio? hnum hden h).1

/-- A quotient below the limit has a result. At the greatest exponent it is not rounded up to a
power of two. -/
theorem exists_ofRatio? (hden : 0 < den) (h : quotient (num, den) < limit) :
    ∃ f, ofRatio? negative num den = some f := by
  rcases Nat.eq_zero_or_pos num with rfl | hnum
  · exact ⟨_, ofRatio?_zero⟩
  have hscaled := exponentFor_spec hnum hden
  rw [limit_eq] at h
  have hexponent : exponentFor num den ≤ 971 := by
    by_contra hgreat
    have hlow := hscaled.le (by omega)
    have hpower : (2 : ℚ) ^ (1024 : Int) ≤ 2 ^ (exponentFor num den + 52) :=
      zpow_le_zpow_right₀ one_le_two (by omega)
    have hlimit : ((2 : ℚ) ^ 54 - 1) * 2 ^ (970 : Int) < 2 ^ 54 * 2 ^ (970 : Int) :=
      mul_lt_mul_of_pos_right (by norm_num) (two_zpow_pos _)
    have hsplit : (2 : ℚ) ^ 54 * 2 ^ (970 : Int) = 2 ^ (1024 : Int) := by
      rw [show (1024 : Int) = 54 + 970 by rfl, zpow_add₀ two_ne_zero]
      rfl
    exact lt_irrefl _ (h.trans (hlimit.trans_le (hsplit.le.trans (hpower.trans hlow))))
  rcases Nat.lt_or_eq_of_le (mantissaFor_le_pow hnum hden) with hlt | heq
  · rw [ofRatio?_of_lt hnum hlt, if_neg (by omega)]
    exact ⟨_, rfl⟩
  · rw [ofRatio?_of_eq hnum heq]
    split
    next hgreat =>
      have hmost : exponentFor num den = 971 := by omega
      refine absurd heq (mantissaFor_lt hden ?_).ne
      rw [hmost, show (971 : Int) = 1 + 970 by rfl, zpow_add₀ two_ne_zero, Nat.cast_pow,
        Nat.cast_ofNat]
      refine h.trans_eq ?_
      ring
    · exact ⟨_, rfl⟩

/-- Rounding does not pass a number of the format, which at the exponent of the quotient is an
integer. -/
theorem value_le_of_ofRatio? {bound : Nat} {e : Int} (hden : 0 < den) (hbound : bound < 2 ^ 53)
    (he : -1074 ≤ e) (h : quotient (num, den) ≤ bound * 2 ^ e)
    (hf : ofRatio? negative num den = some f) : f.value ≤ bound * 2 ^ e := by
  rcases Nat.eq_zero_or_pos num with rfl | hnum
  · obtain rfl := Option.some.inj (ofRatio?_zero.symm.trans hf)
    rw [value, Nat.cast_zero, zero_mul]
    positivity
  have hscaled := exponentFor_spec hnum hden
  have hle : exponentFor num den ≤ e := by
    by_contra hgreat
    have hlow := hscaled.le (by omega)
    have hcast : (bound : ℚ) < 2 ^ (53 : Int) := by exact_mod_cast hbound
    have hlt : (bound : ℚ) * 2 ^ e < 2 ^ (53 : Int) * 2 ^ e :=
      mul_lt_mul_of_pos_right hcast (two_zpow_pos e)
    have hpower : (2 : ℚ) ^ (53 : Int) * 2 ^ e ≤ 2 ^ (exponentFor num den + 52) := by
      rw [← zpow_add₀ two_ne_zero]
      exact zpow_le_zpow_right₀ one_le_two (by omega)
    linarith
  have hsplit : (bound : ℚ) * 2 ^ e = ((bound * 2 ^ (e - exponentFor num den).toNat : Nat) : ℚ) *
      2 ^ exponentFor num den := by
    have hpower : (2 : ℚ) ^ e =
        2 ^ (e - exponentFor num den).toNat * 2 ^ exponentFor num den := by
      rw [← zpow_natCast, ← zpow_add₀ two_ne_zero]
      congr 1
      omega
    rw [hpower]
    push_cast
    ring
  rw [hsplit] at h ⊢
  rw [(of_ofRatio? hnum hden hf).2]
  have hmantissa : (mantissaFor num den : ℚ) ≤
      (bound * 2 ^ (e - exponentFor num den).toNat : Nat) := by
    exact_mod_cast mantissaFor_le hden h
  exact mul_le_mul_of_nonneg_right hmantissa (two_zpow_pos _).le

end Ratio

end Binary64

end GatewayConfig.Decimal
