import GatewayConfig.Telemetry.Retry
import Mathlib.Tactic.Ring

/-!
# Exact delays

A duration is a number of nanoseconds in two fields. A multiple is formed field by field with a
carry, and it is the exact product nevertheless, cut off at the longest duration (`toNanos_mul`).
The factors are the powers of two, cut off at 32 bits (`toNat_factor`). `delay_exact` puts the two
limits together.
-/

namespace GatewayConfig.Telemetry

namespace Duration

/-- The longest duration is one nanosecond short of 2^64 seconds. -/
theorem toNanos_longest : longest.toNanos = 18446744073709551615 * 1000000000 + 999999999 := by
  decide

/-- No duration is longer than the longest one. -/
theorem toNanos_le_longest (d : Duration) : d.toNanos ≤ longest.toNanos := by
  have hseconds : d.seconds.toNat < 18446744073709551616 := d.seconds.toNat_lt
  have hnanos := d.nanos_lt
  rw [toNanos_longest, toNanos]
  omega

/-- Nanoseconds carried into the seconds count as before. -/
theorem carry_eq (seconds nanos factor : Nat) :
    (seconds * factor + nanos * factor / 1000000000) * 1000000000 +
        nanos * factor % 1000000000 =
      (seconds * 1000000000 + nanos) * factor := by
  have hcarry : nanos * factor / 1000000000 * 1000000000 + nanos * factor % 1000000000 =
      nanos * factor := Nat.div_add_mod' _ _
  calc (seconds * factor + nanos * factor / 1000000000) * 1000000000 +
        nanos * factor % 1000000000
      = seconds * factor * 1000000000 + (nanos * factor / 1000000000 * 1000000000 +
          nanos * factor % 1000000000) := by ring
    _ = seconds * factor * 1000000000 + nanos * factor := by rw [hcarry]
    _ = (seconds * 1000000000 + nanos) * factor := by ring

/-- A multiple is the exact product, or the longest duration if the product is longer. Where it is
not, both fields hold what is put into them and make up the product. -/
theorem toNanos_mul (d : Duration) (factor : UInt32) :
    (d.mul factor).toNanos = min (d.toNanos * factor.toNat) longest.toNanos := by
  have hcarry := carry_eq d.seconds.toNat d.nanos.toNat factor.toNat
  have hrest : d.nanos.toNat * factor.toNat % 1000000000 < 1000000000 := Nat.mod_lt _ (by decide)
  have hle := toNanos_le_longest (d.mul factor)
  rw [mul] at hle ⊢
  split at hle
  next hfits =>
    have hseconds : d.seconds.toNat * factor.toNat + d.nanos.toNat * factor.toNat / 1000000000 <
        2 ^ 64 := hfits
    rw [if_pos hfits]
    simp only [toNanos, UInt64.toNat_ofNat', UInt32.toNat_ofNat'] at hle ⊢
    rw [Nat.mod_eq_of_lt hseconds, Nat.mod_eq_of_lt (by omega), hcarry] at hle ⊢
    exact (Nat.min_eq_left hle).symm
  next hlong =>
    have hseconds : 2 ^ 64 ≤ d.seconds.toNat * factor.toNat +
        d.nanos.toNat * factor.toNat / 1000000000 := Nat.le_of_not_lt hlong
    rw [if_neg hlong, Nat.min_eq_right]
    rw [toNanos_longest, toNanos, ← hcarry]
    omega

end Duration

namespace RetryPolicy

/-- A factor is a power of two, or the greatest number of 32 bits if the power is greater. -/
theorem toNat_factor (attempt : Nat) : (factor attempt).toNat = min (2 ^ attempt) (2 ^ 32 - 1) := by
  rw [factor]
  split
  next hsmall =>
    have hpower : 2 ^ attempt < 2 ^ 32 := Nat.pow_lt_pow_right (by decide) hsmall
    have hword : Nat.pow 2 attempt % 2 ^ 32 = 2 ^ attempt := Nat.mod_eq_of_lt hpower
    rw [UInt32.toNat_ofNat', hword, Nat.min_eq_left (Nat.le_sub_one_of_lt hpower)]
  next hlarge =>
    have hpower : 2 ^ 32 ≤ 2 ^ attempt :=
      Nat.pow_le_pow_right (by decide) (Nat.le_of_not_lt hlarge)
    rw [Nat.min_eq_right ((Nat.sub_le _ _).trans hpower)]
    rfl

/-- Up to the last power that fits, one attempt more doubles the factor. -/
theorem toNat_factor_succ {attempt : Nat} (h : attempt < 31) :
    (factor (attempt + 1)).toNat = 2 * (factor attempt).toNat := by
  have hpower : 2 ^ (attempt + 1) ≤ 2 ^ 31 := Nat.pow_le_pow_right (by decide) h
  rw [toNat_factor, toNat_factor]
  rw [pow_succ] at hpower ⊢
  omega

/-- The factor of a delay never falls from one attempt to a later one. -/
theorem toNat_factor_le {attempt later : Nat} (h : attempt ≤ later) :
    (factor attempt).toNat ≤ (factor later).toNat := by
  rw [toNat_factor, toNat_factor]
  exact min_le_min_right _ (Nat.pow_le_pow_right (by decide) h)

/-- A delay is the base times the factor, capped by the longest duration. -/
theorem toNanos_delay (p : RetryPolicy) (attempt : Nat) :
    (p.delay attempt).toNanos =
      min (p.baseDelay.toNanos * (factor attempt).toNat) Duration.longest.toNanos :=
  Duration.toNanos_mul p.baseDelay (factor attempt)

/-- A delay is exact: it has the nanoseconds of the base delay times a power of two that is cut off
at 32 bits, in all at most those of the longest duration, and less than a second of them stands in
the second field. So a later attempt or a longer base delay never makes it shorter, and up to
attempt 31 each attempt doubles it until it is the longest one. -/
theorem delay_exact (p : RetryPolicy) (attempt : Nat) :
    (p.delay attempt).toNanos =
        min (p.baseDelay.toNanos * min (2 ^ attempt) (2 ^ 32 - 1)) Duration.longest.toNanos ∧
      (p.delay attempt).nanos.toNat < 10 ^ 9 ∧
      (∀ d : Duration, d.toNanos ≤ Duration.longest.toNanos) ∧
      (∀ later, attempt ≤ later → (p.delay attempt).toNanos ≤ (p.delay later).toNanos) ∧
      (∀ q : RetryPolicy, p.baseDelay.toNanos ≤ q.baseDelay.toNanos →
        (p.delay attempt).toNanos ≤ (q.delay attempt).toNanos) ∧
      (attempt < 31 → (p.delay (attempt + 1)).toNanos =
        min (2 * (p.delay attempt).toNanos) Duration.longest.toNanos) := by
  refine ⟨?_, (p.delay attempt).nanos_lt, Duration.toNanos_le_longest, fun later h => ?_,
    fun q h => ?_, fun h => ?_⟩
  · rw [toNanos_delay, toNat_factor]
  · rw [toNanos_delay, toNanos_delay]
    exact min_le_min_right _ (Nat.mul_le_mul_left _ (toNat_factor_le h))
  · rw [toNanos_delay, toNanos_delay]
    exact min_le_min_right _ (Nat.mul_le_mul_right _ h)
  · rw [toNanos_delay, toNanos_delay, toNat_factor_succ h, Nat.mul_left_comm]
    omega

/-- The factor of attempt 32 is not the double of the one before. -/
example : (factor 30, factor 31, factor 32, factor 33) =
    (1073741824, 2147483648, 4294967295, 4294967295) := by decide

/-- A policy that reaches the longest duration at attempt 31. -/
def nearLimit : RetryPolicy where
  baseDelay := ⟨8589934592, 999999998, by decide⟩

/-- Its delay is doubled from attempt 29 to attempt 30, and cut off at attempt 31 and behind it. -/
theorem delay_exact_nearLimit :
    (nearLimit.delay 30).toNanos = 8589934592999999998 * 2 ^ 30 ∧
      (nearLimit.delay 30).toNanos = 2 * (nearLimit.delay 29).toNanos ∧
      (nearLimit.delay 31).toNanos = Duration.longest.toNanos ∧
      ∀ later, 31 ≤ later → (nearLimit.delay later).toNanos = Duration.longest.toNanos := by
  obtain ⟨hexact, -, -, -, -, -⟩ := delay_exact nearLimit 30
  obtain ⟨-, -, -, -, -, hdouble⟩ := delay_exact nearLimit 29
  obtain ⟨hlimit, -, hlongest, hlater, -, -⟩ := delay_exact nearLimit 31
  have hthere : (nearLimit.delay 31).toNanos = Duration.longest.toNanos := by
    rw [hlimit]
    decide
  refine ⟨?_, ?_, hthere, fun later h => ?_⟩
  · rw [hexact]
    decide
  · rw [hdouble (by decide)]
    decide
  · exact Nat.le_antisymm (hlongest _) (hthere.ge.trans (hlater later h))

end RetryPolicy

end GatewayConfig.Telemetry
