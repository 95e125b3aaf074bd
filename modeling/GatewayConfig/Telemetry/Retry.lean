/-!
# Backoff

How long to wait before a call is tried again. The wait doubles with every attempt. Durations
count seconds in 64 bits and nanoseconds below one second, and a product that does not fit is the
longest duration.
-/

namespace GatewayConfig.Telemetry

/-- A span of time. -/
structure Duration where
  /-- Whole seconds. -/
  seconds : UInt64
  /-- Nanoseconds of the last second. -/
  nanos : UInt32
  /-- They make up less than a second. -/
  nanos_lt : nanos.toNat < 1000000000
  deriving DecidableEq

namespace Duration

/-- The longest duration. -/
def longest : Duration := ⟨18446744073709551615, 999999999, by decide⟩

/-- The number of nanoseconds. -/
def toNanos (d : Duration) : Nat := d.seconds.toNat * 1000000000 + d.nanos.toNat

/-- A remainder of nanoseconds is less than a second. -/
theorem nanos_ofNat_lt (n : Nat) : (UInt32.ofNat (n % 1000000000)).toNat < 1000000000 := by
  have h : n % 1000000000 < 1000000000 := Nat.mod_lt _ (by decide)
  rw [UInt32.toNat_ofNat', Nat.mod_eq_of_lt (by omega)]
  exact h

/-- The duration of a number of nanoseconds, or the longest one. -/
def ofNanos (n : Nat) : Duration :=
  if n / 1000000000 < Nat.pow 2 64 then
    ⟨UInt64.ofNat (n / 1000000000), UInt32.ofNat (n % 1000000000), nanos_ofNat_lt n⟩
  else longest

/-- The duration of a number of milliseconds. -/
def ofMillis (n : Nat) : Duration := ofNanos (n * 1000000)

/-- A multiple of a duration. The nanoseconds carry into the seconds. -/
def mul (d : Duration) (factor : UInt32) : Duration :=
  let nanos := d.nanos.toNat * factor.toNat
  let seconds := d.seconds.toNat * factor.toNat + nanos / 1000000000
  if seconds < Nat.pow 2 64 then
    ⟨UInt64.ofNat seconds, UInt32.ofNat (nanos % 1000000000), nanos_ofNat_lt nanos⟩
  else longest

end Duration

/-- How often a call is tried again, and after what wait. -/
structure RetryPolicy where
  /-- Attempts after the first one. -/
  maxRetries : Nat := 3
  /-- The wait after the first attempt. -/
  baseDelay : Duration := .ofMillis 200
  deriving DecidableEq

namespace RetryPolicy

/-- Two to the given power, or the greatest number of 32 bits. -/
def factor (attempt : Nat) : UInt32 :=
  if attempt < 32 then UInt32.ofNat (Nat.pow 2 attempt) else 4294967295

/-- The wait after an attempt; attempts are counted from zero. -/
def delay (p : RetryPolicy) (attempt : Nat) : Duration := p.baseDelay.mul (factor attempt)

end RetryPolicy

end GatewayConfig.Telemetry
