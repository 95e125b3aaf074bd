import GatewayConfig.Mac
import Mathlib.Tactic.Ring
import Mathlib.Tactic.NormNum

/-!
# Addresses as numbers

Twelve hexadecimal digits hold every number below 2^48, and of a greater one what is left modulo
2^48. So `value_offset` says that the address at a distance is found by addition modulo 2^48.
-/

namespace GatewayConfig.Mac

/-- A digit has the value that it was written for. -/
theorem hexValue?_upperHexDigit (d : Fin 16) :
    Bytes.hexValue? (upperHexDigit d) = some d.val := by
  revert d
  decide

/-- Digits behind others count as if they stood alone. -/
theorem foldl_hexValue (digits : List Char) (n : Nat) :
    digits.foldl (fun n c => 16 * n + (Bytes.hexValue? c).getD 0) n =
      n * 16 ^ digits.length + hexValue digits := by
  induction digits generalizing n with
  | nil => simp [hexValue]
  | cons c digits ih =>
    have hfirst : hexValue (c :: digits) =
        digits.foldl (fun n c => 16 * n + (Bytes.hexValue? c).getD 0)
          (16 * 0 + (Bytes.hexValue? c).getD 0) := rfl
    rw [List.foldl_cons, ih, hfirst, ih, List.length_cons]
    ring

/-- A first digit counts with the place value of those behind it. -/
theorem hexValue_cons (c : Char) (digits : List Char) :
    hexValue (c :: digits) =
      (Bytes.hexValue? c).getD 0 * 16 ^ digits.length + hexValue digits := by
  rw [hexValue, List.foldl_cons, foldl_hexValue, Nat.mul_zero, Nat.zero_add]

/-- The lowest digits of a number denote what is left of it. -/
theorem hexValue_lowest (n count : Nat) :
    hexValue ((List.range count).reverse.map
      fun i => upperHexDigit (Fin.ofNat 16 (n / Nat.pow 16 i))) = n % 16 ^ count := by
  induction count with
  | zero => simp [hexValue, Nat.mod_one]
  | succ count ih =>
    have hpower : Nat.pow 16 count = 16 ^ count := rfl
    rw [List.range_succ, List.reverse_append, List.reverse_singleton, List.singleton_append,
      List.map_cons, hexValue_cons, ih, hexValue?_upperHexDigit, List.length_map,
      List.length_reverse, List.length_range, Nat.mod_pow_succ, hpower]
    simp only [Fin.ofNat, Option.getD_some]
    ring

/-- An address denotes the number it was made of, modulo 2^48. -/
theorem value_ofValue (n : Nat) : (ofValue n).value = n % 2 ^ 48 := by
  rw [value, ofValue, String.toList_ofList, digits, hexValue_lowest]
  norm_num

/-- A distance is added modulo 2^48. -/
theorem value_offset (m : Mac) (delta : UInt64) :
    (m.offset delta).value = (m.value + delta.toNat) % 2 ^ 48 :=
  value_ofValue _

end GatewayConfig.Mac
