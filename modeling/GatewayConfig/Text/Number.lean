/-!
# Decimal numbers in text

An unsigned number is an optional plus sign and at least one ASCII digit. Leading zeros are
allowed, and a number that does not fit its width is refused rather than cut. A text may hold far
more digits than any number that counts, so it is read only up to a limit: `numberUpTo_eq` says that
this changes nothing below the limit.
-/

namespace GatewayConfig.Text

/-- The number that decimal digits denote, or the limit if the number is not below it. -/
def numberUpTo (limit : Nat) (digits : List Char) : Nat :=
  digits.foldl (fun n c => min limit (10 * n + (c.toNat - '0'.toNat))) 0

/-- Capping after each digit is capping the number at the end. -/
theorem foldl_min_eq (limit : Nat) (digits : List Char) (n : Nat) :
    digits.foldl (fun n c => min limit (10 * n + (c.toNat - '0'.toNat))) (min limit n) =
      min limit (Nat.ofDigitChars 10 digits n) := by
  induction digits generalizing n with
  | nil => simp
  | cons c rest ih =>
    rw [Nat.ofDigitChars_cons, ← ih, List.foldl_cons]
    congr 1
    omega

/-- Reading up to a limit gives the number itself or the limit, whichever is less. -/
theorem numberUpTo_eq (limit : Nat) (digits : List Char) :
    numberUpTo limit digits = min limit (Nat.ofDigitChars 10 digits 0) := by
  simpa [numberUpTo] using foldl_min_eq limit digits 0

/-- The digits of an unsigned decimal text. -/
def unsignedDigits? (s : String) : Option (List Char) :=
  let digits := match s.toList with
    | '+' :: rest => rest
    | other => other
  if digits ≠ [] ∧ digits.all Char.isDigit then some digits else none

/-- The number that an unsigned decimal text denotes, whatever its size. -/
def unsigned? (s : String) : Option Nat :=
  (unsignedDigits? s).map fun digits => Nat.ofDigitChars 10 digits 0

/-- The number that an unsigned decimal text denotes, when it fits the given count of bits. -/
def unsignedBits? (bits : Nat) (s : String) : Option Nat :=
  ((unsignedDigits? s).map (numberUpTo (Nat.pow 2 bits))).filter (· < Nat.pow 2 bits)

/-- A text is read as its number when that number fits, and not at all when it does not. -/
theorem unsignedBits?_eq (bits : Nat) (s : String) :
    unsignedBits? bits s = (unsigned? s).filter (· < Nat.pow 2 bits) := by
  unfold unsignedBits? unsigned?
  cases unsignedDigits? s with
  | none => rfl
  | some digits =>
    simp only [Option.map_some, Option.filter_some, numberUpTo_eq, decide_eq_true_eq]
    split <;> split <;> simp_all <;> omega

/-- A decimal numeral is read as its number. -/
theorem unsigned?_toString (n : Nat) : unsigned? (toString n) = some n := by
  have hd : ∀ c ∈ Nat.toDigits 10 n, c.isDigit := fun c hc =>
    Nat.isDigit_of_mem_toDigits (by decide) (by decide) hc
  have hs : unsignedDigits? (toString n) = some (Nat.toDigits 10 n) := by
    have ht : (toString n).toList = Nat.toDigits 10 n := by simp
    unfold unsignedDigits?
    rw [ht]
    dsimp only
    split
    · next rest he =>
      have := hd '+' (he ▸ List.mem_cons_self)
      cases this
    · rw [if_pos ⟨Nat.toDigits_ne_nil, List.all_eq_true.2 hd⟩]
  rw [unsigned?, hs, Option.map_some, Nat.ofDigitChars_ten_toDigits]

/-- A number that fits is read back from its decimal digits. -/
theorem unsignedBits?_toString {bits n : Nat} (h : n < Nat.pow 2 bits) :
    unsignedBits? bits (toString n) = some n := by
  rw [unsignedBits?_eq, unsigned?_toString, Option.filter_some, if_pos (decide_eq_true h)]

end GatewayConfig.Text
