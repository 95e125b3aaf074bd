import GatewayConfig.InvalidRequest
import GatewayConfig.Text.Case

/-!
# Device addresses

A device is known by its MAC address: twelve hexadecimal digits without separators, kept in upper
case. An address is also a number below 2^48, on which neighbouring interfaces of one device are
found by addition.
-/

namespace GatewayConfig

/-- Whether a character is a hexadecimal digit, in either case. -/
def isHexDigit (c : Char) : Bool := "0123456789abcdefABCDEF".toList.contains c

/-- Whether a character is a decimal digit or one of the capitals `A` to `F`. -/
def isUpperHexDigit (c : Char) : Bool := "0123456789ABCDEF".toList.contains c

/-- A hexadecimal digit in capitals is one of the sixteen digits of an address. -/
theorem isUpperHexDigit_toUpper {c : Char} (h : isHexDigit c = true) :
    isUpperHexDigit c.toUpper = true := by
  have all : ("0123456789abcdefABCDEF".toList.all fun d => isUpperHexDigit d.toUpper) = true := by
    decide
  exact List.all_eq_true.1 all c (List.contains_iff_mem.1 h)

/-- The upper-case hexadecimal digit of a number below sixteen. -/
def upperHexDigit (n : Fin 16) : Char := (Nat.digitChar n).toUpper

/-- So is the digit of every number below sixteen. -/
theorem isUpperHexDigit_upperHexDigit (n : Fin 16) : isUpperHexDigit (upperHexDigit n) = true := by
  revert n
  decide

/-- A normalized device address. -/
structure Mac where
  /-- The digits. -/
  text : String
  /-- There are twelve of them, in upper case. -/
  canonical : text.toList.length = 12 ∧ text.toList.all isUpperHexDigit = true
  deriving DecidableEq

namespace Mac

/-- Whether the text is exactly twelve hexadecimal digits, in either case. -/
def isValid (raw : String) : Bool := raw.toList.length == 12 && raw.toList.all isHexDigit

/-- A valid address in capitals is canonical. -/
theorem canonical_upper {raw : String} (h : isValid raw = true) :
    (Text.upper raw).toList.length = 12 ∧ (Text.upper raw).toList.all isUpperHexDigit = true := by
  simp only [isValid, Bool.and_eq_true, beq_iff_eq, List.all_eq_true] at h
  simp only [Text.upper, String.toList_ofList, List.length_map, List.all_map, List.all_eq_true]
  exact ⟨h.1, fun c hc => isUpperHexDigit_toUpper (h.2 c hc)⟩

/-- Read an address in either case. -/
def parse (raw : String) : Except InvalidRequest Mac :=
  if h : isValid raw = true then .ok ⟨Text.upper raw, canonical_upper h⟩ else .error (.mac raw)

/-- The number that hexadecimal digits denote, most significant first. -/
def hexValue (digits : List Char) : Nat :=
  digits.foldl (fun n c => 16 * n + (Bytes.hexValue? c).getD 0) 0

/-- The number that the address denotes, below 2^48. -/
def value (m : Mac) : Nat := hexValue m.text.toList

/-- The lowest twelve hexadecimal digits of a number. -/
def digits (n : Nat) : List Char :=
  (List.range 12).reverse.map fun i => upperHexDigit (Fin.ofNat 16 (n / Nat.pow 16 i))

/-- The address with the given number, taken modulo 2^48. -/
def ofValue (n : Nat) : Mac where
  text := .ofList (digits n)
  canonical := by
    simp [digits, isUpperHexDigit_upperHexDigit]

/-- The address at a distance, wrapping within 48 bits. A gateway derives the address of its
set-top interface as its own plus two. -/
def offset (m : Mac) (delta : UInt64) : Mac := ofValue (m.value + delta.toNat)

end Mac

end GatewayConfig
