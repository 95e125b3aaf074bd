import GatewayConfig.Bytes

/-!
# Lenient UTF-8

A text for every byte string. Valid UTF-8 reads as what it encodes. Bytes that belong to no
character read as U+FFFD, one for each longest run that starts a character and breaks off.
-/

namespace GatewayConfig.Bytes

/-- For the first byte of a character: how many bytes follow, the range of the next one, and the
bits that the byte itself contributes. -/
def leadByte? (b : UInt8) : Option (Nat × UInt8 × UInt8 × Nat) :=
  if b < 0x80 then some (0, 0x80, 0xBF, b.toNat)
  else if b < 0xC2 then none
  else if b < 0xE0 then some (1, 0x80, 0xBF, b.toNat - 0xC0)
  else if b = 0xE0 then some (2, 0xA0, 0xBF, 0)
  else if b = 0xED then some (2, 0x80, 0x9F, 0xD)
  else if b < 0xF0 then some (2, 0x80, 0xBF, b.toNat - 0xE0)
  else if b = 0xF0 then some (3, 0x90, 0xBF, 0)
  else if b < 0xF4 then some (3, 0x80, 0xBF, b.toNat - 0xF0)
  else if b = 0xF4 then some (3, 0x80, 0x8F, 4)
  else none

/-- The bytes that follow a first byte: the code point, unless they break off, and the rest. -/
def followBytes : Nat → UInt8 → UInt8 → Nat → Bytes → Option Nat × Bytes
  | 0, _, _, code, b => (some code, b)
  | _ + 1, _, _, _, [] => (none, [])
  | n + 1, low, high, code, c :: rest =>
    if low ≤ c ∧ c ≤ high then followBytes n 0x80 0xBF (64 * code + (c.toNat - 0x80)) rest
    else (none, c :: rest)

/-- Follow bytes are taken from the front, so no byte is read twice. -/
theorem length_followBytes (n : Nat) (low high : UInt8) (code : Nat) (b : Bytes) :
    (followBytes n low high code b).2.length ≤ b.length := by
  fun_induction followBytes n low high code b with
  | case1 => simp
  | case2 => simp
  | case3 n low high code c rest h ih => simp only [List.length_cons]; omega
  | case4 => simp

/-- The replacement character. -/
def replacement : Char := '\uFFFD'

/-- The characters of a byte string, replacements included. -/
def lenientChars : Bytes → List Char
  | [] => []
  | b :: rest =>
    match leadByte? b with
    | none => replacement :: lenientChars rest
    | some (n, low, high, code) =>
      let follow := followBytes n low high code rest
      (follow.1.map Char.ofNat).getD replacement :: lenientChars follow.2
termination_by b => b.length
decreasing_by
  · simp
  · have := length_followBytes n low high code rest
    simp only [List.length_cons]
    omega

/-- The text of a byte string, with replacements where it is not UTF-8. -/
def lenientText (b : Bytes) : String :=
  match text? b with
  | some s => s
  | none => .ofList (lenientChars b)

end GatewayConfig.Bytes
