import GatewayConfig.Bytes

/-!
# Percent encoding

A byte may be written as a percent sign and two hexadecimal digits. Writing uses upper-case
digits; reading takes either case and leaves a percent sign alone that no two digits follow.
-/

namespace GatewayConfig.Percent

/-- The percent encoding of one byte. -/
def encodeByte (b : UInt8) : List Char :=
  ['%', (Nat.digitChar (b.toNat / 16)).toUpper, (Nat.digitChar (b.toNat % 16)).toUpper]

/-- The value of a byte that is a hexadecimal digit. -/
def hexByte? (b : UInt8) : Option Nat := Bytes.hexValue? (Char.ofNat b.toNat)

/-- The bytes with every encoded byte decoded. -/
def decode : Bytes → Bytes
  | 37 :: h :: l :: rest =>
    match hexByte? h, hexByte? l with
    | some x, some y => UInt8.ofNat (16 * x + y) :: decode rest
    | _, _ => 37 :: decode (h :: l :: rest)
  | b :: rest => b :: decode rest
  | [] => []

end GatewayConfig.Percent
