import GatewayConfig.Bytes
import GatewayConfig.Decimal.Shortest
import GatewayConfig.Json.Value

/-!
# Writing JSON

The compact form: no blanks, members in order, and only those characters escaped that must be.
A number with a fraction has the fewest digits that read back. It is written without an exponent
when its first digit stands at most sixteen places before the point or four zeros behind it.
-/

namespace GatewayConfig.Json

/-- A character inside a string. -/
def escapeChar (c : Char) : List Char :=
  if c = '"' then ['\\', '"']
  else if c = '\\' then ['\\', '\\']
  else if c = '\x08' then ['\\', 'b']
  else if c = '\x0c' then ['\\', 'f']
  else if c = '\n' then ['\\', 'n']
  else if c = '\r' then ['\\', 'r']
  else if c = '\t' then ['\\', 't']
  else if c.toNat < 32 then
    ['\\', 'u', '0', '0', Nat.digitChar (c.toNat / 16), Nat.digitChar (c.toNat % 16)]
  else [c]

/-- A string between its quotes. -/
def writeString (s : String) : List Char := '"' :: s.toList.flatMap escapeChar ++ ['"']

/-- An integer in decimal. -/
def writeInteger (n : Int) : List Char :=
  if n < 0 then '-' :: Nat.toDigits 10 n.natAbs else Nat.toDigits 10 n.natAbs

/-- The exponent of a number, always with its sign. -/
def writeExponent (n : Int) : List Char :=
  'e' :: (if n < 0 then [] else ['+']) ++ writeInteger n

/-- A positive decimal. The place counts how many digits stand before the point. -/
def writeDigits (d : Decimal.Digits) : List Char :=
  let digits := Nat.toDigits 10 d.digits
  let place : Int := digits.length + d.power
  if 0 ≤ d.power ∧ place ≤ 16 then digits ++ List.replicate d.power.toNat '0' ++ ['.', '0']
  else if 0 < place ∧ place ≤ 16 then
    digits.take place.toNat ++ '.' :: digits.drop place.toNat
  else if -5 < place ∧ place ≤ 0 then
    ['0', '.'] ++ List.replicate (-place).toNat '0' ++ digits
  else
    let fraction := digits.drop 1
    digits.take 1 ++ (if fraction = [] then [] else '.' :: fraction) ++ writeExponent (place - 1)

/-- A floating-point number. -/
def writeFloat (f : Decimal.Binary64) : List Char :=
  (if f.negative then ['-'] else []) ++
    if f.mantissa = 0 then ['0', '.', '0'] else writeDigits f.shortest

mutual

/-- A value in compact form. -/
def writeChars : Value → List Char
  | .null => "null".toList
  | .bool true => "true".toList
  | .bool false => "false".toList
  | .integer n => writeInteger n
  | .float f => writeFloat f
  | .string s => writeString s
  | .array items => '[' :: writeItems items ++ [']']
  | .object members => '\x7b' :: writeMembers members ++ ['\x7d']

/-- The items of an array, with commas between them. -/
def writeItems : List Value → List Char
  | [] => []
  | [v] => writeChars v
  | v :: rest => writeChars v ++ ',' :: writeItems rest

/-- The members of an object, with commas between them. -/
def writeMembers : List (String × Value) → List Char
  | [] => []
  | [(name, v)] => writeString name ++ ':' :: writeChars v
  | (name, v) :: rest => writeString name ++ ':' :: writeChars v ++ ',' :: writeMembers rest

end

/-- The UTF-8 text of a value. -/
def write (v : Value) : Bytes := Bytes.ofText (.ofList (writeChars v))

end GatewayConfig.Json
