import GatewayConfig.Url.Basic
import GatewayConfig.Url.DomainName
import GatewayConfig.Url.Escape

/-!
# Hosts of URLs

A host is an address in brackets, an address of four numbers, or a domain name. Numbers may be
decimal, octal or hexadecimal, and the last one fills the bytes that are left. Under schemes
without a fixed meaning a host is only checked and escaped.
-/

namespace GatewayConfig.Url

/-- Why a text is not a URL. -/
inductive Fault where
  /-- A relative reference stands alone. -/
  | noBase
  /-- Nothing is relative to this base. -/
  | rigidBase
  /-- The host is empty. -/
  | emptyHost
  /-- The TCP number is not one. -/
  | portNumber
  /-- A host that ends in a number is not an address. -/
  | ipv4
  /-- A host in brackets is not an address. -/
  | ipv6
  /-- A name holds what a domain name cannot hold. -/
  | domainName
  /-- A host holds what no host can hold. -/
  | hostCharacter
  deriving DecidableEq, Repr

/-- The text of a fault. -/
def Fault.message : Fault → String
  | noBase => "relative URL without a base"
  | rigidBase => "relative URL with a cannot-be-a-base base"
  | emptyHost => "empty host"
  | portNumber => "invalid port number"
  | ipv4 => "invalid IPv4 address"
  | ipv6 => "invalid IPv6 address"
  | domainName => "invalid international domain name"
  | hostCharacter => "invalid domain character"

/-- The least number that is too great for an address of four bytes. -/
def numberLimit : Nat := 0x100000000

/-- The number that digits of a base denote, or the limit if the number is not below it. -/
def digitsValue? (base : Nat) (digits : List Char) : Option Nat :=
  digits.foldlM (fun n c => do
    let d ← Bytes.hexValue? c
    if d < base then some (min numberLimit (base * n + d)) else none) 0

/-- The pieces of a group of an address in brackets: one piece of up to four digits. -/
def ipv6Piece? (group : List Char) : Option Nat :=
  if group ≠ [] ∧ group.length ≤ 4 then digitsValue? 16 group else none

/-- A byte in decimal without leading zeros. -/
def ipv4Byte? (group : List Char) : Option Nat :=
  if group ≠ [] ∧ (group = ['0'] ∨ group.head? ≠ some '0') then
    (digitsValue? 10 group).filter (· < 256)
  else none

/-- Four bytes with dots, as the last two pieces of an address in brackets. -/
def ipv6Tail? (group : List Char) : Option (List Nat) := do
  match ← (group.splitOn '.').mapM ipv4Byte? with
  | [a, b, c, d] => some [256 * a + b, 256 * c + d]
  | _ => none

/-- The pieces of groups with colons between them; only the last group may have dots. -/
def ipv6Pieces? (allowTail : Bool) : List (List Char) → Option (List Nat)
  | [] => some []
  | [group] =>
    if allowTail ∧ group.contains '.' then ipv6Tail? group
    else (ipv6Piece? group).map fun n => [n]
  | group :: rest => do return (← ipv6Piece? group) :: (← ipv6Pieces? allowTail rest)

/-- The groups of one side of the gap; an empty side has none. -/
def ipv6Side (side : List Char) : List (List Char) :=
  if side.isEmpty then [] else side.splitOn ':'

/-- What stands before and after the first two colons in a row. -/
def cutGap? : List Char → Option (List Char × List Char)
  | ':' :: ':' :: rest => some ([], rest)
  | c :: rest => (cutGap? rest).map fun (before, after) => (c :: before, after)
  | [] => none

/-- The eight pieces of an address in brackets. A gap stands for one or more zero pieces. -/
def ipv6Address? (l : List Char) : Option (List Nat) :=
  match cutGap? l with
  | none => (ipv6Pieces? true (l.splitOn ':')).filter (·.length == 8)
  | some (before, after) => do
    let left ← ipv6Pieces? false (ipv6Side before)
    let right ← ipv6Pieces? true (ipv6Side after)
    if left.length + right.length ≤ 7 then
      some (left ++ List.replicate (8 - (left.length + right.length)) 0 ++ right)
    else none

/-- A number of an address: hexadecimal after `0x`, octal after another zero, else decimal. -/
def ipv4Number? : List Char → Option Nat
  | [] => none
  | '0' :: 'x' :: digits => digitsValue? 16 digits
  | '0' :: 'X' :: digits => digitsValue? 16 digits
  | '0' :: d :: digits => digitsValue? 8 (d :: digits)
  | digits => digitsValue? 10 digits

/-- The parts of a name between its dots, without an empty part at the end. -/
def nameParts (name : List Char) : List (List Char) :=
  let parts := name.splitOn '.'
  if parts.getLast? = some [] then parts.dropLast else parts

/-- A host whose last part is a number has to be an address. -/
def endsInNumber (name : List Char) : Bool :=
  match (nameParts name).getLast? with
  | none => false
  | some part => (part ≠ [] && part.all Char.isDigit) || (ipv4Number? part).isSome

/-- The bytes of a number, the lowest `count` of them. -/
def lowBytes (count n : Nat) : List Nat :=
  (List.range count).reverse.map fun i => n / Nat.pow 256 i % 256

/-- The address that numbers denote: all but the last are bytes, and the last fills the rest. -/
def ipv4Address? (name : List Char) : Option (List Nat) := do
  let numbers ← (nameParts name).mapM ipv4Number?
  let last ← numbers.getLast?
  let bytes := numbers.dropLast
  if numbers.length ≤ 4 ∧ bytes.all (· < 256) ∧ last < Nat.pow 256 (4 - bytes.length) then
    some (bytes ++ lowBytes (4 - bytes.length) last)
  else none

/-- What no host can hold. -/
def forbiddenInHost (c : Char) : Bool :=
  ['\x00', '\t', '\n', '\r', ' ', '#', '/', ':', '<', '>', '?', '@', '[', '\\', ']', '^',
    '|'].contains c

/-- The address in brackets, which the closing one has to end. -/
def bracketed (l : List Char) : Except Fault Host :=
  if l.getLast? = some ']' then
    match ipv6Address? l.dropLast with
    | some pieces => .ok (.ipv6 pieces)
    | none => .error .ipv6
  else .error .ipv6

/-- The host of a scheme with a fixed meaning. -/
def namedHost (l : List Char) : Except Fault Host :=
  match Bytes.text? (Percent.decode (Bytes.ofText (.ofList l))) with
  | none => .error .domainName
  | some decoded =>
    match DomainName.toAscii? decoded.toList with
    | none => .error .domainName
    | some name =>
      if name.isEmpty then .error .emptyHost
      else if endsInNumber name then
        match ipv4Address? name with
        | some address => .ok (.ipv4 address)
        | none => .error .ipv4
      else .ok (.domain (.ofList name))

/-- The host of any other scheme. -/
def plainHost (l : List Char) : Except Fault Host :=
  if l.any forbiddenInHost then .error .hostCharacter
  else .ok (.domain (.ofList (escape escapedEverywhere l)))

/-- The host that a URL names. -/
def readHost (kind : SchemeKind) : List Char → Except Fault Host
  | '[' :: rest => bracketed rest
  | l => if kind = .other then plainHost l else namedHost l

/-- A gap stands for the zeros, and the spelling leaves the longest run of them out. -/
example : (bracketed "2001:DB8::1.2.3.4]".toList).toOption.map Host.toText =
    some "[2001:db8::102:304]" := by cbv

/-- The last number fills the bytes that are left. -/
example : (namedHost "0x7f.1".toList).toOption.map Host.toText = some "127.0.0.1" := by
  decide +kernel

end GatewayConfig.Url
