import GatewayConfig.Bytes.Lenient
import GatewayConfig.Percent

/-!
# Form encoding

Pairs of names and values in one line of text, as `application/x-www-form-urlencoded`. Pairs are
joined by `&`, a name and its value by `=`. A space is written as `+`, letters, digits and the
marks `*`, `-`, `.` and `_` as themselves, and every other byte in percent encoding.
-/

namespace GatewayConfig.Form

/-- Whether a byte is written as itself. -/
def isPlain (b : UInt8) : Bool :=
  (Char.ofNat b.toNat).isAlphanum || b == 42 || b == 45 || b == 46 || b == 95

/-- A byte as it is written. -/
def writeByte (b : UInt8) : List Char :=
  if b = 32 then ['+'] else if isPlain b then [Char.ofNat b.toNat] else Percent.encodeByte b

/-- A name or a value as it is written. -/
def writeText (s : String) : List Char := (Bytes.ofText s).flatMap writeByte

/-- A pair as it is written. -/
def writePair (pair : String × String) : List Char :=
  writeText pair.1 ++ '=' :: writeText pair.2

/-- The pairs in one line. -/
def write (pairs : List (String × String)) : String :=
  .ofList (['&'].intercalate (pairs.map writePair))

/-- The text that an encoded name or value stands for. -/
def readText (b : Bytes) : String :=
  Bytes.lenientText (Percent.decode (b.map fun c => if c = 43 then 32 else c))

/-- The pair that an element stands for. Without `=` its value is empty. -/
def readPair (b : Bytes) : String × String :=
  (readText (b.takeWhile (· != 61)), readText ((b.dropWhile (· != 61)).drop 1))

/-- The pairs of a line. Empty elements are skipped. -/
def read (line : Bytes) : List (String × String) :=
  ((line.splitOn 38).filter (· ≠ [])).map readPair

end GatewayConfig.Form
