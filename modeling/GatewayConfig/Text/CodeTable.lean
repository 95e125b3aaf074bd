import GatewayConfig.Bytes

/-!
# Tables of code points

Properties of characters are held as runs of code points in increasing order. A table is written
as a text of words with blanks between them: a word is the first code point of a run, the last one
behind a hyphen if there is more than one, and then what the table says of the run, each number
with a mark before it. All numbers are hexadecimal. A code point is looked up by halving the
table.
-/

namespace GatewayConfig.Text

variable {α : Type}

/-- A run of code points and what is said of it. -/
structure Run (α : Type) where
  /-- The first code point. -/
  first : Nat
  /-- The last code point. -/
  last : Nat
  /-- What is said of them. -/
  value : α
  deriving Repr

/-- Runs in increasing order, no two of which overlap. -/
abbrev CodeTable (α : Type) := Array (Run α)

/-- Runs of which nothing is said, so that the table is a set. -/
abbrev CodeSet := CodeTable Unit

/-- A number in a word of a table, and the mark before it. -/
abbrev Cell := Char × Nat

/-- The numbers of a word, given the mark before the first and its value so far. -/
def cellsFrom (mark : Char) (n : Nat) : List Char → List Cell
  | [] => [(mark, n)]
  | c :: rest =>
    match Bytes.hexValue? c with
    | some d => cellsFrom mark (16 * n + d) rest
    | none => (mark, n) :: cellsFrom c 0 rest

/-- The words of a table, each as its numbers. The first number has a blank for its mark. -/
def cells (text : String) : List (List Cell) :=
  ((text.toList.splitOnP Char.isWhitespace).filter (· ≠ [])).map (cellsFrom ' ' 0)

/-- The run that a word writes. -/
def runOfCells? (value : List Cell → α) : List Cell → Option (Run α)
  | (_, first) :: ('-', last) :: rest => some ⟨first, last, value rest⟩
  | (_, first) :: rest => some ⟨first, first, value rest⟩
  | [] => none

namespace CodeTable

/-- The table that a text writes. -/
def ofText (value : List Cell → α) (text : String) : CodeTable α :=
  ((cells text).filterMap (runOfCells? value)).toArray

/-- How many runs start at a code point or before it, if that number lies between the bounds. -/
def seek (t : CodeTable α) (n low high : Nat) (h : high ≤ t.size) : Nat :=
  if hl : low < high then
    let middle := (low + high) / 2
    have hm : middle < t.size := by omega
    if t[middle].first ≤ n then seek t n (middle + 1) high h
    else seek t n low middle (by omega)
  else low
termination_by high - low

/-- The run that holds a code point. -/
def run? (t : CodeTable α) (n : Nat) : Option (Run α) :=
  (t[seek t n 0 t.size (Nat.le_refl _) - 1]?).filter fun r => r.first ≤ n && n ≤ r.last

end CodeTable

namespace CodeSet

/-- The set that a text writes. -/
def ofText (text : String) : CodeSet := CodeTable.ofText (fun _ => ()) text

/-- Whether a character belongs to the set. -/
def has (s : CodeSet) (c : Char) : Bool := (CodeTable.run? s c.toNat).isSome

end CodeSet

/-- The last number of a word is behind its mark. -/
example : cells "41-5A+61 DF" = [[(' ', 0x41), ('-', 0x5A), ('+', 0x61)], [(' ', 0xDF)]] := by
  decide +kernel

/-- The ends of a run belong to it, and what lies between two runs belongs to neither. -/
example : "/09:".toList.map (CodeSet.ofText "30-39 41-5A 61-7A").has =
    [false, true, true, false] := by decide +kernel

end GatewayConfig.Text
