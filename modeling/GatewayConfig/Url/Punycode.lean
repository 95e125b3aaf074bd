import GatewayConfig.Text.Split

/-!
# Punycode

An ASCII spelling for a label with other characters. The ASCII characters come first, and the
others follow as a list of differences, smallest code point first, each written in digits of base
36 whose weights adapt to the differences so far. `encode` writes such a spelling, and `decode?`
reads one whose numbers fit 32 bits.
-/

namespace GatewayConfig.Url.Punycode

/-- The digits are the letters and then the decimal digits. -/
def digit (d : Nat) : Char := Char.ofNat (if d < 26 then 97 + d else 22 + d)

/-- The value at which a digit ends its number, for the digit at this position. -/
def threshold (position bias : Nat) : Nat := max 1 (min 26 (position - bias))

/-- A difference in digits, the lowest first. -/
def digits (bias position n : Nat) : List Char :=
  let t := threshold position bias
  if n < t then [digit n]
  else digit (t + (n - t) % (36 - t)) :: digits bias (position + 36) ((n - t) / (36 - t))
termination_by n
decreasing_by
  have ht : 1 ≤ threshold position bias := Nat.le_max_left _ _
  have := Nat.div_le_self (n - threshold position bias) (36 - threshold position bias)
  omega

/-- Scale a difference down until it is small, and count the steps in the bias. -/
def settle (delta steps : Nat) : Nat :=
  if 455 < delta then settle (delta / 35) (steps + 36) else steps + 36 * delta / (delta + 38)
termination_by delta
decreasing_by exact Nat.div_lt_self (by omega) (by decide)

/-- The bias after a difference has been written. -/
def adapt (delta handled : Nat) (first : Bool) : Nat :=
  let d := if first then delta / 700 else delta / 2
  settle (d + d / handled) 0

/-- The differences written so far, and what the next one needs. -/
structure Progress where
  /-- The digits so far. -/
  written : List Char
  /-- The difference to write next. -/
  delta : Nat
  /-- The bias of its digits. -/
  bias : Nat
  /-- How many characters are placed. -/
  handled : Nat

/-- Look at one character of the label while the characters of one code point are placed. -/
def Progress.step (basic point : Nat) (p : Progress) (c : Char) : Progress :=
  if c.toNat < point then { p with delta := p.delta + 1 }
  else if c.toNat = point then
    { written := p.written ++ digits p.bias 36 p.delta, delta := 0,
      bias := adapt p.delta (p.handled + 1) (p.handled == basic), handled := p.handled + 1 }
  else p

/-- Place the characters of the given code points, which ascend. -/
def place (label : List Char) (basic : Nat) : List Nat → Nat → Progress → List Char
  | [], _, p => p.written
  | point :: rest, lowest, p =>
    let p := { p with delta := p.delta + (point - lowest) * (p.handled + 1) }
    let p := label.foldl (Progress.step basic point) p
    place label basic rest (point + 1) { p with delta := p.delta + 1 }

/-- The spelling of a label, without the mark that says it is one. -/
def encode (label : List Char) : List Char :=
  let basic := label.filter (·.toNat < 128)
  let points := ((label.map Char.toNat).filter (128 ≤ ·)).eraseDups.mergeSort
  basic ++ (if basic.isEmpty then [] else ['-']) ++
    place label basic.length points 128 ⟨[], 0, 72, basic.length⟩

/-- The value of a digit. -/
def digitValue? (c : Char) : Option Nat :=
  if c.isLower then some (c.toNat - 97)
  else if c.isUpper then some (c.toNat - 65)
  else if c.isDigit then some (c.toNat - 22)
  else none

/-- A number after a sum of digits, the next of which has a weight, and what follows the number. -/
def difference? (bias position weight sum : Nat) : List Char → Option (Nat × List Char)
  | [] => none
  | c :: rest => do
    let d ← digitValue? c
    let sum := sum + d * weight
    let t := threshold position bias
    if Nat.pow 2 32 ≤ sum then none
    else if d < t then some (sum, rest)
    else if Nat.pow 2 32 ≤ weight * (36 - t) then none
    else difference? bias (position + 36) (weight * (36 - t)) sum rest

/-- Each difference takes digits off the list, so decoding ends. -/
theorem length_difference? {bias position weight sum n : Nat} {l rest : List Char}
    (h : difference? bias position weight sum l = some (n, rest)) : rest.length < l.length := by
  induction l generalizing position weight sum with
  | nil => cases h
  | cons c tail ih =>
    simp only [difference?, Option.bind_eq_bind, Option.bind_eq_some_iff] at h
    obtain ⟨d, -, h⟩ := h
    split at h
    · cases h
    · split at h
      · cases h
        simp
      · split at h
        · cases h
        · have := ih h
          simp only [List.length_cons]
          omega

/-- The label after the differences that are left, the next of which counts from a place and a
code point. -/
def placeAll? (label : List Char) (place point bias : Nat) (l : List Char) : Option (List Char) :=
  match l with
  | [] => some label
  | c :: tail =>
    match _h : difference? bias 36 1 place (c :: tail) with
    | none => none
    | some (sum, rest) =>
      let count := label.length + 1
      let point := point + sum / count
      if point < 0xD800 ∨ (0xE000 ≤ point ∧ point < 0x110000) then
        placeAll? (label.insertIdx (sum % count) (Char.ofNat point)) (sum % count + 1) point
          (adapt (sum - place) count (place == 0)) rest
      else none
termination_by l.length
decreasing_by exact length_difference? _h

/-- The label that a spelling stands for. Its ASCII letters are small ones. A hyphen that no
character stands before ends no list of ASCII characters. -/
def decode? (l : List Char) : Option (List Char) :=
  match Text.cutChars? '-' l.reverse with
  | some (after, c :: before) =>
    placeAll? ((c :: before).reverse.map Char.toLower) 0 128 72 after.reverse
  | some (_, []) => none
  | none => placeAll? [] 0 128 72 l

/-- A published example: the label of a German city. -/
example : String.ofList (encode "münchen".toList) = "mnchen-3ya" ∧
    decode? "Mnchen-3yA".toList = some "münchen".toList := by
  constructor <;> cbv

end GatewayConfig.Url.Punycode
