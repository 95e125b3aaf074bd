import GatewayConfig.Bytes
import GatewayConfig.Json.Value
import GatewayConfig.Text.Number

/-!
# JSON tokens

The lexical part of JSON, read strictly: four blanks, six marks, three literals, numbers without
superfluous zeros or signs, and strings whose escapes stand for whole characters. An unescaped
control character, an unknown escape, half of a surrogate pair, or a number beyond binary64 makes
the text unreadable.
-/

namespace GatewayConfig.Json

/-- A lexical element. -/
inductive Token where
  /-- An opening bracket. -/
  | openArray
  /-- A closing bracket. -/
  | closeArray
  /-- An opening brace. -/
  | openObject
  /-- A closing brace. -/
  | closeObject
  /-- A comma. -/
  | comma
  /-- A colon. -/
  | colon
  /-- A string. -/
  | text (s : String)
  /-- Any other value without parts. -/
  | scalar (v : Value)
  deriving Repr

/-- Whether a character separates tokens. -/
def isSpace (c : Char) : Bool := c == ' ' || c == '\t' || c == '\n' || c == '\r'

/-- The digits at the start of a text, and the rest. -/
def spanDigits (l : List Char) : List Char × List Char :=
  (l.takeWhile Char.isDigit, l.dropWhile Char.isDigit)

/-- The integer part: a zero alone, or digits that start with another digit. -/
def integerPart? (l : List Char) : Option (List Char × List Char) :=
  match spanDigits l with
  | ([], _) => none
  | (['0'], rest) => some (['0'], rest)
  | ('0' :: _, _) => none
  | (digits, rest) => some (digits, rest)

/-- The digits after a point, if there is one; a point needs a digit after it. -/
def fractionPart? (l : List Char) : Option (Option (List Char) × List Char) :=
  match l with
  | '.' :: rest =>
    match spanDigits rest with
    | ([], _) => none
    | (digits, rest) => some (some digits, rest)
  | _ => some (none, l)

/-- The sign of an exponent, and the rest. -/
def exponentSign : List Char → Bool × List Char
  | '+' :: rest => (false, rest)
  | '-' :: rest => (true, rest)
  | l => (false, l)

/-- An exponent as its sign and its digits, if there is one; it needs at least one digit. -/
def exponentPart? (l : List Char) : Option (Option (Bool × List Char) × List Char) :=
  match l with
  | c :: rest =>
    if c = 'e' ∨ c = 'E' then
      let (negative, rest) := exponentSign rest
      match spanDigits rest with
      | ([], _) => none
      | (digits, rest) => some (some (negative, digits), rest)
    else some (none, l)
  | [] => some (none, l)

/-- The significand after more integer digits, and how many of them no longer fit 64 bits. -/
def absorbInteger (significand : Nat) : List Char → Nat × Nat
  | [] => (significand, 0)
  | c :: rest =>
    let next := 10 * significand + (c.toNat - '0'.toNat)
    if next < Nat.pow 2 64 then absorbInteger next rest else (significand, rest.length + 1)

/-- The significand after fraction digits, and how many of them were used before one no longer
fits 64 bits. -/
def absorbFraction (significand used : Nat) : List Char → Nat × Nat
  | [] => (significand, used)
  | c :: rest =>
    let next := 10 * significand + (c.toNat - '0'.toNat)
    if next < Nat.pow 2 64 then absorbFraction next (used + 1) rest else (significand, used)

/-- The floating-point number that the parts of a literal denote. Digits beyond those that fit
64 bits count only for their place. -/
def floatOf? (negative : Bool) (whole fraction : List Char) (exponent : Option (Bool × List Char)) :
    Option Decimal.Binary64 := do
  let (significand, skipped) := absorbInteger 0 whole
  let (significand, used) := absorbFraction significand 0 fraction
  let (expNegative, digits) := exponent.getD (false, [])
  let size := Text.numberUpTo 2147483648 digits
  let power : Int :=
    if 2147483648 ≤ size then (if expNegative then -2147483648 else 2147483648)
    else (skipped : Int) - used + (if expNegative then -(size : Int) else size)
  (← Decimal.Binary64.ofRatio? negative significand 1).ofDecimal? power

/-- The value of a number literal: an integer when it is written as one and fits 64 bits. The
literal `-0` is a floating-point number, as no integer has its sign. -/
def numberOf? (negative : Bool) (whole : List Char) (fraction : Option (List Char))
    (exponent : Option (Bool × List Char)) : Option Value :=
  let n := Text.numberUpTo (Nat.pow 2 64) whole
  match fraction, exponent with
  | none, none =>
    if !negative && n < Nat.pow 2 64 then some (.integer n)
    else if negative && n ≠ 0 && n ≤ Nat.pow 2 63 then some (.integer (-(n : Int)))
    else (floatOf? negative whole [] none).map .float
  | _, _ => (floatOf? negative whole (fraction.getD []) exponent).map .float

/-- A number after its sign, and the rest. -/
def unsignedNumber? (negative : Bool) (l : List Char) : Option (Value × List Char) := do
  let (whole, rest) ← integerPart? l
  let (fraction, rest) ← fractionPart? rest
  let (exponent, rest) ← exponentPart? rest
  let value ← numberOf? negative whole fraction exponent
  return (value, rest)

/-- A number, and the rest. -/
def number? : List Char → Option (Value × List Char)
  | '-' :: rest => unsignedNumber? true rest
  | l => unsignedNumber? false l

/-- The number that four hexadecimal digits denote. -/
def fourHex? (a b c d : Char) : Option Nat := do
  return 4096 * (← Bytes.hexValue? a) + 256 * (← Bytes.hexValue? b) +
    16 * (← Bytes.hexValue? c) + (← Bytes.hexValue? d)

/-- The character that a short escape stands for. -/
def shortEscape? (c : Char) : Option Char :=
  if c = '"' then some '"'
  else if c = '\\' then some '\\'
  else if c = '/' then some '/'
  else if c = 'b' then some '\x08'
  else if c = 'f' then some '\x0c'
  else if c = 'n' then some '\n'
  else if c = 'r' then some '\r'
  else if c = 't' then some '\t'
  else none

/-- The character of a surrogate pair. -/
def surrogatePair? (high low : Nat) : Option Char :=
  if 0xD800 ≤ high ∧ high < 0xDC00 ∧ 0xDC00 ≤ low ∧ low < 0xE000 then
    some (Char.ofNat (0x10000 + 1024 * (high - 0xD800) + (low - 0xDC00)))
  else none

/-- The rest of a string after its opening quote, given what was read so far in reverse: the text
and what follows the closing quote. -/
def stringFrom? (passed : List Char) : List Char → Option (String × List Char)
  | '"' :: rest => some (.ofList passed.reverse, rest)
  | '\\' :: 'u' :: a :: b :: c :: d :: rest =>
    match fourHex? a b c d with
    | none => none
    | some n =>
      if n < 0xD800 ∨ 0xE000 ≤ n then stringFrom? (Char.ofNat n :: passed) rest
      else
        match rest with
        | '\\' :: 'u' :: e :: f :: g :: h :: rest =>
          match (fourHex? e f g h).bind (surrogatePair? n) with
          | some c => stringFrom? (c :: passed) rest
          | none => none
        | _ => none
  | '\\' :: c :: rest =>
    match shortEscape? c with
    | some c => stringFrom? (c :: passed) rest
    | none => none
  | c :: rest =>
    if c = '\\' ∨ c.toNat < 32 then none else stringFrom? (c :: passed) rest
  | [] => none

/-- What follows a literal word. -/
def literal? (word : String) (l : List Char) : Option (List Char) :=
  if word.toList.isPrefixOf l then some (l.drop word.toList.length) else none

/-- The token at the start of a text that starts with none of the blanks, and the rest. -/
def token? (l : List Char) : Option (Token × List Char) :=
  match l with
  | [] => none
  | '[' :: rest => some (.openArray, rest)
  | ']' :: rest => some (.closeArray, rest)
  | '\x7b' :: rest => some (.openObject, rest)
  | '\x7d' :: rest => some (.closeObject, rest)
  | ',' :: rest => some (.comma, rest)
  | ':' :: rest => some (.colon, rest)
  | '"' :: rest => (stringFrom? [] rest).map fun (s, rest) => (.text s, rest)
  | 'n' :: _ => (literal? "null" l).map fun rest => (.scalar .null, rest)
  | 't' :: _ => (literal? "true" l).map fun rest => (.scalar (.bool true), rest)
  | 'f' :: _ => (literal? "false" l).map fun rest => (.scalar (.bool false), rest)
  | _ => (number? l).map fun (v, rest) => (.scalar v, rest)

/-- The text of a string ends with a quotation mark, so at least one character is read. -/
theorem length_stringFrom? {passed l rest : List Char} {s : String}
    (h : stringFrom? passed l = some (s, rest)) : rest.length < l.length := by
  fun_induction stringFrom? passed l <;> simp_all <;> omega

/-- Digits and the rest are the whole text. -/
theorem length_spanDigits (l : List Char) :
    (spanDigits l).1.length + (spanDigits l).2.length = l.length := by
  rw [← List.length_append, spanDigits, List.takeWhile_append_dropWhile]

/-- An integer part has at least one digit. -/
theorem length_integerPart? {l digits rest : List Char}
    (h : integerPart? l = some (digits, rest)) : rest.length < l.length := by
  have hl := length_spanDigits l
  unfold integerPart? at h
  split at h
  · cases h
  · next he =>
    cases h
    simp only [he, List.length_cons, List.length_nil] at hl
    omega
  · cases h
  · next hd _ _ he =>
    cases h
    have := List.length_pos_iff.2 hd
    simp only [he] at hl
    omega

/-- A fraction may be missing, and then nothing is read. -/
theorem length_fractionPart? {l rest : List Char} {digits : Option (List Char)}
    (h : fractionPart? l = some (digits, rest)) : rest.length ≤ l.length := by
  unfold fractionPart? at h
  split at h
  · next tail =>
    have hl := length_spanDigits tail
    split at h <;> simp_all
    omega
  · simp_all

/-- The sign of an exponent may be missing. -/
theorem length_exponentSign (l : List Char) : (exponentSign l).2.length ≤ l.length := by
  unfold exponentSign
  split <;> simp

/-- An exponent may be missing, and then nothing is read. -/
theorem length_exponentPart? {l rest : List Char} {exponent : Option (Bool × List Char)}
    (h : exponentPart? l = some (exponent, rest)) : rest.length ≤ l.length := by
  unfold exponentPart? at h
  split at h
  · next c tail =>
    have hs := length_exponentSign tail
    have hl := length_spanDigits (exponentSign tail).2
    split at h
    · dsimp only at h
      split at h <;> simp_all
      omega
    · simp_all
  · simp_all

/-- A number has at least the digit of its integer part. -/
theorem length_unsignedNumber? {negative : Bool} {l rest : List Char} {v : Value}
    (h : unsignedNumber? negative l = some (v, rest)) : rest.length < l.length := by
  simp only [unsignedNumber?, Option.bind_eq_bind, Option.bind_eq_some_iff, Prod.exists] at h
  obtain ⟨_, r₁, h₁, _, r₂, h₂, _, r₃, h₃, _, _, h₄⟩ := h
  have := length_integerPart? h₁
  have := length_fractionPart? h₂
  have := length_exponentPart? h₃
  simp only [pure, Option.some.injEq, Prod.mk.injEq] at h₄
  obtain ⟨_, rfl⟩ := h₄
  omega

/-- A number with a sign has a number without one behind it. -/
theorem length_number? {l rest : List Char} {v : Value} (h : number? l = some (v, rest)) :
    rest.length < l.length := by
  unfold number? at h
  split at h
  · have := length_unsignedNumber? h
    simp only [List.length_cons]
    omega
  · exact length_unsignedNumber? h

/-- A literal is as long as its word. -/
theorem length_literal? {word : String} {l rest : List Char} (hw : word.toList ≠ [])
    (h : literal? word l = some rest) : rest.length < l.length := by
  unfold literal? at h
  split at h
  · next hp =>
    obtain ⟨t, rfl⟩ := List.isPrefixOf_iff_prefix.1 hp
    have := List.length_pos_iff.2 hw
    simp only [List.drop_left, Option.some.injEq] at h
    subst h
    simp only [List.length_append]
    omega
  · cases h

/-- A token takes at least one character. -/
theorem length_token? {l rest : List Char} {t : Token} (h : token? l = some (t, rest)) :
    rest.length < l.length := by
  unfold token? at h
  split at h
  · cases h
  · simp_all
  · simp_all
  · simp_all
  · simp_all
  · simp_all
  · simp_all
  · simp only [Option.map_eq_some_iff, Prod.exists, Prod.mk.injEq] at h
    obtain ⟨_, _, hs, _, rfl⟩ := h
    have := length_stringFrom? hs
    simp only [List.length_cons]
    omega
  · simp only [Option.map_eq_some_iff, Prod.mk.injEq] at h
    obtain ⟨_, hs, _, rfl⟩ := h
    exact length_literal? (by decide) hs
  · simp only [Option.map_eq_some_iff, Prod.mk.injEq] at h
    obtain ⟨_, hs, _, rfl⟩ := h
    exact length_literal? (by decide) hs
  · simp only [Option.map_eq_some_iff, Prod.mk.injEq] at h
    obtain ⟨_, hs, _, rfl⟩ := h
    exact length_literal? (by decide) hs
  · simp only [Option.map_eq_some_iff, Prod.exists, Prod.mk.injEq] at h
    obtain ⟨_, _, hs, _, rfl⟩ := h
    exact length_number? hs

/-- The tokens of a text, after those read so far in reverse. -/
def tokensFrom? (passed : List Token) (l : List Char) : Option (List Token) :=
  match l with
  | [] => some passed.reverse
  | c :: rest =>
    if isSpace c then tokensFrom? passed rest
    else
      match _h : token? (c :: rest) with
      | none => none
      | some (t, rest) => tokensFrom? (t :: passed) rest
termination_by l.length
decreasing_by
  · simp
  · exact length_token? _h

/-- The tokens of a text, if it consists of tokens and blanks. -/
def tokens? (l : List Char) : Option (List Token) := tokensFrom? [] l

end GatewayConfig.Json
