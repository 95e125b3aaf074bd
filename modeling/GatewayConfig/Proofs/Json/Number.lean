import GatewayConfig.Json.Token
import GatewayConfig.Json.Writer
import GatewayConfig.Proofs.Decimal.Shortest

/-!
# Numbers are read back

A written number is one token when no digit, point or exponent follows it. An integer is read back
as it is. A floating-point number is read as one of the format, though it may be a neighbour of the
one that was written, as its digits and its power of ten are rounded apart.
-/

namespace GatewayConfig.Json

open Decimal

/-- A number literal in parts. -/
structure Literal where
  /-- Whether it has a minus sign. -/
  negative : Bool
  /-- The digits before the point. -/
  whole : List Char
  /-- The digits after the point, if there is one. -/
  fraction : Option (List Char)
  /-- The exponent, if there is one, as a sign and digits. -/
  exponent : Option (Bool × List Char)

/-- Nothing follows that a number could go on with. -/
def EndsNumber (rest : List Char) : Prop :=
  ∀ c ∈ rest.head?, c.isDigit = false ∧ c ≠ '.' ∧ c ≠ 'e' ∧ c ≠ 'E'

/-- Digits, at least one. -/
structure IsDigits (ds : List Char) : Prop where
  /-- There is one. -/
  ne_nil : ds ≠ []
  /-- All are digits. -/
  isDigit : ∀ c ∈ ds, c.isDigit = true

/-- The digits of a number are digits, and there is one at least. -/
theorem isDigits_toDigits (n : Nat) : IsDigits (Nat.toDigits 10 n) :=
  ⟨Nat.toDigits_ne_nil, fun _ hc => Nat.isDigit_of_mem_toDigits (by norm_num) (by norm_num) hc⟩

/-- The text of a fraction. -/
def fractionChars : Option (List Char) → List Char
  | none => []
  | some ds => '.' :: ds

/-- The text of an exponent. -/
def exponentChars : Option (Bool × List Char) → List Char
  | none => []
  | some (negative, ds) => 'e' :: (if negative then '-' else '+') :: ds

namespace Literal

/-- The text of a literal after its sign. -/
def unsignedChars (l : Literal) : List Char :=
  l.whole ++ (fractionChars l.fraction ++ exponentChars l.exponent)

/-- The text of a literal. -/
def chars (l : Literal) : List Char := (if l.negative then ['-'] else []) ++ l.unsignedChars

/-- A literal in the form that JSON allows. -/
structure WellFormed (l : Literal) : Prop where
  /-- The digits before the point. -/
  whole : IsDigits l.whole
  /-- There are no zeros in front. -/
  noZeros : l.whole = ['0'] ∨ l.whole.head? ≠ some '0'
  /-- The digits after the point. -/
  fraction : ∀ ds ∈ l.fraction, IsDigits ds
  /-- The digits of the exponent. -/
  exponent : ∀ e ∈ l.exponent, IsDigits e.2

end Literal

/-- Digits are read up to what is none. -/
theorem spanDigits_append {ds rest : List Char} (hds : ∀ c ∈ ds, c.isDigit = true)
    (hrest : ∀ c ∈ rest.head?, c.isDigit = false) : spanDigits (ds ++ rest) = (ds, rest) := by
  rw [spanDigits, List.takeWhile_append_of_pos hds, List.dropWhile_append_of_pos hds]
  cases rest with
  | nil => rw [List.takeWhile_nil, List.append_nil, List.dropWhile_nil]
  | cons c rest =>
    have hc := hrest c rfl
    rw [List.takeWhile_cons_of_neg (by rw [hc]; exact Bool.false_ne_true),
      List.dropWhile_cons_of_neg (by rw [hc]; exact Bool.false_ne_true), List.append_nil]

/-- An integer part without a leading zero is read to its end. -/
theorem integerPart?_append {ds rest : List Char} (hds : IsDigits ds)
    (hzeros : ds = ['0'] ∨ ds.head? ≠ some '0') (hrest : ∀ c ∈ rest.head?, c.isDigit = false) :
    integerPart? (ds ++ rest) = some (ds, rest) := by
  rw [integerPart?, spanDigits_append hds.isDigit hrest]
  rcases hzeros with rfl | hzeros
  · rfl
  · obtain ⟨c, ds', rfl⟩ := List.exists_cons_of_ne_nil hds.ne_nil
    have hc : c ≠ '0' := fun h => hzeros (by rw [h]; rfl)
    split
    · simp_all
    · simp_all
    · simp_all
    · simp_all

/-- A fraction is read to its end, and where there is none, none is read. -/
theorem fractionPart?_append {fraction : Option (List Char)} {rest : List Char}
    (hds : ∀ ds ∈ fraction, IsDigits ds)
    (hrest : ∀ c ∈ rest.head?, c.isDigit = false ∧ c ≠ '.') :
    fractionPart? (fractionChars fraction ++ rest) = some (fraction, rest) := by
  cases fraction with
  | none =>
    rw [fractionChars, List.nil_append, fractionPart?.eq_def]
    split
    next tail => exact absurd rfl (hrest '.' rfl).2
    · rfl
  | some ds =>
    obtain ⟨hne, hdigits⟩ := hds ds rfl
    rw [fractionChars, List.cons_append, fractionPart?,
      spanDigits_append hdigits fun c hc => (hrest c hc).1]
    split
    next heq => exact absurd (Prod.mk.inj heq).1 hne
    next heq =>
      obtain ⟨rfl, rfl⟩ := Prod.mk.inj heq
      rfl

/-- An exponent is read to its end, and where there is none, none is read. -/
theorem exponentPart?_append {exponent : Option (Bool × List Char)} {rest : List Char}
    (hds : ∀ e ∈ exponent, IsDigits e.2) (hrest : EndsNumber rest) :
    exponentPart? (exponentChars exponent ++ rest) = some (exponent, rest) := by
  cases exponent with
  | none =>
    rw [exponentChars, List.nil_append]
    cases rest with
    | nil => rfl
    | cons c rest =>
      obtain ⟨-, -, hlower, hupper⟩ := hrest c rfl
      rw [exponentPart?, if_neg (by simp [hlower, hupper])]
  | some e =>
    obtain ⟨negative, ds⟩ := e
    obtain ⟨hne, hdigits⟩ := hds _ rfl
    have hspan := spanDigits_append hdigits fun c hc => (hrest c hc).1
    have hsign : exponentSign ((if negative then '-' else '+') :: (ds ++ rest)) =
        (negative, ds ++ rest) := by
      cases negative <;> rfl
    rw [exponentChars, List.cons_append, List.cons_append, exponentPart?, if_pos (.inl rfl), hsign]
    dsimp only
    rw [hspan]
    split
    next heq => exact absurd (Prod.mk.inj heq).1 hne
    next heq =>
      obtain ⟨rfl, rfl⟩ := Prod.mk.inj heq
      rfl

/-- What starts with an exponent, or with the end of a number, starts with neither a digit nor a
point. -/
theorem head?_exponentChars (exponent : Option (Bool × List Char)) {rest : List Char}
    (hrest : EndsNumber rest) :
    ∀ c ∈ (exponentChars exponent ++ rest).head?, c.isDigit = false ∧ c ≠ '.' := by
  cases exponent with
  | none => exact fun c hc => ⟨(hrest c hc).1, (hrest c hc).2.1⟩
  | some e =>
    intro c hc
    obtain rfl := Option.some.inj hc
    exact ⟨by decide, by decide⟩

/-- What starts with a fraction, or with no digit, starts with no digit. -/
theorem head?_fractionChars (fraction : Option (List Char)) {rest : List Char}
    (hrest : ∀ c ∈ rest.head?, c.isDigit = false) :
    ∀ c ∈ (fractionChars fraction ++ rest).head?, c.isDigit = false := by
  cases fraction with
  | none => exact hrest
  | some ds =>
    intro c hc
    obtain rfl := Option.some.inj hc
    decide

namespace Literal

variable {l : Literal} {rest : List Char}

/-- The characters of a literal without its sign are read to their end as the number that its parts
denote. -/
theorem unsignedNumber?_chars (h : l.WellFormed) (hrest : EndsNumber rest) :
    unsignedNumber? l.negative (l.unsignedChars ++ rest) =
      (numberOf? l.negative l.whole l.fraction l.exponent).map fun v => (v, rest) := by
  have hexponent := exponentPart?_append h.exponent hrest
  have hnext := head?_exponentChars l.exponent hrest
  have hfraction := fractionPart?_append h.fraction hnext
  have hwhole := integerPart?_append h.whole h.noZeros
    (head?_fractionChars l.fraction fun c hc => (hnext c hc).1)
  rw [unsignedChars, List.append_assoc, List.append_assoc, unsignedNumber?, hwhole]
  simp only [Option.bind_eq_bind, Option.bind_some, hfraction, hexponent]
  cases numberOf? l.negative l.whole l.fraction l.exponent <;> rfl

/-- A literal is read up to its end. One without a sign starts with a digit. -/
theorem number?_chars (h : l.WellFormed) (hrest : EndsNumber rest) :
    number? (l.chars ++ rest) =
      (numberOf? l.negative l.whole l.fraction l.exponent).map fun v => (v, rest) := by
  have hunsigned := unsignedNumber?_chars h hrest
  rw [chars]
  cases hneg : l.negative with
  | true =>
    rw [hneg] at hunsigned
    exact hunsigned
  | false =>
    rw [hneg] at hunsigned
    rw [if_neg Bool.false_ne_true, List.nil_append, number?.eq_def]
    split
    next tail heq =>
      obtain ⟨c, ds, hwhole⟩ := List.exists_cons_of_ne_nil h.whole.ne_nil
      have hdigit := h.whole.isDigit c (by rw [hwhole]; exact List.mem_cons_self)
      rw [unsignedChars, hwhole] at heq
      obtain ⟨rfl, -⟩ := List.cons.inj heq
      cases hdigit
    · exact hunsigned

/-- It starts with a digit or a minus sign. -/
theorem exists_cons_chars (h : l.WellFormed) :
    ∃ c tail, l.chars = c :: tail ∧ (c = '-' ∨ c.isDigit = true) := by
  obtain ⟨c, ds, hwhole⟩ := List.exists_cons_of_ne_nil h.whole.ne_nil
  have hdigit := h.whole.isDigit c (by rw [hwhole]; exact List.mem_cons_self)
  cases hneg : l.negative with
  | true => exact ⟨'-', l.unsignedChars, by rw [chars, hneg]; rfl, .inl rfl⟩
  | false => exact ⟨c, _, by rw [chars, hneg, unsignedChars, hwhole]; rfl, .inr hdigit⟩

end Literal

/-- What starts with a digit or a minus sign is read as a number. -/
theorem token?_of_number {c : Char} (hc : c = '-' ∨ c.isDigit = true) (tail : List Char) :
    token? (c :: tail) = (number? (c :: tail)).map fun (v, rest) => (.scalar v, rest) := by
  rw [token?.eq_def]
  split <;> simp_all

/-- The first digit of a positive number is not zero. -/
theorem head?_toDigits {n : Nat} (hn : 0 < n) : (Nat.toDigits 10 n).head? ≠ some '0' := by
  have hdigit : ∀ m < 10, 0 < m → Nat.digitChar m ≠ '0' := by decide
  induction n using Nat.strong_induction_on with
  | _ n ih =>
    rcases Nat.lt_or_ge n 10 with hless | hgreat
    · rw [Nat.toDigits_of_lt_base hless]
      exact fun h => hdigit n hless hn (Option.some.inj h)
    · rw [Nat.toDigits_of_base_le (by norm_num) hgreat,
        List.head?_append_of_ne_nil _ Nat.toDigits_ne_nil]
      exact ih (n / 10) (by omega) (by omega)

/-- The digits of a number do not start with a zero, but for zero itself. -/
theorem noZeros_toDigits (n : Nat) :
    Nat.toDigits 10 n = ['0'] ∨ (Nat.toDigits 10 n).head? ≠ some '0' := by
  rcases Nat.eq_zero_or_pos n with rfl | hn
  · exact .inl (by decide)
  · exact .inr (head?_toDigits hn)

/-- The literal of an integer. -/
def Literal.ofInteger (n : Int) : Literal :=
  ⟨decide (n < 0), Nat.toDigits 10 n.natAbs, none, none⟩

/-- An integer is written as its literal. -/
theorem Literal.chars_ofInteger (n : Int) : (Literal.ofInteger n).chars = writeInteger n := by
  rw [chars, unsignedChars, ofInteger, writeInteger, fractionChars, exponentChars, List.append_nil,
    List.append_nil]
  by_cases hneg : n < 0 <;> simp [hneg]

/-- The literal of an integer follows the grammar. -/
theorem Literal.wellFormed_ofInteger (n : Int) : (Literal.ofInteger n).WellFormed := by
  constructor
  case whole => exact isDigits_toDigits _
  case noZeros => exact noZeros_toDigits _
  case fraction => exact fun ds hds => by cases hds
  case exponent => exact fun e he => by cases he

/-- A number up to a limit is found again in its digits. -/
theorem numberUpTo_toDigits {limit n : Nat} (h : n ≤ limit) :
    Text.numberUpTo limit (Nat.toDigits 10 n) = n := by
  rw [Text.numberUpTo_eq, Nat.ofDigitChars_ten_toDigits]
  exact Nat.min_eq_right h

/-- An integer that fits 64 bits is read from its digits. -/
theorem numberOf?_integer {n : Int} (hlow : -2 ^ 63 ≤ n) (hhigh : n < 2 ^ 64) :
    numberOf? (decide (n < 0)) (Nat.toDigits 10 n.natAbs) none none = some (.integer n) := by
  have hless : n.natAbs < 2 ^ 64 := by omega
  have hnumber : Text.numberUpTo (Nat.pow 2 64) (Nat.toDigits 10 n.natAbs) = n.natAbs :=
    numberUpTo_toDigits hless.le
  rw [numberOf?, hnumber]
  by_cases hneg : n < 0
  · have hbits : n.natAbs ≤ 2 ^ 63 := by omega
    have hne : n.natAbs ≠ 0 := by omega
    have hsame : -(n.natAbs : Int) = n := by omega
    have htest : (decide (n < 0) && decide (n.natAbs ≠ 0) && decide (n.natAbs ≤ Nat.pow 2 63)) =
        true := by
      rw [decide_eq_true hneg, decide_eq_true hne, Bool.true_and, Bool.true_and]
      exact decide_eq_true hbits
    rw [if_pos htest, decide_eq_true hneg, hsame]
    rfl
  · have hsame : (n.natAbs : Int) = n := by omega
    have htest : (!decide (n < 0) && decide (n.natAbs < Nat.pow 2 64)) = true := by
      rw [decide_eq_false hneg]
      exact decide_eq_true hless
    rw [if_pos htest, hsame]

/-- A written integer is one token. -/
theorem token?_writeInteger {n : Int} (hlow : -2 ^ 63 ≤ n) (hhigh : n < 2 ^ 64) {rest : List Char}
    (hrest : EndsNumber rest) :
    token? (writeInteger n ++ rest) = some (.scalar (.integer n), rest) := by
  have hread := Literal.number?_chars (Literal.wellFormed_ofInteger n) hrest
  obtain ⟨c, tail, hchars, hc⟩ := Literal.exists_cons_chars (Literal.wellFormed_ofInteger n)
  have hvalue : numberOf? (Literal.ofInteger n).negative (Literal.ofInteger n).whole
      (Literal.ofInteger n).fraction (Literal.ofInteger n).exponent = some (.integer n) :=
    numberOf?_integer hlow hhigh
  rw [hvalue, hchars, List.cons_append] at hread
  rw [← Literal.chars_ofInteger, hchars, List.cons_append, token?_of_number hc, hread]
  rfl

/-- More digits make a number no smaller. -/
theorem le_ofDigitChars (ds : List Char) (n : Nat) : n ≤ Nat.ofDigitChars 10 ds n := by
  rw [Nat.ofDigitChars_eq_ofDigitChars_zero]
  exact (Nat.le_mul_of_pos_left n (Nat.pow_pos (by norm_num))).trans (Nat.le_add_right _ _)

/-- Digits that fit 64 bits are all read. -/
theorem absorbInteger_eq {ds : List Char} {n : Nat} (h : Nat.ofDigitChars 10 ds n < 2 ^ 64) :
    absorbInteger n ds = (Nat.ofDigitChars 10 ds n, 0) := by
  induction ds generalizing n with
  | nil => rfl
  | cons c ds ih =>
    rw [Nat.ofDigitChars_cons] at h ⊢
    have hnext : 10 * n + (c.toNat - '0'.toNat) < Nat.pow 2 64 := (le_ofDigitChars ds _).trans_lt h
    rw [absorbInteger, if_pos hnext, ih h]

/-- Digits of a fraction that leave the number within 64 bits are all used. -/
theorem absorbFraction_eq {ds : List Char} {n : Nat} (h : Nat.ofDigitChars 10 ds n < 2 ^ 64)
    (used : Nat) : absorbFraction n used ds = (Nat.ofDigitChars 10 ds n, used + ds.length) := by
  induction ds generalizing n used with
  | nil => rfl
  | cons c ds ih =>
    rw [Nat.ofDigitChars_cons] at h ⊢
    have hnext : 10 * n + (c.toNat - '0'.toNat) < Nat.pow 2 64 := (le_ofDigitChars ds _).trans_lt h
    rw [absorbFraction, if_pos hnext, ih h, List.length_cons, Nat.add_assoc, Nat.add_comm 1]

/-- The power of ten of a literal whose digits are all read. -/
def powerOf (fraction : List Char) (exponent : Option (Bool × List Char)) : Int :=
  let (negative, digits) := exponent.getD (false, [])
  let size := Text.numberUpTo 2147483648 digits
  if 2147483648 ≤ size then (if negative then -2147483648 else 2147483648)
  else -(fraction.length : Int) + (if negative then -(size : Int) else size)

/-- A literal whose digits fit 64 bits denotes these digits at its power of ten. -/
theorem floatOf?_eq {negative : Bool} {whole fraction : List Char}
    {exponent : Option (Bool × List Char)}
    (h : Nat.ofDigitChars 10 (whole ++ fraction) 0 < 2 ^ 64) :
    floatOf? negative whole fraction exponent =
      (Binary64.ofRatio? negative (Nat.ofDigitChars 10 (whole ++ fraction) 0) 1).bind
        fun f => f.ofDecimal? (powerOf fraction exponent) := by
  rw [Nat.ofDigitChars_append] at h ⊢
  have hwhole := absorbInteger_eq (n := 0) ((le_ofDigitChars fraction _).trans_lt h)
  have hfraction := absorbFraction_eq h 0
  have hpower : powerOf fraction exponent =
      (if 2147483648 ≤ Text.numberUpTo 2147483648 (exponent.getD (false, [])).2 then
        (if (exponent.getD (false, [])).1 then -2147483648 else 2147483648)
      else ((0 : Nat) : Int) - ((0 + fraction.length : Nat) : Int) +
        (if (exponent.getD (false, [])).1 then
          -(Text.numberUpTo 2147483648 (exponent.getD (false, [])).2 : Int)
        else Text.numberUpTo 2147483648 (exponent.getD (false, [])).2)) := by
    rw [Nat.cast_zero, zero_sub, zero_add]
    rfl
  rw [hpower, floatOf?, hwhole]
  dsimp only
  rw [hfraction]
  rfl

/-- The literal of a decimal. -/
def Literal.ofDigits (negative : Bool) (d : Digits) : Literal :=
  let digits := Nat.toDigits 10 d.digits
  let place : Int := digits.length + d.power
  if 0 ≤ d.power ∧ place ≤ 16 then
    ⟨negative, digits ++ List.replicate d.power.toNat '0', some ['0'], none⟩
  else if 0 < place ∧ place ≤ 16 then
    ⟨negative, digits.take place.toNat, some (digits.drop place.toNat), none⟩
  else if -5 < place ∧ place ≤ 0 then
    ⟨negative, ['0'], some (List.replicate (-place).toNat '0' ++ digits), none⟩
  else
    ⟨negative, digits.take 1, if digits.drop 1 = [] then none else some (digits.drop 1),
      some (decide (place - 1 < 0), Nat.toDigits 10 (place - 1).natAbs)⟩

/-- An exponent is written with its sign, which a positive one lacks. -/
theorem exponentChars_eq (n : Int) :
    exponentChars (some (decide (n < 0), Nat.toDigits 10 n.natAbs)) = writeExponent n := by
  rw [exponentChars, writeExponent, writeInteger]
  by_cases hneg : n < 0 <;> simp [hneg]

/-- A fraction without digits is not written. -/
theorem fractionChars_ite (ds : List Char) :
    fractionChars (if ds = [] then none else some ds) = if ds = [] then [] else '.' :: ds := by
  split <;> rfl

/-- Digits with a power of ten are written as their literal. -/
theorem Literal.chars_ofDigits (negative : Bool) (d : Digits) :
    (Literal.ofDigits negative d).chars =
      (if negative then ['-'] else []) ++ writeDigits d := by
  rw [chars, unsignedChars, ofDigits, writeDigits]
  dsimp only
  split
  · simp [fractionChars, exponentChars]
  split
  · simp [fractionChars, exponentChars]
  split
  · simp [fractionChars, exponentChars]
  · dsimp only
    rw [exponentChars_eq, fractionChars_ite, List.append_assoc]

namespace Literal

/-- The digits of a literal on both sides of the point, as a number. -/
def significand (l : Literal) : Nat := Nat.ofDigitChars 10 (l.whole ++ l.fraction.getD []) 0

/-- The power of ten of a literal. -/
def power (l : Literal) : Int := powerOf (l.fraction.getD []) l.exponent

/-- A literal that is read as a floating-point number. -/
structure Fits (l : Literal) : Prop where
  /-- It is one of JSON. -/
  wellFormed : l.WellFormed
  /-- It is not that of an integer. -/
  isFloat : l.fraction = none → l.exponent ≠ none
  /-- It has at most seventeen digits. -/
  digits : l.significand ≤ 10 ^ 17
  /-- It is within the format. -/
  within : 0 ≤ l.power → l.significand * 10 ^ l.power.toNat ≤ Binary64.readLimit ∨
    l.significand = 17976931348623157 ∧ l.power = 292

/-- The number that is read is one of the format. -/
theorem Fits.exists_float {l : Literal} (h : l.Fits) :
    ∃ f, numberOf? l.negative l.whole l.fraction l.exponent = some (.float f) ∧ f.Finite := by
  obtain ⟨g, f, hg, hf, hfinite⟩ := Binary64.exists_ofDecimal? l.negative h.digits h.within
  have hbits : l.significand < 2 ^ 64 := h.digits.trans_lt (by norm_num)
  have hread : floatOf? l.negative l.whole (l.fraction.getD []) l.exponent = some f := by
    rw [floatOf?_eq hbits]
    change (Binary64.ofRatio? l.negative l.significand 1).bind (fun f => f.ofDecimal? l.power) = _
    rw [hg, Option.bind_some, hf]
  refine ⟨f, ?_, hfinite⟩
  rw [numberOf?, hread]
  · rfl
  · exact h.isFloat

variable {negative : Bool} {d : Digits}

/-- Digits behind digits are digits. -/
theorem isDigits_append {ds ds' : List Char} (h : IsDigits ds) (h' : ∀ c ∈ ds', c.isDigit = true) :
    IsDigits (ds ++ ds') :=
  ⟨List.append_ne_nil_of_left_ne_nil h.ne_nil _, List.forall_mem_append.2 ⟨h.isDigit, h'⟩⟩

/-- Zeros are digits. -/
theorem isDigit_replicate (n : Nat) : ∀ c ∈ List.replicate n '0', c.isDigit = true := by
  intro c hc
  rw [List.eq_of_mem_replicate hc]
  rfl

/-- Without an exponent the power is that of the last digit. -/
theorem powerOf_none {fraction : List Char} : powerOf fraction none = -(fraction.length : Int) := by
  rw [powerOf, Option.getD_none]
  exact add_zero _

/-- An exponent is read up to the greatest power that is told apart. -/
theorem powerOf_exponent (fraction : List Char) (n : Int) :
    powerOf fraction (some (decide (n < 0), Nat.toDigits 10 n.natAbs)) =
      if 2147483648 ≤ n.natAbs then (if n < 0 then -2147483648 else 2147483648)
      else n - fraction.length := by
  have hsize : Text.numberUpTo 2147483648 (Nat.toDigits 10 n.natAbs) = min 2147483648 n.natAbs := by
    rw [Text.numberUpTo_eq, Nat.ofDigitChars_ten_toDigits]
  rw [powerOf, Option.getD_some]
  dsimp only
  rw [hsize]
  simp only [decide_eq_true_eq]
  split_ifs <;> omega

/-- A literal with a fraction and no exponent is within the format, as it has a negative power. -/
theorem fits_of_fraction {whole fraction : List Char} (hwhole : IsDigits whole)
    (hzeros : whole = ['0'] ∨ whole.head? ≠ some '0') (hfraction : IsDigits fraction)
    (hdigits : Nat.ofDigitChars 10 (whole ++ fraction) 0 ≤ 10 ^ 17) :
    Fits ⟨negative, whole, some fraction, none⟩ := by
  constructor
  case wellFormed =>
    refine ⟨hwhole, hzeros, fun ds hds => ?_, fun e he => by cases he⟩
    rwa [← Option.some.inj hds]
  case isFloat => exact fun h => by cases h
  case digits => exact hdigits
  case within =>
    intro hnonneg
    have hlength := List.length_pos_iff.2 hfraction.ne_nil
    rw [power, powerOf_none, Option.getD_some] at hnonneg
    omega

/-- A decimal without a fraction. -/
theorem fits_whole (hd : d.Legible) (hpower : 0 ≤ d.power)
    (hplace : ((Nat.toDigits 10 d.digits).length : Int) + d.power ≤ 16) :
    Fits ⟨negative, Nat.toDigits 10 d.digits ++ List.replicate d.power.toNat '0', some ['0'],
      none⟩ := by
  have hdigits := isDigits_toDigits d.digits
  refine fits_of_fraction (isDigits_append hdigits (isDigit_replicate _)) ?_
    ⟨List.cons_ne_nil _ _, isDigit_replicate 1⟩ ?_
  · rcases hd.positive with hpos | rfl
    · right
      rw [List.head?_append_of_ne_nil _ hdigits.ne_nil]
      exact head?_toDigits hpos
    · have hzero : Nat.toDigits 10 0 ++ List.replicate (0 : Int).toNat '0' = ['0'] := by decide
      exact .inl hzero
  · have hless : d.digits < 10 ^ (Nat.toDigits 10 d.digits).length := lt_pow_decimalLength d.digits
    have hpow : 10 ^ d.power.toNat * 10 ^ (Nat.toDigits 10 d.digits).length ≤ 10 ^ 16 := by
      rw [← pow_add]
      exact Nat.pow_le_pow_right (by norm_num) (by omega)
    have hvalue : 10 ^ d.power.toNat * d.digits ≤ 10 ^ 16 :=
      (Nat.mul_le_mul_left _ hless.le).trans hpow
    rw [Nat.ofDigitChars_append, Nat.ofDigitChars_append, Nat.ofDigitChars_ten_toDigits,
      Nat.ofDigitChars_replicate_zero]
    change 10 * (10 ^ d.power.toNat * d.digits) + 0 ≤ 10 ^ 17
    omega

/-- The power of ten of a decimal within the format leaves the exponent far from what is told
apart. -/
theorem power_lt (hd : d.Legible) (hpos : 0 < d.digits) :
    d.power + (Nat.toDigits 10 d.digits).length < 2147483648 := by
  have hlength : (Nat.toDigits 10 d.digits).length ≤ 18 :=
    (Nat.length_toDigits_le_iff (by norm_num) (by norm_num)).2
      (hd.digits.trans_lt (by norm_num))
  by_cases hnonneg : 0 ≤ d.power
  · rcases hd.within hnonneg with hsmall | hgreatest
    · have hless : d.power.toNat < 309 :=
        Binary64.lt_of_mul_pow_le hpos hsmall (by decide +kernel)
      omega
    · have hpower : d.power = 292 := by rw [hgreatest]
      omega
  · omega

/-- The first digits of a number can stand before the point. -/
theorem isDigits_take {n : Nat} (hn : 0 < n) (m : Nat) : IsDigits ((Nat.toDigits 10 m).take n) := by
  have hdigits := isDigits_toDigits m
  have hlength := List.length_pos_iff.2 hdigits.ne_nil
  refine ⟨?_, fun c hc => hdigits.isDigit c (List.mem_of_mem_take hc)⟩
  exact List.ne_nil_of_length_pos (by rw [List.length_take]; omega)

/-- The first digits of a positive number do not start with a zero. -/
theorem head?_take_toDigits {n m : Nat} (hn : 0 < n) (hm : 0 < m) :
    ((Nat.toDigits 10 m).take n).head? ≠ some '0' := by
  rw [List.head?_take, if_neg hn.ne']
  exact head?_toDigits hm

/-- The other digits can stand behind it. -/
theorem isDigits_drop {n m : Nat} (h : (Nat.toDigits 10 m).drop n ≠ []) :
    IsDigits ((Nat.toDigits 10 m).drop n) :=
  ⟨h, fun c hc => (isDigits_toDigits m).isDigit c (List.mem_of_mem_drop hc)⟩

/-- A decimal whose point stands between its digits. -/
theorem fits_split (hd : d.Legible) (hpower : d.power < 0) {n : Nat} (hn : 0 < n)
    (hplace : (n : Int) = (Nat.toDigits 10 d.digits).length + d.power) (hpos : 0 < d.digits) :
    Fits ⟨negative, (Nat.toDigits 10 d.digits).take n, some ((Nat.toDigits 10 d.digits).drop n),
      none⟩ := by
  have hrest : (Nat.toDigits 10 d.digits).drop n ≠ [] :=
    List.ne_nil_of_length_pos (by rw [List.length_drop]; omega)
  refine fits_of_fraction (isDigits_take hn _) (.inr (head?_take_toDigits hn hpos))
    (isDigits_drop hrest) ?_
  rw [List.take_append_drop, Nat.ofDigitChars_ten_toDigits]
  exact hd.digits

/-- A decimal with zeros between the point and its digits. -/
theorem fits_small (hd : d.Legible) (n : Nat) :
    Fits ⟨negative, ['0'], some (List.replicate n '0' ++ Nat.toDigits 10 d.digits), none⟩ := by
  have hdigits := isDigits_toDigits d.digits
  have hfraction : IsDigits (List.replicate n '0' ++ Nat.toDigits 10 d.digits) :=
    ⟨List.append_ne_nil_of_right_ne_nil _ hdigits.ne_nil,
      List.forall_mem_append.2 ⟨isDigit_replicate n, hdigits.isDigit⟩⟩
  refine fits_of_fraction ⟨List.cons_ne_nil _ _, isDigit_replicate 1⟩ (.inl rfl) hfraction ?_
  have hzeros : ['0'] ++ (List.replicate n '0' ++ Nat.toDigits 10 d.digits) =
      List.replicate (n + 1) '0' ++ Nat.toDigits 10 d.digits := rfl
  rw [hzeros, Nat.ofDigitChars_append, Nat.ofDigitChars_replicate_zero, Nat.mul_zero,
    Nat.ofDigitChars_ten_toDigits]
  exact hd.digits

/-- The literal of a number with the point behind its first digit, if there are more, and with an
exponent. -/
def scientific (negative : Bool) (m : Nat) (exponent : Int) : Literal where
  negative
  whole := (Nat.toDigits 10 m).take 1
  fraction :=
    if (Nat.toDigits 10 m).drop 1 = [] then none else some ((Nat.toDigits 10 m).drop 1)
  exponent := some (decide (exponent < 0), Nat.toDigits 10 exponent.natAbs)

/-- Its fraction has all digits but the first one, also where there is no other. -/
theorem fraction_scientific (m : Nat) (exponent : Int) :
    (scientific negative m exponent).fraction.getD [] = (Nat.toDigits 10 m).drop 1 := by
  rw [scientific]
  dsimp only
  split
  next hnil => rw [hnil]; rfl
  · rfl

/-- Its digits are those of the number. -/
theorem significand_scientific (m : Nat) (exponent : Int) :
    (scientific negative m exponent).significand = m := by
  rw [significand, fraction_scientific]
  change Nat.ofDigitChars 10 ((Nat.toDigits 10 m).take 1 ++ (Nat.toDigits 10 m).drop 1) 0 = m
  rw [List.take_append_drop, Nat.ofDigitChars_ten_toDigits]

/-- Its power of ten is the exponent less the digits behind the point, up to the greatest exponent
that is told apart. -/
theorem power_scientific (m : Nat) (exponent : Int) :
    (scientific negative m exponent).power =
      if 2147483648 ≤ exponent.natAbs then (if exponent < 0 then -2147483648 else 2147483648)
      else exponent - (((Nat.toDigits 10 m).length - 1 : Nat) : Int) := by
  rw [power, fraction_scientific, ← List.length_drop]
  exact powerOf_exponent _ exponent

/-- It follows the grammar unless the number is zero. -/
theorem wellFormed_scientific {m : Nat} (hm : 0 < m) (exponent : Int) :
    (scientific negative m exponent).WellFormed := by
  refine ⟨isDigits_take one_pos _, .inr (head?_take_toDigits one_pos hm), fun ds hds => ?_,
    fun e he => ?_⟩
  · rw [scientific] at hds
    dsimp only at hds
    split at hds
    · cases hds
    next hne =>
      rw [← Option.some.inj hds]
      exact isDigits_drop hne
  · rw [← Option.some.inj he]
    exact isDigits_toDigits _

/-- A decimal with an exponent. -/
theorem fits_scientific (hd : d.Legible) (hpos : 0 < d.digits) :
    Fits (scientific negative d.digits ((Nat.toDigits 10 d.digits).length + d.power - 1)) := by
  have hlength := List.length_pos_iff.2 (isDigits_toDigits d.digits).ne_nil
  constructor
  case wellFormed => exact wellFormed_scientific hpos _
  case isFloat => exact fun _ h => by cases h
  case digits => exact (significand_scientific _ _).le.trans hd.digits
  case within =>
    intro hnonneg
    rw [significand_scientific]
    rw [power_scientific] at hnonneg ⊢
    split_ifs at hnonneg ⊢ with hsize hneg
    · exact absurd hnonneg (by norm_num)
    · exact absurd (power_lt hd hpos) (by omega)
    · have hsame : ((Nat.toDigits 10 d.digits).length + d.power - 1 : Int) -
          (((Nat.toDigits 10 d.digits).length - 1 : Nat) : Int) = d.power := by omega
      rw [hsame] at hnonneg ⊢
      refine (hd.within hnonneg).imp_right fun h => ?_
      rw [h]
      exact ⟨rfl, rfl⟩

/-- The literal of a decimal that can be read is read. Zero is written without an exponent, so with
one the digits are positive. -/
theorem fits_ofDigits (hd : d.Legible) : (ofDigits negative d).Fits := by
  have hlength := List.length_pos_iff.2 (isDigits_toDigits d.digits).ne_nil
  rw [ofDigits]
  split
  next hwhole => exact fits_whole hd hwhole.1 hwhole.2
  next hwhole =>
  have hpos : 0 < d.digits := by
    refine hd.positive.resolve_right fun hzero => hwhole ?_
    rw [hzero]
    decide
  split
  next hsplit => exact fits_split hd (by omega) (by omega) (by omega) hpos
  split
  · exact fits_small hd _
  · exact fits_scientific hd hpos

end Literal

/-- The decimal that is written for a number. -/
def writtenDigits (f : Binary64) : Digits := if f.mantissa = 0 then ⟨0, 0⟩ else f.shortest

/-- The literal of a number. -/
def Literal.ofFloat (f : Binary64) : Literal := Literal.ofDigits f.negative (writtenDigits f)

/-- A floating-point number is written as its literal. -/
theorem Literal.chars_ofFloat (f : Binary64) : (Literal.ofFloat f).chars = writeFloat f := by
  have hzero : writeDigits ⟨0, 0⟩ = ['0', '.', '0'] := by decide
  rw [ofFloat, chars_ofDigits, writeFloat, writtenDigits, apply_ite writeDigits, hzero]

/-- The shortest digits of a number of the format are read within the format. -/
theorem legible_writtenDigits {f : Binary64} (h : f.Finite) : (writtenDigits f).Legible := by
  rw [writtenDigits]
  split
  · exact ⟨by norm_num, .inr rfl, fun _ => .inl (by norm_num)⟩
  next hne => exact Binary64.legible_shortest h hne

/-- What a number is read back as. -/
def reread (f : Binary64) : Binary64 :=
  let l := Literal.ofFloat f
  match numberOf? l.negative l.whole l.fraction l.exponent with
  | some (.float g) => g
  | _ => f

/-- A written number of the format is one token, of a number of the format. -/
theorem token?_writeFloat {f : Binary64} (h : f.Finite) {rest : List Char}
    (hrest : EndsNumber rest) :
    token? (writeFloat f ++ rest) = some (.scalar (.float (reread f)), rest) ∧
      (reread f).Finite := by
  have hfits : (Literal.ofFloat f).Fits := Literal.fits_ofDigits (legible_writtenDigits h)
  obtain ⟨g, hg, hfinite⟩ := hfits.exists_float
  have hreread : reread f = g := by
    rw [reread, hg]
  have hread := Literal.number?_chars hfits.wellFormed hrest
  obtain ⟨c, tail, hchars, hc⟩ := Literal.exists_cons_chars hfits.wellFormed
  rw [hg, hchars, List.cons_append] at hread
  refine ⟨?_, by rwa [hreread]⟩
  rw [← Literal.chars_ofFloat, hchars, List.cons_append, token?_of_number hc, hread, hreread]
  rfl

end GatewayConfig.Json
