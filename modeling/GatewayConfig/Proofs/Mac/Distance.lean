import GatewayConfig.Proofs.Mac.Spelling
import GatewayConfig.Proofs.Mac.Value
import Mathlib.Logic.Function.Basic

/-!
# Distances in words of 64 bits

The address at a distance is found by arithmetic on numbers. With words of 64 bits it takes four
steps, the first of which can fail: the digits are read into a word, the distance is added to it,
the lowest 48 bits are kept, and their digits are written with zeros in front. `offset_exact` says
that the digits of an address are always read, that the four steps give the same address, and that
distances add up and can be taken back.
-/

namespace GatewayConfig.Mac

/-- A word with one more hexadecimal digit behind it, unless the character is no digit or the
number does not fit. -/
def appendDigit? (word : UInt64) (c : Char) : Option UInt64 :=
  (Bytes.hexValue? c).bind fun digit =>
    if 16 * word.toNat + digit < 2 ^ 64 then some (UInt64.ofNat (16 * word.toNat + digit)) else none

/-- The word that a hexadecimal numeral denotes: a plus sign, which may be left out, and at least
one digit. -/
def word? (text : String) : Option UInt64 :=
  let digits := match text.toList with
    | '+' :: rest => rest
    | other => other
  if digits = [] then none else digits.foldlM appendDigit? 0

/-- A word in capital digits, with zeros in front of fewer than twelve. -/
def paddedText (word : UInt64) : String :=
  .ofList (((Nat.toDigits 16 word.toNat).map Char.toUpper).leftpad 12 '0')

/-- The text of the address at a distance, computed with words. Zero stands for a text that is no
numeral. -/
def offsetText (text : String) (delta : UInt64) : String :=
  paddedText (((word? text).getD 0 + delta) &&& 0xFFFFFFFFFFFF)

/-- The digits of addresses are those of the numbers below sixteen. -/
theorem exists_upperHexDigit {c : Char} (h : isUpperHexDigit c = true) :
    ∃ digit : Fin 16, c = upperHexDigit digit := by
  have hdigits : "0123456789ABCDEF".toList = List.ofFn upperHexDigit := by decide
  have hc := List.contains_iff_mem.1 h
  rw [hdigits, List.mem_ofFn] at hc
  obtain ⟨digit, rfl⟩ := hc
  exact ⟨digit, rfl⟩

section Digits

variable {l l' : List Char}

/-- So many digits denote a number below the power of sixteen. -/
theorem hexValue_lt (hl : ∀ c ∈ l, isUpperHexDigit c = true) : hexValue l < 16 ^ l.length := by
  induction l with
  | nil => decide
  | cons c l ih =>
    obtain ⟨hc, hrest⟩ := List.forall_mem_cons.1 hl
    obtain ⟨digit, rfl⟩ := exists_upperHexDigit hc
    have hlow := ih hrest
    have hhigh : (digit.val + 1) * 16 ^ l.length ≤ 16 * 16 ^ l.length :=
      Nat.mul_le_mul_right _ digit.isLt
    rw [hexValue_cons, hexValue?_upperHexDigit, Option.getD_some, List.length_cons, pow_succ']
    rw [Nat.succ_mul] at hhigh
    omega

/-- Of so many digits only one row denotes a number: the first digit is the quotient by the place
value, and the others make up the remainder. -/
theorem hexValue_inj (hlength : l.length = l'.length) (hl : ∀ c ∈ l, isUpperHexDigit c = true)
    (hl' : ∀ c ∈ l', isUpperHexDigit c = true) (h : hexValue l = hexValue l') : l = l' := by
  induction l generalizing l' with
  | nil => exact (List.length_eq_zero_iff.1 hlength.symm).symm
  | cons c l ih =>
    cases l' with
    | nil => cases hlength
    | cons c' l' =>
      obtain ⟨hc, hrest⟩ := List.forall_mem_cons.1 hl
      obtain ⟨hc', hrest'⟩ := List.forall_mem_cons.1 hl'
      obtain ⟨digit, rfl⟩ := exists_upperHexDigit hc
      obtain ⟨digit', rfl⟩ := exists_upperHexDigit hc'
      have htail : l.length = l'.length := Nat.succ.inj hlength
      have hlow := hexValue_lt hrest
      have hlow' := hexValue_lt hrest'
      rw [hexValue_cons, hexValue_cons, hexValue?_upperHexDigit, hexValue?_upperHexDigit,
        Option.getD_some, Option.getD_some, htail] at h
      rw [htail] at hlow
      have hpos : 0 < 16 ^ l'.length := Nat.pow_pos (by decide)
      have hdigit : digit.val = digit'.val := by
        have hquotient := congrArg (· / 16 ^ l'.length) h
        simp only [Nat.mul_comm _ (16 ^ l'.length), Nat.mul_add_div hpos,
          Nat.div_eq_of_lt hlow, Nat.div_eq_of_lt hlow', Nat.add_zero] at hquotient
        exact hquotient
      rw [hdigit] at h
      rw [Fin.ext hdigit, ih htail hrest hrest' (Nat.add_left_cancel h)]

/-- Zeros in front do not count. -/
theorem hexValue_replicate_append (count : Nat) (l : List Char) :
    hexValue (List.replicate count '0' ++ l) = hexValue l := by
  induction count with
  | zero => rfl
  | succ count ih =>
    have hzero : Bytes.hexValue? '0' = some 0 := by decide
    rw [List.replicate_succ, List.cons_append, hexValue_cons, ih, hzero, Option.getD_some,
      Nat.zero_mul, Nat.zero_add]

/-- A digit at the end counts once, and those before it sixteen times. -/
theorem hexValue_concat (l : List Char) (c : Char) :
    hexValue (l ++ [c]) = 16 * hexValue l + (Bytes.hexValue? c).getD 0 := by
  rw [hexValue, List.foldl_append]
  rfl

/-- The digits of a numeral are digits of an address, and they denote its number. -/
theorem hexValue_toDigits (n : Nat) :
    (∀ c ∈ (Nat.toDigits 16 n).map Char.toUpper, isUpperHexDigit c = true) ∧
      hexValue ((Nat.toDigits 16 n).map Char.toUpper) = n := by
  induction n using Nat.strongRecOn with
  | ind n ih =>
    have hdigit : (Nat.digitChar (n % 16)).toUpper = upperHexDigit (Fin.ofNat 16 n) := rfl
    rcases Nat.lt_or_ge n 16 with hsmall | hlarge
    · rw [Nat.mod_eq_of_lt hsmall] at hdigit
      rw [Nat.toDigits_of_lt_base hsmall, List.map_singleton, hdigit]
      refine ⟨?_, ?_⟩
      · simp only [List.mem_singleton, forall_eq, isUpperHexDigit_upperHexDigit]
      · rw [hexValue_cons, hexValue?_upperHexDigit]
        simp [hexValue, Nat.mod_eq_of_lt hsmall]
    · obtain ⟨hdigits, hvalue⟩ := ih (n / 16) (Nat.div_lt_self (by omega) (by decide))
      rw [Nat.toDigits_of_base_le (by decide) hlarge, List.map_append, List.map_singleton, hdigit]
      refine ⟨?_, ?_⟩
      · simp only [List.mem_append, List.mem_singleton]
        rintro c (hc | rfl)
        · exact hdigits c hc
        · exact isUpperHexDigit_upperHexDigit _
      · rw [hexValue_concat, hvalue, hexValue?_upperHexDigit]
        simp only [Fin.ofNat, Option.getD_some]
        omega

/-- Digits are read into a word as long as their number fits. -/
theorem exists_foldlM_appendDigit? (hl : ∀ c ∈ l, isUpperHexDigit c = true) (word : UInt64)
    (hfits : word.toNat * 16 ^ l.length + hexValue l < 2 ^ 64) :
    ∃ found, l.foldlM appendDigit? word = some found ∧
      found.toNat = word.toNat * 16 ^ l.length + hexValue l := by
  induction l generalizing word with
  | nil => exact ⟨word, rfl, by simp [hexValue]⟩
  | cons c l ih =>
    obtain ⟨hc, hrest⟩ := List.forall_mem_cons.1 hl
    obtain ⟨digit, rfl⟩ := exists_upperHexDigit hc
    have hsplit : word.toNat * 16 ^ (l.length + 1) +
          (digit.val * 16 ^ l.length + hexValue l) =
        (16 * word.toNat + digit.val) * 16 ^ l.length + hexValue l := by ring
    rw [List.length_cons, hexValue_cons, hexValue?_upperHexDigit, Option.getD_some, hsplit]
      at hfits ⊢
    have hnext : 16 * word.toNat + digit.val < 2 ^ 64 := by
      refine Nat.lt_of_le_of_lt ?_ hfits
      exact (Nat.le_mul_of_pos_right _ (Nat.pow_pos (by decide))).trans (Nat.le_add_right _ _)
    have hword : (UInt64.ofNat (16 * word.toNat + digit.val)).toNat =
        16 * word.toNat + digit.val := UInt64.toNat_ofNat_of_lt' hnext
    have happend : appendDigit? word (upperHexDigit digit) =
        some (UInt64.ofNat (16 * word.toNat + digit.val)) := by
      rw [appendDigit?, hexValue?_upperHexDigit, Option.bind_some, if_pos hnext]
    obtain ⟨found, hfound, hvalue⟩ :=
      ih hrest (UInt64.ofNat (16 * word.toNat + digit.val)) (by rwa [hword])
    refine ⟨found, ?_, by rw [hvalue, hword]⟩
    rw [List.foldlM_cons, happend]
    exact hfound

end Digits

/-- The text of an address has digits in capitals only. -/
theorem forall_mem_text (m : Mac) : ∀ c ∈ m.text.toList, isUpperHexDigit c = true :=
  List.all_eq_true.1 m.canonical.2

/-- Twelve digits are a number of 48 bits. -/
theorem value_lt (m : Mac) : m.value < 2 ^ 48 := by
  have h := hexValue_lt m.forall_mem_text
  rw [m.canonical.1] at h
  exact h

/-- An address is known by its number. -/
theorem value_inj {m m' : Mac} (h : m.value = m'.value) : m = m' := by
  refine text_inj.1 (String.toList_inj.1 ?_)
  exact hexValue_inj (m.canonical.1.trans m'.canonical.1.symm) m.forall_mem_text
    m'.forall_mem_text h

/-- The digits of an address are read into a word. -/
theorem exists_word? (m : Mac) : ∃ word, word? m.text = some word ∧ word.toNat = m.value := by
  have hlength := m.canonical.1
  have hdigits := m.forall_mem_text
  have hvalue : hexValue m.text.toList < 2 ^ 48 := m.value_lt
  obtain ⟨word, hword, hnumber⟩ := exists_foldlM_appendDigit? hdigits 0 (by
    rw [UInt64.toNat_zero, Nat.zero_mul, Nat.zero_add]
    omega)
  rw [UInt64.toNat_zero, Nat.zero_mul, Nat.zero_add] at hnumber
  refine ⟨word, ?_, hnumber⟩
  rw [word?]
  split
  next rest heq =>
    have hplus := hdigits '+' (heq ▸ List.mem_cons_self)
    cases hplus
  next =>
    rw [if_neg (by rintro hnil; rw [hnil] at hlength; cases hlength), hword]

/-- An address is the numeral of its number with zeros in front. -/
theorem paddedText_eq {m : Mac} {word : UInt64} (h : word.toNat = m.value) :
    paddedText word = m.text := by
  obtain ⟨hdigits, hvalue⟩ := hexValue_toDigits word.toNat
  have hshort : (Nat.toDigits 16 word.toNat).length ≤ 12 := by
    rw [Nat.length_toDigits_le_iff (by decide) (by decide), h]
    exact m.value_lt
  refine String.toList_inj.1 ?_
  rw [paddedText, String.toList_ofList]
  refine hexValue_inj ?_ ?_ m.forall_mem_text ?_
  · rw [List.length_leftpad, List.length_map, m.canonical.1, Nat.max_eq_left hshort]
  · intro c hc
    rcases List.mem_append.1 hc with hc | hc
    · rw [List.eq_of_mem_replicate hc]
      decide
    · exact hdigits c hc
  · rw [List.leftpad, hexValue_replicate_append, hvalue, h, value]

/-- Keeping the lowest 48 bits of a sum adds modulo 2^48. -/
theorem toNat_add_and (word delta : UInt64) :
    ((word + delta) &&& 0xFFFFFFFFFFFF).toNat = (word.toNat + delta.toNat) % 2 ^ 48 := by
  have hmask : (0xFFFFFFFFFFFF : UInt64).toNat = 2 ^ 48 - 1 := by decide
  rw [UInt64.toNat_and, UInt64.toNat_add, hmask, Nat.and_two_pow_sub_one_eq_mod]
  omega

/-- Words give the address at the distance. -/
theorem offsetText_eq (m : Mac) (delta : UInt64) :
    offsetText m.text delta = (m.offset delta).text := by
  obtain ⟨word, hword, hvalue⟩ := m.exists_word?
  rw [offsetText, hword, Option.getD_some]
  exact paddedText_eq (by rw [toNat_add_and, hvalue, value_offset])

/-- Distances add up, with wrap-around. -/
theorem offset_offset (m : Mac) (a b : UInt64) : (m.offset a).offset b = m.offset (a + b) := by
  refine value_inj ?_
  rw [value_offset, value_offset, value_offset, UInt64.toNat_add]
  omega

/-- An address is at no distance from itself. -/
theorem offset_zero (m : Mac) : m.offset 0 = m := by
  refine value_inj ?_
  rw [value_offset, UInt64.toNat_zero, Nat.add_zero, Nat.mod_eq_of_lt m.value_lt]

/-- Every address is at the distance from exactly one address. -/
theorem offset_bijective (delta : UInt64) : Function.Bijective fun m : Mac => m.offset delta := by
  constructor
  · intro m m' h
    have hback := congrArg (fun m : Mac => m.offset (-delta)) h
    simpa only [offset_offset, UInt64.add_right_neg, offset_zero] using hback
  · intro m
    refine ⟨m.offset (-delta), ?_⟩
    simp only [offset_offset, UInt64.add_left_neg, offset_zero]

/-- Twelve bytes that are hexadecimal digits, and nothing else, are read as an address, two of them
as one address when they agree up to case, and its own text as the address again. The address at a
distance is an address with its number moved by the distance modulo 2^48. Words of 64 bits give the
same address, and the digits of an address are always read. Distances add up modulo 2^64, and going
any distance is a bijection. -/
theorem offset_exact :
    (∀ raw, (∃ m, parse raw = .ok m) ↔
      (Bytes.ofText raw).length = 12 ∧ ∀ x ∈ Bytes.ofText raw, IsHexByte x) ∧
    (∀ raw raw' m m', parse raw = .ok m → parse raw' = .ok m' →
      (m = m' ↔ Text.sameIgnoringCase raw raw' = true)) ∧
    (∀ m : Mac, parse m.text = .ok m) ∧
    (∀ (m : Mac) (a : UInt64),
      (∃ word, word? m.text = some word ∧ word.toNat = m.value) ∧
      (m.offset a).text = offsetText m.text a ∧
      ((m.offset a).text.toList.length = 12 ∧
        ∀ c ∈ (m.offset a).text.toList, isUpperHexDigit c = true) ∧
      parse (m.offset a).text = .ok (m.offset a) ∧
      (m.offset a).value = (m.value + a.toNat) % 2 ^ 48 ∧
      ∀ b, (m.offset a).offset b = m.offset (a + b)) ∧
    ∀ a, Function.Bijective fun m : Mac => m.offset a := by
  refine ⟨parses_iff, fun _ _ _ _ => parse_eq_iff, parse_text, fun m a => ?_, offset_bijective⟩
  exact ⟨m.exists_word?, (offsetText_eq m a).symm,
    ⟨(m.offset a).canonical.1, (m.offset a).forall_mem_text⟩, parse_text _, value_offset m a,
    offset_offset m a⟩

/-- The last address. -/
def last : Mac := ⟨"FFFFFFFFFFFF", by decide⟩

/-- Two spellings of the last address, and what lies behind it. -/
theorem offset_exact_last :
    parse "ffffFFFFffff" = .ok last ∧ parse "FFFFffffFFFF" = .ok last ∧
      Text.sameIgnoringCase "ffffFFFFffff" "FFFFffffFFFF" = true ∧
      (last.offset 2).text = "000000000001" ∧ (last.offset 2).value = 1 ∧
      (last.offset 2).offset 18446744073709551615 = last.offset 1 := by
  obtain ⟨-, hsame, -, hoffset, -⟩ := offset_exact
  obtain ⟨-, htext, -, -, hvalue, hadd⟩ := hoffset last 2
  have hfirst : parse "ffffFFFFffff" = .ok last := by decide +kernel
  have hsecond : parse "FFFFffffFFFF" = .ok last := by decide +kernel
  refine ⟨hfirst, hsecond, (hsame _ _ _ _ hfirst hsecond).1 rfl, ?_, ?_, hadd _⟩
  · rw [htext]
    decide +kernel
  · rw [hvalue]
    decide +kernel

end GatewayConfig.Mac
