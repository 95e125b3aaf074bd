import GatewayConfig.Proofs.Mac
import GatewayConfig.Proofs.Version

/-!
# Accepted spellings

An address is spelled with twelve bytes, each of them a hexadecimal digit in either case
(`parses_iff`). Two spellings of one address differ in the case of their letters only
(`parse_eq_iff`), and the text of an address is one of its spellings (`parse_text`).
-/

namespace GatewayConfig

namespace Text

/-- Case is a matter of the first 128 characters. -/
theorem toUpper_eq_self {c : Char} (h : 128 ≤ c.toNat) : c.toUpper = c := by
  refine dif_neg ?_
  rintro ⟨-, hle⟩
  have hle' : c.toNat ≤ 122 := UInt32.le_iff_toNat_le.1 hle
  omega

/-- Small letters are made of ASCII capitals alone. -/
theorem toLower_eq_self {c : Char} (h : 128 ≤ c.toNat) : c.toLower = c := by
  refine dif_neg ?_
  rintro ⟨-, hle⟩
  have hle' : c.toNat ≤ 90 := UInt32.le_iff_toNat_le.1 hle
  omega

/-- Small and capital letters change into each other. -/
theorem toLower_toUpper (c : Char) :
    c.toUpper.toLower = c.toLower ∧ c.toLower.toUpper = c.toUpper := by
  rcases Nat.lt_or_ge c.toNat 128 with h | h
  · have hall : ∀ n < 128, (Char.ofNat n).toUpper.toLower = (Char.ofNat n).toLower ∧
        (Char.ofNat n).toLower.toUpper = (Char.ofNat n).toUpper := by decide
    have hc := hall c.toNat h
    rwa [Char.ofNat_toNat] at hc
  · rw [toUpper_eq_self h, toLower_eq_self h, toUpper_eq_self h]
    exact ⟨rfl, rfl⟩

/-- Texts that are the same in capitals are the same up to case. -/
theorem upper_eq_iff {s t : String} : upper s = upper t ↔ sameIgnoringCase s t = true := by
  have hlower : ∀ s : String, lower (upper s) = lower s := by
    intro s
    simp only [lower, upper, String.toList_ofList, List.map_map]
    congr 2
    exact funext fun c => (toLower_toUpper c).1
  have hupper : ∀ s : String, upper (lower s) = upper s := by
    intro s
    simp only [lower, upper, String.toList_ofList, List.map_map]
    congr 2
    exact funext fun c => (toLower_toUpper c).2
  rw [sameIgnoringCase, beq_iff_eq]
  constructor
  · intro h
    rw [← hlower s, h, hlower t]
  · intro h
    rw [← hupper s, h, hupper t]

end Text

/-- Whether a byte is an ASCII hexadecimal digit, in either case. -/
def IsHexByte (x : UInt8) : Prop :=
  48 ≤ x ∧ x ≤ 57 ∨ 65 ≤ x ∧ x ≤ 70 ∨ 97 ≤ x ∧ x ≤ 102

instance (x : UInt8) : Decidable (IsHexByte x) := inferInstanceAs (Decidable (_ ∨ _))

/-- A hexadecimal digit is a character of one byte. -/
theorem isHexDigit_iff {c : Char} :
    isHexDigit c = true ↔ c.toNat < 128 ∧ IsHexByte (UInt8.ofNat c.toNat) := by
  have hsmall : ∀ n < 128, isHexDigit (Char.ofNat n) = true ↔ IsHexByte (UInt8.ofNat n) := by
    decide +kernel
  rcases Nat.lt_or_ge c.toNat 128 with h | h
  · have hc := hsmall c.toNat h
    rw [Char.ofNat_toNat] at hc
    rw [hc, and_iff_right h]
  · have hdigits : ("0123456789abcdefABCDEF".toList.all fun d => d.toNat < 128) = true := by decide
    constructor
    · intro hc
      have hlt := List.all_eq_true.1 hdigits c (List.contains_iff_mem.1 hc)
      exact absurd (of_decide_eq_true hlt) (Nat.not_lt_of_le h)
    · exact fun hc => absurd hc.1 (Nat.not_lt_of_le h)

/-- Bytes below 128 encode characters below 128. -/
theorem Bytes.toNat_lt_of_ofText {s : String} (h : ∀ x ∈ Bytes.ofText s, x.toNat < 128) :
    ∀ c ∈ s.toList, c.toNat < 128 := by
  intro c hc
  refine Nat.lt_of_not_le fun hle => ?_
  obtain ⟨x, hx⟩ := List.exists_mem_of_ne_nil _ (String.utf8EncodeChar_ne_nil (c := c))
  have hbyte : x ∈ Bytes.ofText s := by
    rw [Bytes.ofText_eq_flatMap]
    exact List.mem_flatMap.2 ⟨c, hc, hx⟩
  have hge := Bytes.le_of_mem_utf8EncodeChar hle hx
  have hlt := h x hbyte
  omega

namespace Mac

/-- A text is an address when it has twelve bytes and each of them is a hexadecimal digit. -/
theorem isValid_iff {raw : String} :
    isValid raw = true ↔
      (Bytes.ofText raw).length = 12 ∧ ∀ x ∈ Bytes.ofText raw, IsHexByte x := by
  rw [isValid, Bool.and_eq_true, beq_iff_eq, List.all_eq_true]
  constructor
  · rintro ⟨hlength, hdigits⟩
    have hsmall : ∀ c ∈ raw.toList, c.toNat < 128 := fun c hc =>
      (isHexDigit_iff.1 (hdigits c hc)).1
    refine ⟨(Bytes.length_ofText hsmall).trans hlength, fun x hx => ?_⟩
    rw [Bytes.ofText_eq_flatMap, List.mem_flatMap] at hx
    obtain ⟨c, hc, hx⟩ := hx
    rw [Bytes.utf8EncodeChar_eq_singleton (hsmall c hc), List.mem_singleton] at hx
    rw [hx]
    exact (isHexDigit_iff.1 (hdigits c hc)).2
  · rintro ⟨hlength, hbytes⟩
    have hlow : ∀ x : UInt8, IsHexByte x → x.toNat < 128 := by
      intro x hx
      simp only [IsHexByte, UInt8.le_iff_toNat_le] at hx
      have hsmall : (57 : UInt8).toNat < 128 ∧ (70 : UInt8).toNat < 128 ∧
          (102 : UInt8).toNat < 128 := by decide
      omega
    have hsmall := Bytes.toNat_lt_of_ofText fun x hx => hlow x (hbytes x hx)
    refine ⟨(Bytes.length_ofText hsmall).symm.trans hlength, fun c hc => ?_⟩
    exact isHexDigit_iff.2 ⟨hsmall c hc, hbytes _ ((Bytes.mem_ofText_iff (hsmall c hc)).2 hc)⟩

/-- An address is read from twelve bytes that are hexadecimal digits, and from nothing else. -/
theorem parses_iff (raw : String) :
    (∃ m, parse raw = .ok m) ↔
      (Bytes.ofText raw).length = 12 ∧ ∀ x ∈ Bytes.ofText raw, IsHexByte x := by
  rw [← isValid_iff]
  constructor
  · rintro ⟨m, hm⟩
    exact (text_eq_of_parse hm).1
  · intro h
    rcases parse_cases raw with ⟨m, hm, -⟩ | ⟨-, hinvalid⟩
    · exact ⟨m, hm⟩
    · rw [h] at hinvalid
      cases hinvalid

/-- Two spellings are of one address when they agree up to case. -/
theorem parse_eq_iff {raw raw' : String} {m m' : Mac} (h : parse raw = .ok m)
    (h' : parse raw' = .ok m') : m = m' ↔ Text.sameIgnoringCase raw raw' = true := by
  rw [← text_inj, (text_eq_of_parse h).2, (text_eq_of_parse h').2, Text.upper_eq_iff]

/-- A digit of an address is a hexadecimal digit that is a capital already. -/
theorem isHexDigit_of_isUpperHexDigit {c : Char} (h : isUpperHexDigit c = true) :
    isHexDigit c = true ∧ c.toUpper = c := by
  have hall : ("0123456789ABCDEF".toList.all fun d => isHexDigit d && d.toUpper == d) = true := by
    decide
  have hc := List.all_eq_true.1 hall c (List.contains_iff_mem.1 h)
  rwa [Bool.and_eq_true, beq_iff_eq] at hc

/-- The text of an address is read as the address. -/
theorem parse_text (m : Mac) : parse m.text = .ok m := by
  have hdigits := List.all_eq_true.1 m.canonical.2
  have hvalid : isValid m.text = true := by
    rw [isValid, Bool.and_eq_true, beq_iff_eq, List.all_eq_true]
    exact ⟨m.canonical.1, fun c hc => (isHexDigit_of_isUpperHexDigit (hdigits c hc)).1⟩
  have hupper : Text.upper m.text = m.text := by
    have hmap : m.text.toList.map Char.toUpper = m.text.toList.map id :=
      List.map_congr_left fun c hc => (isHexDigit_of_isUpperHexDigit (hdigits c hc)).2
    rw [Text.upper, hmap, List.map_id, String.ofList_toList]
  rcases parse_cases m.text with ⟨found, hfound, -, htext⟩ | ⟨-, hinvalid⟩
  · rw [hfound, text_inj.1 (htext.trans hupper)]
  · rw [hvalid] at hinvalid
    cases hinvalid

end Mac

end GatewayConfig
