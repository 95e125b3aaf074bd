import GatewayConfig.Bytes

/-!
# Characters and their bytes

A text is encoded character by character, and the first 128 characters are the bytes below 128, so
a search for such bytes in an encoded text finds characters of the text. `crlf_infix_ofText_iff`
says it of line ends.
-/

namespace GatewayConfig.Bytes

/-- The encoding of a text is made of those of its characters. -/
theorem ofText_ofList (l : List Char) :
    ofText (.ofList l) = l.flatMap String.utf8EncodeChar := by
  simp [ofText, List.utf8Encode]

/-- So it is for a text that is not given by its characters. -/
theorem ofText_eq_flatMap (s : String) : ofText s = s.toList.flatMap String.utf8EncodeChar := by
  rw [← ofText_ofList, String.ofList_toList]

/-- The first 128 characters are encoded by one byte each. -/
theorem utf8EncodeChar_eq_singleton {c : Char} (h : c.toNat < 128) :
    String.utf8EncodeChar c = [UInt8.ofNat c.toNat] := by
  have hv : c.val.toNat ≤ 0x7f := Nat.le_of_lt_succ h
  simp only [String.utf8EncodeChar, if_pos hv]
  rfl

/-- The bytes of any other character are all 128 or above. -/
theorem le_of_mem_utf8EncodeChar {c : Char} {x : UInt8} (h : 128 ≤ c.toNat)
    (hx : x ∈ String.utf8EncodeChar c) : 128 ≤ x.toNat := by
  have hv : ¬ c.val.toNat ≤ 0x7f := Nat.not_le_of_lt h
  revert hx
  simp only [String.utf8EncodeChar, if_neg hv]
  split
  · simp only [List.mem_cons, List.not_mem_nil, or_false]
    rintro (rfl | rfl) <;> rw [UInt8.toNat_ofNat'] <;> omega
  · split
    · simp only [List.mem_cons, List.not_mem_nil, or_false]
      rintro (rfl | rfl | rfl) <;> rw [UInt8.toNat_ofNat'] <;> omega
    · simp only [List.mem_cons, List.not_mem_nil, or_false]
      rintro (rfl | rfl | rfl | rfl) <;> rw [UInt8.toNat_ofNat'] <;> omega

/-- A byte below 128 in the encoding of a text is one of its characters. -/
theorem exists_of_flatMap_eq {l : List Char} {before after : Bytes} {x : UInt8}
    (hx : x.toNat < 128)
    (h : l.flatMap String.utf8EncodeChar = before ++ x :: after) :
    ∃ l₁ c l₂, l = l₁ ++ c :: l₂ ∧ c.toNat = x.toNat ∧
      l₁.flatMap String.utf8EncodeChar = before ∧ l₂.flatMap String.utf8EncodeChar = after := by
  induction l generalizing before with
  | nil => simp at h
  | cons c l ih =>
    rw [List.flatMap_cons] at h
    by_cases hc : c.toNat < 128
    · rw [utf8EncodeChar_eq_singleton hc] at h
      cases before with
      | nil =>
        obtain ⟨rfl, rfl⟩ := List.cons.inj h
        refine ⟨[], c, l, rfl, ?_, rfl, rfl⟩
        rw [UInt8.toNat_ofNat', Nat.mod_eq_of_lt (by omega)]
      | cons y before =>
        obtain ⟨rfl, hr⟩ := List.cons.inj h
        obtain ⟨l₁, d, l₂, rfl, hd, rfl, rfl⟩ := ih hr
        exact ⟨c :: l₁, d, l₂, rfl, hd, by simp [utf8EncodeChar_eq_singleton hc], rfl⟩
    · have hge := fun y => le_of_mem_utf8EncodeChar (x := y) (Nat.le_of_not_lt hc)
      rcases List.append_eq_append_iff.1 h with ⟨u, rfl, hu⟩ | ⟨u, hu, hv⟩
      · obtain ⟨l₁, d, l₂, rfl, hd, rfl, rfl⟩ := ih hu
        exact ⟨c :: l₁, d, l₂, rfl, hd, rfl, rfl⟩
      · cases u with
        | nil =>
          obtain ⟨l₁, d, l₂, rfl, hd, hb, rfl⟩ := @ih [] hv.symm
          refine ⟨c :: l₁, d, l₂, rfl, hd, ?_, rfl⟩
          simp [hb, hu]
        | cons y u =>
          obtain ⟨rfl, -⟩ := List.cons.inj hv
          have := hge x (hu ▸ by simp)
          omega

/-- A line end is encoded as its two bytes. -/
@[simp] theorem ofText_crlf : ofText "\r\n" = crlf := by
  decide

/-- Small characters at the start of an encoded text are its first characters. -/
theorem exists_of_flatMap_eq_append {l small : List Char} {after : Bytes}
    (hsmall : ∀ c ∈ small, c.toNat < 128)
    (h : l.flatMap String.utf8EncodeChar = small.flatMap String.utf8EncodeChar ++ after) :
    ∃ rest, l = small ++ rest ∧ rest.flatMap String.utf8EncodeChar = after := by
  induction small generalizing l with
  | nil => exact ⟨l, rfl, h⟩
  | cons c small ih =>
    obtain ⟨hc, hrest⟩ := List.forall_mem_cons.1 hsmall
    have hbyte : (UInt8.ofNat c.toNat).toNat = c.toNat := by
      rw [UInt8.toNat_ofNat', Nat.mod_eq_of_lt (by omega)]
    rw [List.flatMap_cons, utf8EncodeChar_eq_singleton hc, List.append_assoc,
      List.singleton_append, ← List.nil_append (_ :: _)] at h
    obtain ⟨l₁, d, l₂, rfl, hd, hbefore, hafter⟩ := exists_of_flatMap_eq (by rwa [hbyte]) h
    obtain rfl : d = c := Char.toNat_inj.1 (hd.trans hbyte)
    obtain rfl : l₁ = [] := by
      cases l₁ with
      | nil => rfl
      | cons e l₁ => simp at hbefore
    obtain ⟨rest, rfl, hend⟩ := ih hrest hafter
    exact ⟨rest, rfl, hend⟩

/-- A text of small characters occurs in the encoding of another where it occurs in the text. -/
theorem infix_ofText_iff {part whole : String} (hpart : ∀ c ∈ part.toList, c.toNat < 128) :
    ofText part <:+: ofText whole ↔ part.toList <:+: whole.toList := by
  rw [ofText_eq_flatMap, ofText_eq_flatMap]
  constructor
  · rintro ⟨before, after, h⟩
    revert hpart h
    cases part.toList with
    | nil => exact fun _ _ => List.nil_infix
    | cons c small =>
      intro hpart h
      obtain ⟨hc, hsmall⟩ := List.forall_mem_cons.1 hpart
      have hbyte : (UInt8.ofNat c.toNat).toNat = c.toNat := by
        rw [UInt8.toNat_ofNat', Nat.mod_eq_of_lt (by omega)]
      rw [List.flatMap_cons, utf8EncodeChar_eq_singleton hc, List.append_assoc, List.append_assoc,
        List.singleton_append] at h
      obtain ⟨l₁, d, l₂, hwhole, hd, -, hrest⟩ := exists_of_flatMap_eq (by rwa [hbyte]) h.symm
      obtain rfl : d = c := Char.toNat_inj.1 (hd.trans hbyte)
      obtain ⟨l₃, rfl, -⟩ := exists_of_flatMap_eq_append hsmall hrest
      exact ⟨l₁, l₃, by simp [hwhole]⟩
  · rintro ⟨before, after, h⟩
    rw [← h, List.flatMap_append, List.flatMap_append]
    exact ⟨_, _, rfl⟩

/-- A line end in the encoding of a text is a carriage return and a line feed of the text. -/
theorem crlf_infix_ofText_iff {s : String} :
    crlf <:+: ofText s ↔ ['\r', '\n'] <:+: s.toList := by
  rw [← ofText_crlf, infix_ofText_iff (by simp)]
  rfl

end GatewayConfig.Bytes
