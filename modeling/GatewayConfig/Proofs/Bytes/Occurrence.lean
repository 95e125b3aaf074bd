import GatewayConfig.Bytes

/-!
# First occurrences

Where one byte string stands inside another, said without a scan. `cut?_eq_some_iff` says that the
scan of `Bytes.cut?` stops at the first such place, `firstAt_append_of_not_mem` when an appended
needle is the first one, and `firstAt_blankLine_append` that the first blank line is found line by
line.
-/

namespace GatewayConfig.Bytes

/-- The needle stands in the byte string with so many bytes before it. -/
def OccursAt (needle b : Bytes) (n : Nat) : Prop :=
  ∃ before after, b = before ++ needle ++ after ∧ before.length = n

/-- The needle stands there and nowhere before. -/
def FirstAt (needle b : Bytes) (n : Nat) : Prop :=
  OccursAt needle b n ∧ ∀ m, OccursAt needle b m → n ≤ m

/-- What occurs at the start is a prefix. -/
theorem occursAt_zero_iff {needle b : Bytes} : OccursAt needle b 0 ↔ needle <+: b := by
  constructor
  · rintro ⟨before, after, rfl, h⟩
    rw [List.eq_nil_of_length_eq_zero h]
    exact ⟨after, rfl⟩
  · rintro ⟨after, rfl⟩
    exact ⟨[], after, rfl, rfl⟩

/-- An occurrence further on is one in the rest. -/
theorem occursAt_cons_succ_iff {needle b : Bytes} {x : UInt8} {n : Nat} :
    OccursAt needle (x :: b) (n + 1) ↔ OccursAt needle b n := by
  constructor
  · rintro ⟨before, after, h, hl⟩
    obtain ⟨y, before, rfl⟩ := List.exists_cons_of_length_eq_add_one hl
    simp only [List.cons_append, List.cons.injEq] at h
    exact ⟨before, after, h.2, by simpa using hl⟩
  · rintro ⟨before, after, rfl, rfl⟩
    exact ⟨x :: before, after, rfl, rfl⟩

/-- Nothing comes before an occurrence at the start. -/
theorem firstAt_zero_iff {needle b : Bytes} : FirstAt needle b 0 ↔ needle <+: b := by
  simp [FirstAt, occursAt_zero_iff]

/-- Where there is no occurrence at the start, the first one is the first one of the rest. -/
theorem firstAt_cons_succ_iff {needle b : Bytes} {x : UInt8} {n : Nat}
    (h : ¬ needle <+: x :: b) : FirstAt needle (x :: b) (n + 1) ↔ FirstAt needle b n := by
  rw [FirstAt, FirstAt, occursAt_cons_succ_iff]
  refine and_congr_right fun _ => ⟨fun hm m ho => ?_, fun hm m ho => ?_⟩
  · have := hm (m + 1) (occursAt_cons_succ_iff.2 ho)
    omega
  · cases m with
    | zero => exact absurd (occursAt_zero_iff.1 ho) h
    | succ m =>
      have := hm m (occursAt_cons_succ_iff.1 ho)
      omega

/-- Scanning succeeds exactly at the first occurrence. -/
theorem cutAfter_eq_some_iff {separator passed b before after : Bytes} :
    cutAfter separator passed b = some (before, after) ↔
      ∃ u, before = passed.reverse ++ u ∧ b = u ++ separator ++ after ∧
        FirstAt separator b u.length := by
  induction b generalizing passed with
  | nil =>
    simp only [cutAfter, Option.ite_none_right_eq_some, Option.some.injEq, Prod.mk.injEq,
      List.isEmpty_iff]
    constructor
    · rintro ⟨rfl, rfl, rfl⟩
      exact ⟨[], by simp, rfl, firstAt_zero_iff.2 List.nil_prefix⟩
    · rintro ⟨u, rfl, h, -⟩
      simp only [List.nil_eq, List.append_eq_nil_iff] at h
      obtain ⟨⟨rfl, rfl⟩, rfl⟩ := h
      simp
  | cons x rest ih =>
    by_cases hp : separator <+: x :: rest
    · rw [cutAfter, if_pos (List.isPrefixOf_iff_prefix.2 hp)]
      simp only [Option.some.injEq, Prod.mk.injEq]
      constructor
      · rintro ⟨rfl, rfl⟩
        obtain ⟨t, ht⟩ := hp
        exact ⟨[], by simp, by simp [← ht], firstAt_zero_iff.2 ⟨t, ht⟩⟩
      · rintro ⟨u, rfl, h, hf⟩
        have hu : u = [] := by
          have := hf.2 0 (occursAt_zero_iff.2 hp)
          exact List.eq_nil_of_length_eq_zero (by omega)
        subst hu
        simp [h]
    · rw [cutAfter, if_neg (by rwa [List.isPrefixOf_iff_prefix]), ih]
      constructor
      · rintro ⟨u, rfl, rfl, hf⟩
        exact ⟨x :: u, by simp, rfl, (firstAt_cons_succ_iff hp).2 hf⟩
      · rintro ⟨u, rfl, h, hf⟩
        cases u with
        | nil => exact absurd (firstAt_zero_iff.1 hf) hp
        | cons y u =>
          simp only [List.cons_append, List.cons.injEq] at h
          obtain ⟨rfl, h⟩ := h
          exact ⟨u, by simp, h, (firstAt_cons_succ_iff hp).1 hf⟩

/-- A cut is made at the first occurrence of the separator, and only there. -/
theorem cut?_eq_some_iff {separator b before after : Bytes} :
    cut? separator b = some (before, after) ↔
      b = before ++ separator ++ after ∧ FirstAt separator b before.length := by
  rw [cut?, cutAfter_eq_some_iff]
  simp

/-- What begins with an element that it repeats nowhere is first found where it was appended, if it
was not there before. An occurrence that started earlier would end there too, or reach the element
that begins what was appended. -/
theorem firstAt_append_of_not_mem {x : UInt8} {tail b : Bytes} (hx : x ∉ tail)
    (hb : ¬ x :: tail <:+: b) (follow : Bytes) :
    FirstAt (x :: tail) (b ++ (x :: tail) ++ follow) b.length := by
  refine ⟨⟨b, follow, rfl, rfl⟩, fun m hm => Nat.le_of_not_lt fun hlt => ?_⟩
  obtain ⟨before, after, heq, rfl⟩ := hm
  rw [List.append_assoc, List.append_assoc] at heq
  obtain ⟨u, rfl, hu⟩ : ∃ u, b = before ++ u ∧
      (x :: tail) ++ after = u ++ ((x :: tail) ++ follow) := by
    rcases List.append_eq_append_iff.1 heq with ⟨u, hbefore, -⟩ | ⟨u, hb', hu⟩
    · rw [hbefore, List.length_append] at hlt
      omega
    · exact ⟨u, hb', hu⟩
  cases u with
  | nil => simp at hlt
  | cons y u =>
    obtain ⟨rfl, hrest⟩ := List.cons.inj hu
    rcases List.append_eq_append_iff.1 hrest with ⟨v, rfl, -⟩ | ⟨v, hv, hafter⟩
    · exact hb ⟨before, v, by simp⟩
    · cases v with
      | nil =>
        rw [List.append_nil] at hv
        exact hb ⟨before, [], by simp [hv]⟩
      | cons z v =>
        obtain ⟨rfl, -⟩ := List.cons.inj hafter
        exact hx (by simp [hv])

/-- The search finds exactly the byte strings that occur somewhere. -/
theorem occursIn_iff {needle b : Bytes} : needle.occursIn b = true ↔ needle <:+: b := by
  induction b with
  | nil => simp [occursIn]
  | cons x b ih =>
    rw [occursIn, Bool.or_eq_true, List.isPrefixOf_iff_prefix, ih, List.infix_cons_iff]

/-- Behind a line without a line end, the next line end is the one that ends it. -/
theorem crlf_append_cases {line rest before after : Bytes} (h : ¬ crlf <:+: line)
    (he : before ++ crlf ++ after = line ++ crlf ++ rest) :
    (before = line ∧ after = rest) ∨
      ∃ middle, before = line ++ crlf ++ middle ∧ middle ++ crlf ++ after = rest := by
  rw [List.append_assoc, List.append_assoc] at he
  rcases List.append_eq_append_iff.1 he with ⟨u, rfl, hu⟩ | ⟨u, rfl, hu⟩
  · match u, hu with
    | [], hu => exact .inl ⟨by simp, by simpa using hu⟩
    | [x], hu => simp [crlf] at hu
    | x :: y :: u, hu =>
      simp only [crlf, List.cons_append, List.nil_append, List.cons.injEq] at hu
      obtain ⟨rfl, rfl, -⟩ := hu
      exact absurd ⟨before, u, by simp [crlf]⟩ h
  · match u, hu with
    | [], hu => exact .inl ⟨by simp, by simpa using hu.symm⟩
    | [x], hu => simp [crlf] at hu
    | x :: y :: u, hu =>
      simp only [crlf, List.cons_append, List.nil_append, List.cons.injEq] at hu
      obtain ⟨rfl, rfl, rfl⟩ := hu
      exact .inr ⟨u, by simp [crlf], by simp [crlf]⟩

/-- Behind a line without a line end, a blank line follows at once or stands in the rest. -/
theorem occursAt_blankLine_cases {line rest : Bytes} {n : Nat} (h : ¬ crlf <:+: line)
    (ho : OccursAt (crlf ++ crlf) (line ++ crlf ++ rest) n) :
    (n = line.length ∧ crlf <+: rest) ∨
      ∃ m, n = line.length + 2 + m ∧ OccursAt (crlf ++ crlf) rest m := by
  obtain ⟨before, after, he, rfl⟩ := ho
  have he' : before ++ crlf ++ (crlf ++ after) = line ++ crlf ++ rest := by simpa using he.symm
  rcases crlf_append_cases h he' with ⟨rfl, hr⟩ | ⟨middle, rfl, hm⟩
  · exact .inl ⟨rfl, after, hr⟩
  · have hl : (line ++ crlf ++ middle).length = line.length + 2 + middle.length := by
      simp only [crlf, List.length_append, List.length_cons, List.length_nil]
    exact .inr ⟨middle.length, hl, middle, after, by simp [← hm], rfl⟩

/-- The blank line behind a line. -/
theorem firstAt_blankLine {line : Bytes} (h : ¬ crlf <:+: line) (rest : Bytes) :
    FirstAt (crlf ++ crlf) (line ++ crlf ++ crlf ++ rest) line.length := by
  refine ⟨⟨line, rest, by simp, rfl⟩, fun m ho => ?_⟩
  rw [List.append_assoc] at ho
  rcases occursAt_blankLine_cases h ho with ⟨rfl, -⟩ | ⟨k, rfl, -⟩
  · exact Nat.le_refl _
  · omega

/-- The first blank line is not moved by one more line in front. -/
theorem firstAt_blankLine_append {line rest : Bytes} {n : Nat} (h : ¬ crlf <:+: line)
    (hr : ¬ crlf <+: rest) (hf : FirstAt (crlf ++ crlf) rest n) :
    FirstAt (crlf ++ crlf) (line ++ crlf ++ rest) (line.length + 2 + n) := by
  obtain ⟨⟨before, after, rfl, rfl⟩, hmin⟩ := hf
  have hl : (line ++ crlf ++ before).length = line.length + 2 + before.length := by
    simp only [crlf, List.length_append, List.length_cons, List.length_nil]
  refine ⟨⟨line ++ crlf ++ before, after, by simp, hl⟩, fun m ho => ?_⟩
  rcases occursAt_blankLine_cases h ho with ⟨-, hp⟩ | ⟨k, rfl, hk⟩
  · exact absurd hp hr
  · have := hmin k hk
    omega

/-- A line end does not stand where a line that is neither empty nor starts with one begins. -/
theorem not_crlf_prefix_append {line : Bytes} (hne : line ≠ []) (h : ¬ crlf <+: line)
    (rest : Bytes) : ¬ crlf <+: line ++ crlf ++ rest := by
  rintro ⟨t, ht⟩
  match line with
  | [] => exact hne rfl
  | [x] => simp [crlf] at ht
  | x :: y :: line =>
    simp only [crlf, List.cons_append, List.nil_append, List.cons.injEq] at ht
    obtain ⟨rfl, rfl, -⟩ := ht
    exact h ⟨line, rfl⟩

end GatewayConfig.Bytes
