import GatewayConfig.Multipart.Encode

/-!
# The choice of a boundary

Boundaries are drawn until one is free. `encode_cases` says which of the drawn boundaries is used
and how many are drawn. The other results say so of a boundary that is known to be free, or is the
first free one, and of boundaries that are all taken.
-/

namespace GatewayConfig.Multipart

/-- The boundary made from the identifier at a position of the supply. -/
def boundaryAt (n : Nat) : String := (drawBoundary ⟨n⟩).1

/-- A boundary that is drawn is not empty. -/
theorem boundaryAt_ne_empty (n : Nat) : boundaryAt n ≠ "" := by
  have hne : ∀ s : String, "webcfg-" ++ s ≠ "" := by
    intro s hs
    have := congrArg String.toList hs
    simp at this
  exact hne _

/-- What holds of the prefix and of all digits holds of a drawn boundary. -/
theorem forall_mem_boundaryAt {P : Char → Prop} (hletter : ∀ c ∈ "webcfg-".toList, P c)
    (hdigit : ∀ k < 16, P (Nat.digitChar k)) (n : Nat) : ∀ c ∈ (boundaryAt n).toList, P c := by
  intro c hc
  rw [boundaryAt, drawBoundary, String.toList_append, List.mem_append] at hc
  rcases hc with hc | hc
  · exact hletter c hc
  · obtain ⟨k, hk, rfl⟩ := Bytes.exists_digitChar_of_mem_hex hc
    exact hdigit k hk

/-- A boundary that is not free is passed over for the next one. -/
theorem encodeWithin_succ (attempts : Nat) (parts : List Part) (n : Nat) :
    encodeWithin (attempts + 1) parts ⟨n⟩ =
      if isFree parts (boundaryAt n) then (encodeWith parts (boundaryAt n), ⟨n + 1⟩)
      else encodeWithin attempts parts ⟨n + 1⟩ := rfl

/-- With a free boundary the parts are framed. -/
theorem encodeWith_of_free {parts : List Part} {n : Nat}
    (h : isFree parts (boundaryAt n) = true) :
    encodeWith parts (boundaryAt n) =
      .ok ⟨boundaryAt n, writeBody (boundaryAt n) parts⟩ :=
  if_pos ⟨boundaryAt_ne_empty n, h⟩

/-- The first free boundary among those allowed is used, and no more are drawn. Without one, all
of them are drawn and nothing is encoded. -/
theorem encodeWithin_cases (attempts : Nat) (parts : List Part) (n : Nat) :
    (∃ i < attempts, (∀ j < i, isFree parts (boundaryAt (n + j)) = false) ∧
      isFree parts (boundaryAt (n + i)) = true ∧
      encodeWithin attempts parts ⟨n⟩ =
        (.ok ⟨boundaryAt (n + i), writeBody (boundaryAt (n + i)) parts⟩, ⟨n + i + 1⟩)) ∨
    ((∀ i < attempts, isFree parts (boundaryAt (n + i)) = false) ∧
      encodeWithin attempts parts ⟨n⟩ = (.error .boundaryExhausted, ⟨n + attempts⟩)) := by
  induction attempts generalizing n with
  | zero => exact .inr ⟨fun i hi => absurd hi (Nat.not_lt_zero i), rfl⟩
  | succ attempts ih =>
    rw [encodeWithin_succ]
    cases hfree : isFree parts (boundaryAt n) with
    | true =>
      refine .inl ⟨0, Nat.succ_pos attempts, fun j hj => absurd hj (Nat.not_lt_zero j), hfree, ?_⟩
      rw [if_pos rfl, encodeWith_of_free hfree]
      rfl
    | false =>
      have hshift : ∀ i, n + 1 + i = n + (i + 1) := by omega
      have hfirst : ∀ {k}, (∀ i < k, isFree parts (boundaryAt (n + 1 + i)) = false) →
          ∀ i < k + 1, isFree parts (boundaryAt (n + i)) = false := by
        intro k h i hi
        cases i with
        | zero => exact hfree
        | succ i => exact hshift i ▸ h i (Nat.lt_of_succ_lt_succ hi)
      rw [if_neg Bool.false_ne_true]
      rcases ih (n + 1) with ⟨i, hi, htaken, hf, he⟩ | ⟨htaken, he⟩
      · refine .inl ⟨i + 1, Nat.succ_lt_succ hi, hfirst htaken, ?_, ?_⟩
        · rw [← hshift, hf]
        · rw [he, hshift]
      · refine .inr ⟨hfirst htaken, ?_⟩
        rw [he, hshift]

/-- So it is with as many boundaries as an encoder may try. -/
theorem encode_cases (parts : List Part) (supply : UuidSupply) :
    (∃ i < boundaryAttempts,
      (∀ j < i, isFree parts (boundaryAt (supply.next + j)) = false) ∧
      isFree parts (boundaryAt (supply.next + i)) = true ∧
      encode parts supply =
        (.ok ⟨boundaryAt (supply.next + i), writeBody (boundaryAt (supply.next + i)) parts⟩,
          ⟨supply.next + i + 1⟩)) ∨
    ((∀ i < boundaryAttempts, isFree parts (boundaryAt (supply.next + i)) = false) ∧
      encode parts supply = (.error .boundaryExhausted, ⟨supply.next + boundaryAttempts⟩)) :=
  encodeWithin_cases boundaryAttempts parts supply.next

section Encode

variable {parts : List Part} {supply : UuidSupply}

/-- A free boundary is used when none before it is free. -/
theorem encode_of_first {i : Nat} (hi : i < boundaryAttempts)
    (htaken : ∀ j < i, isFree parts (boundaryAt (supply.next + j)) = false)
    (hfree : isFree parts (boundaryAt (supply.next + i)) = true) :
    encode parts supply =
      (.ok ⟨boundaryAt (supply.next + i), writeBody (boundaryAt (supply.next + i)) parts⟩,
        ⟨supply.next + i + 1⟩) := by
  rcases encode_cases parts supply with ⟨k, -, hbefore, hkfree, hencode⟩ | ⟨hnone, -⟩
  · have hle : i ≤ k := Nat.le_of_not_lt fun hlt => by
      rw [htaken k hlt] at hkfree
      cases hkfree
    have hge : k ≤ i := Nat.le_of_not_lt fun hlt => by
      rw [hbefore i hlt] at hfree
      cases hfree
    obtain rfl := Nat.le_antisymm hle hge
    exact hencode
  · rw [hnone i hi] at hfree
    cases hfree

/-- Nothing is encoded when every boundary that may be tried is taken. All of them are drawn. -/
theorem encode_of_taken
    (htaken : ∀ i < boundaryAttempts, isFree parts (boundaryAt (supply.next + i)) = false) :
    encode parts supply = (.error .boundaryExhausted, ⟨supply.next + boundaryAttempts⟩) := by
  rcases encode_cases parts supply with ⟨i, hi, -, hfree, -⟩ | ⟨-, hencode⟩
  · rw [htaken i hi] at hfree
    cases hfree
  · exact hencode

/-- With a free boundary there is a message, be it under that boundary or under one before it. -/
theorem exists_encode_of_free {i : Nat} (hi : i < boundaryAttempts)
    (hfree : isFree parts (boundaryAt (supply.next + i)) = true) :
    ∃ message, (encode parts supply).1 = .ok message := by
  rcases encode_cases parts supply with ⟨k, -, -, -, hencode⟩ | ⟨htaken, -⟩
  · rw [hencode]
    exact ⟨_, rfl⟩
  · rw [htaken i hi] at hfree
    cases hfree

end Encode

end GatewayConfig.Multipart
