import GatewayConfig.Proofs.Store.Reading

/-!
# How documents lie in the store

Distinct documents stand under distinct keys, and a record is read back from its stored form.
-/

namespace GatewayConfig.Store

/-- Different reference documents have different keys, whatever their identifiers hold. -/
theorem referenceKey_inj {id id' : String} : referenceKey id = referenceKey id' ↔ id = id' := by
  constructor
  · intro h
    have hlist := congrArg String.toList h
    simp only [referenceKey, String.toList_append] at hlist
    exact String.toList_inj.1 (List.append_cancel_left hlist)
  · exact congrArg referenceKey

/-- The address in a key has a fixed length, so the id is what stands behind it. -/
theorem linkKey_inj {mac mac' : Mac} {id id' : String} :
    linkKey mac id = linkKey mac' id' ↔ mac = mac' ∧ id = id' := by
  constructor
  · intro h
    have hlist := congrArg String.toList h
    simp only [linkKey, String.toList_append, List.append_assoc] at hlist
    have hlength : mac.text.toList.length = mac'.text.toList.length :=
      mac.canonical.1.trans mac'.canonical.1.symm
    obtain ⟨htext, hid⟩ := List.append_inj (List.append_cancel_left hlist) hlength
    have hmac : mac.text = mac'.text := String.toList_inj.1 htext
    refine ⟨?_, String.toList_inj.1 (List.append_cancel_left hid)⟩
    cases mac
    cases mac'
    cases hmac
    rfl
  · rintro ⟨rfl, rfl⟩
    rfl

/-- Reference documents and links are kept apart. -/
theorem referenceKey_ne_linkKey (target : String) (mac : Mac) (id : String) :
    referenceKey target ≠ linkKey mac id := by
  intro h
  have hlist := congrArg String.toList h
  simp [referenceKey, linkKey] at hlist

/-- A record is read back when its version fits the length byte. -/
theorem decode_encode {r : Record} (h : (Bytes.ofText r.version.token).length ≤ 255) :
    Record.decode r.encode = .ok r := by
  obtain ⟨⟨token⟩, payload⟩ := r
  have htake : (Bytes.ofText token).take 255 = Bytes.ofText token := List.take_of_length_le h
  have hbyte : (UInt8.ofNat (Bytes.ofText token).length).toNat = (Bytes.ofText token).length := by
    rw [UInt8.toNat_ofNat', Nat.mod_eq_of_lt (Nat.lt_succ_of_le h)]
  cases payload with
  | inline bytes =>
    simp only [Record.encode, Record.decode, htake, hbyte, List.length_append, List.take_left,
      List.drop_left, Bytes.text?_ofText, Record.decodePayload]
    rw [if_neg (by omega), if_pos trivial]
  | reference id =>
    simp only [Record.encode, Record.decode, htake, hbyte, List.length_append, List.take_left,
      List.drop_left, Bytes.text?_ofText, Record.decodePayload]
    rw [if_neg (by omega), if_neg (by decide), if_pos trivial]

/-- A link to bytes of its own is read as those bytes. -/
theorem resolve_of_inline {mac : Mac} {id : String} {s : State} {version : Version}
    {bytes : Bytes} (h : (Bytes.ofText version.token).length ≤ 255)
    (hf : s.backend.failing = false)
    (hget : s.backend.entries.get? (linkKey mac id) =
      some (Record.encode ⟨version, .inline bytes⟩)) :
    (record mac id s).1 = .ok (some ⟨version, .inline bytes⟩) ∧
      (resolve mac id s).1 = .ok (some ⟨id, version, bytes⟩) := by
  have hrecord : (record mac id s).1 = .ok (some ⟨version, .inline bytes⟩) := by
    rw [record_result, hf, hget]
    dsimp only
    rw [decode_encode h]
    rfl
  rw [resolve_result, hrecord]
  exact ⟨rfl, rfl⟩

end GatewayConfig.Store
