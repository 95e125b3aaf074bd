import GatewayConfig.Proofs.Store.Layout

/-!
# The written forms of a link

A payload is sent as a link body and stored in a record. `Payload.ofLinkBody_eq_ok_iff` says that a
body is accepted when it is that of a payload, and that the payload has no other body. A record
whose version fits the length byte and its stored form determine each other too, and by
`Record.decode_eq_ok_iff_fits` nothing else is read as a record, so what stands under the key of a
link is either the stored form of one record or damaged. Nothing is said of a record with a longer
version: what is cut off when it is stored is lost.
-/

namespace GatewayConfig.Store

namespace Payload

/-- A link body is read as the payload whose body it is. Only a reference needs an id. -/
theorem ofLinkBody_eq_ok_iff {body : Bytes} {payload : Payload} :
    ofLinkBody body = .ok payload ↔ payload.toLinkBody = body ∧ payload ≠ .reference "" := by
  constructor
  · intro h
    rw [ofLinkBody] at h
    split at h
    · cases h
    · have hbody := List.take_append_drop 4 body
      split at h
      next hmarker =>
        cases htext : Bytes.text? (body.drop 4) with
        | none => rw [htext] at h; cases h
        | some id =>
          rw [htext] at h
          dsimp only at h
          split at h
          · cases h
          next hid =>
            obtain rfl := Except.ok.inj h
            refine ⟨?_, fun he => hid (Payload.reference.inj he)⟩
            rw [toLinkBody, ← Bytes.text?_eq_some_iff.1 htext, ← hmarker, hbody]
      · split at h
        next hmarker =>
          obtain rfl := Except.ok.inj h
          refine ⟨?_, fun he => by cases he⟩
          rw [toLinkBody, ← hmarker, hbody]
        · cases h
  · rintro ⟨rfl, hid⟩
    cases payload with
    | inline bytes => simp [ofLinkBody, toLinkBody, inlineMarker, referenceMarker]
    | reference id =>
      have hne : id ≠ "" := fun he => hid (congrArg Payload.reference he)
      simp [ofLinkBody, toLinkBody, referenceMarker, hne]

/-- The bodies that are accepted: bytes behind their marker, or a text that is not empty behind the
other one. -/
theorem exists_ofLinkBody_iff {body : Bytes} :
    (∃ payload, ofLinkBody body = .ok payload) ↔
      (∃ bytes, body = [0, 0, 0, 1] ++ bytes) ∨
        ∃ id, id ≠ "" ∧ body = [0, 0, 0, 0] ++ Bytes.ofText id := by
  simp only [ofLinkBody_eq_ok_iff]
  constructor
  · rintro ⟨payload, rfl, hid⟩
    cases payload with
    | inline bytes => exact .inl ⟨bytes, rfl⟩
    | reference id => exact .inr ⟨id, fun he => hid (congrArg Payload.reference he), rfl⟩
  · rintro (⟨bytes, rfl⟩ | ⟨id, hid, rfl⟩)
    · exact ⟨.inline bytes, rfl, fun he => by cases he⟩
    · exact ⟨.reference id, rfl, fun he => hid (Payload.reference.inj he)⟩

end Payload

/-- The tag of a payload in a record, and the bytes that stand behind the version. -/
def Payload.stored : Payload → UInt8 × Bytes
  | inline bytes => (Record.inlineTag, bytes)
  | reference id => (Record.referenceTag, Bytes.ofText id)

namespace Record

/-- The version of a record fits the length byte. -/
def Fits (r : Record) : Prop := (Bytes.ofText r.version.token).length ≤ 255

/-- A tag and the bytes behind the version are read as the payload that is stored so, if any. -/
theorem decodePayload_eq_ok_iff {tag : UInt8} {body : Bytes} {payload : Payload} :
    decodePayload tag body = .ok payload ↔ payload.stored = (tag, body) := by
  by_cases hinline : tag = inlineTag
  · rw [decodePayload, if_pos hinline, hinline]
    cases payload with
    | inline bytes => simp [Payload.stored, eq_comm]
    | reference id => simp [Payload.stored, inlineTag, referenceTag]
  · rw [decodePayload, if_neg hinline]
    by_cases hreference : tag = referenceTag
    · rw [if_pos hreference, hreference]
      cases htext : Bytes.text? body with
      | none =>
        have hbody : ∀ id : String, Bytes.ofText id ≠ body := by
          rintro id rfl
          rw [Bytes.text?_ofText] at htext
          cases htext
        cases payload <;> simp [Payload.stored, inlineTag, referenceTag, hbody]
      | some id =>
        obtain rfl := Bytes.text?_eq_some_iff.1 htext
        cases payload with
        | inline bytes => simp [Payload.stored, inlineTag, referenceTag]
        | reference id' =>
          simp only [Payload.stored, Except.ok.injEq, Payload.reference.injEq, Prod.mk.injEq,
            true_and]
          exact ⟨fun h => congrArg Bytes.ofText h.symm, fun h => (Bytes.ofText_injective h).symm⟩
    · rw [if_neg hreference]
      cases payload <;> simp [Payload.stored, Ne.symm hinline, Ne.symm hreference]

/-- A version that fits is stored whole, behind its length. -/
theorem encode_of_fits {r : Record} (h : r.Fits) :
    r.encode = r.payload.stored.1 :: UInt8.ofNat (Bytes.ofText r.version.token).length ::
      (Bytes.ofText r.version.token ++ r.payload.stored.2) := by
  have hwhole : (Bytes.ofText r.version.token).take 255 = Bytes.ofText r.version.token :=
    List.take_of_length_le h
  rw [encode, hwhole]
  cases r.payload <;> rfl

/-- What is read as a record is a tag, a length, a version of that length and a payload. -/
theorem exists_of_decode {raw : Bytes} {r : Record} (h : decode raw = .ok r) :
    ∃ tag length rest, raw = tag :: length :: rest ∧ length.toNat ≤ rest.length ∧
      rest.take length.toNat = Bytes.ofText r.version.token ∧
      r.payload.stored = (tag, rest.drop length.toNat) := by
  match raw with
  | [] => cases h
  | [_] => cases h
  | tag :: length :: rest =>
    rw [decode] at h
    split at h
    · cases h
    next hlength =>
      cases hversion : Bytes.text? (rest.take length.toNat) with
      | none => rw [hversion] at h; cases h
      | some version =>
        rw [hversion] at h
        dsimp only at h
        cases hpayload : decodePayload tag (rest.drop length.toNat) with
        | error damage => rw [hpayload] at h; cases h
        | ok payload =>
          rw [hpayload] at h
          obtain rfl := Except.ok.inj h
          exact ⟨tag, length, rest, rfl, Nat.le_of_not_lt hlength,
            Bytes.text?_eq_some_iff.1 hversion, decodePayload_eq_ok_iff.1 hpayload⟩

/-- Exactly the stored forms of records that fit are read, each as its record. -/
theorem decode_eq_ok_iff_fits {raw : Bytes} {r : Record} :
    decode raw = .ok r ↔ r.Fits ∧ r.encode = raw := by
  constructor
  · intro h
    obtain ⟨tag, length, rest, rfl, hle, hversion, hpayload⟩ := exists_of_decode h
    have hlength : (Bytes.ofText r.version.token).length = length.toNat := by
      rw [← hversion, List.length_take, Nat.min_eq_left hle]
    have hbyte := length.toNat_lt
    have hfits : r.Fits := by
      rw [Fits, hlength]
      omega
    refine ⟨hfits, ?_⟩
    rw [encode_of_fits hfits, hpayload, hlength, UInt8.ofNat_toNat, ← hversion,
      List.take_append_drop]
  · rintro ⟨hfits, rfl⟩
    exact decode_encode hfits

/-- Read what stands under a key. -/
def read (key : String) (raw : Bytes) : Except Error Record :=
  (decode raw).mapError (.corrupt key)

/-- The key goes into the error only: a record is read exactly when its bytes decode. -/
theorem read_eq_ok_iff {key : String} {raw : Bytes} {r : Record} :
    read key raw = .ok r ↔ decode raw = .ok r := by
  rw [read]
  cases decode raw with
  | error damage => exact iff_of_false (fun h => by cases h) (fun h => by cases h)
  | ok r' =>
    exact ⟨fun h => congrArg Except.ok (Except.ok.inj h),
      fun h => congrArg Except.ok (Except.ok.inj h)⟩

/-- What is not read as a record is reported as damaged, with its key. -/
theorem read_cases (key : String) (raw : Bytes) :
    (∃ r, read key raw = .ok r) ∨ ∃ damage, read key raw = .error (.corrupt key damage) := by
  rw [read]
  cases decode raw with
  | error damage => exact .inr ⟨damage, rfl⟩
  | ok r => exact .inl ⟨r, rfl⟩

end Record

/-- A link is what is read under its key. -/
theorem record_eq_read (mac : Mac) (id : String) {s : State} (hs : s.backend.failing = false)
    {raw : Bytes} (hraw : s.backend.entries.get? (linkKey mac id) = some raw) :
    (record mac id s).1 = (Record.read (linkKey mac id) raw).map some := by
  rw [record_result, hs, hraw, Record.read]
  dsimp only
  cases Record.decode raw <;> rfl

/-- Records that fit and their stored forms determine each other, under any key: such a record is
read back, what is read has the stored form that was read, and all other bytes are reported as
damaged under that key. Links are read in this way. -/
theorem stored_bijective (key : String) :
    (∀ r : Record, (Bytes.ofText r.version.token).length ≤ 255 →
      Record.read key r.encode = .ok r) ∧
    (∀ raw r, Record.read key raw = .ok r →
      (Bytes.ofText r.version.token).length ≤ 255 ∧ r.encode = raw) ∧
    (∀ raw, (∀ r : Record, (Bytes.ofText r.version.token).length ≤ 255 → r.encode ≠ raw) →
      ∃ damage, Record.read key raw = .error (.corrupt key damage)) ∧
    (∀ mac id s raw, key = linkKey mac id → s.backend.failing = false →
      s.backend.entries.get? key = some raw →
      (record mac id s).1 = (Record.read key raw).map some) := by
  have hread : ∀ raw r, Record.read key raw = .ok r ↔ r.Fits ∧ r.encode = raw :=
    fun raw r => Record.read_eq_ok_iff.trans Record.decode_eq_ok_iff_fits
  refine ⟨fun r hr => (hread _ r).2 ⟨hr, rfl⟩, fun raw r h => (hread raw r).1 h, ?_, ?_⟩
  · intro raw hnone
    rcases Record.read_cases key raw with ⟨r, hr⟩ | hdamaged
    · obtain ⟨hfits, hencode⟩ := (hread raw r).1 hr
      exact absurd hencode (hnone r hfits)
    · exact hdamaged
  · rintro mac id s raw rfl hs hraw
    exact record_eq_read mac id hs hraw

/-- A reference without version and id is read back, and a version that is cut short is damage. -/
theorem stored_bijective_edges :
    Record.read "lan" (Record.encode ⟨⟨""⟩, .reference ""⟩) = .ok ⟨⟨""⟩, .reference ""⟩ ∧
      ∃ damage, Record.read "lan" [73, 2, 97] = .error (.corrupt "lan" damage) := by
  obtain ⟨hkept, -, hdamaged, -⟩ := stored_bijective "lan"
  have hshort : Record.decode [73, 2, 97] = .error .truncatedVersion := rfl
  refine ⟨hkept _ (by decide), hdamaged _ fun r hr hencode => ?_⟩
  have hread := Record.decode_eq_ok_iff_fits.2 ⟨hr, hencode⟩
  rw [hshort] at hread
  cases hread

end GatewayConfig.Store
