import GatewayConfig.Proofs.Store.Change
import GatewayConfig.Proofs.Store.Layout
import GatewayConfig.Proofs.Store.Outcome
import GatewayConfig.Proofs.Version

/-!
# Sound documents

`SoundAt` says what may stand under a key: a reference document holds anything, a link holds a
record, and query params are a trimmed text. Where nothing else is stored, a read fails only when
the backend does, and every version that it yields is well formed.
-/

namespace GatewayConfig.Store

/-- A value that may stand under a key. -/
inductive SoundAt (registry : Registry) : String → Bytes → Prop
  /-- A reference document. -/
  | reference (id : String) (bytes : Bytes) : SoundAt registry ("ref/" ++ id) bytes
  /-- The link of a registered subdocument. -/
  | link {mac id : String} {raw : Bytes} {version : Version} {payload : Payload}
    (hmac : mac.toList.length = 12 ∧ mac.toList.all isUpperHexDigit = true)
    (hknown : registry.contains id = true) (hroot : id ≠ rootId)
    (hdecode : Record.decode raw = .ok ⟨version, payload⟩) (hversion : version.IsHex)
    (htarget : ∀ target, payload = .reference target → target ≠ "") :
    SoundAt registry ("subdoc/" ++ mac ++ "/" ++ id) raw
  /-- The query params of a device. -/
  | params {mac text : String}
    (hmac : mac.toList.length = 12 ∧ mac.toList.all isUpperHexDigit = true)
    (htrim : Text.trim text = text) : SoundAt registry ("root/" ++ mac) (Bytes.ofText text)

/-- All that is stored may stand where it does. -/
def Sound (registry : Registry) (es : Entries) : Prop := ∀ e ∈ es, SoundAt registry e.1 e.2

section Sound

variable {registry : Registry} {es : Entries} {s : State} {mac : Mac} {id : String}

/-- Entries stay sound when one is removed. -/
theorem Sound.erase (h : Sound registry es) (key : String) : Sound registry (es.erase key) :=
  fun e he => h e (List.mem_filter.1 he).1

/-- Setting a key to a value that may stand there keeps the documents sound. -/
theorem Sound.set (h : Sound registry es) {key : String} {value : Option Bytes}
    (hvalue : ∀ bytes, value = some bytes → SoundAt registry key bytes) :
    Sound registry (es.set key value) := by
  cases value with
  | none => exact h.erase key
  | some bytes => exact List.forall_mem_cons.2 ⟨hvalue bytes rfl, h.erase key⟩

/-- What is found in sound entries may stand under the key where it was found. -/
theorem Sound.at_of_get? (h : Sound registry es) {key : String} {raw : Bytes}
    (hget : es.get? key = some raw) : SoundAt registry key raw := by
  obtain ⟨before, after, rfl, -⟩ := List.lookup_eq_some_iff.1 hget
  exact h (key, raw) (List.mem_append_right before List.mem_cons_self)

/-- What stands under the key of a link is a record. -/
theorem SoundAt.decode {raw : Bytes} (h : SoundAt registry (linkKey mac id) raw) :
    ∃ r : Record, Record.decode raw = .ok r ∧ r.version.IsHex := by
  generalize hkey : linkKey mac id = key at h
  cases h with
  | reference id' bytes => exact absurd hkey.symm (referenceKey_ne_linkKey id' mac id)
  | link hmac hknown hroot hdecode hversion htarget => exact ⟨_, hdecode, hversion⟩
  | params hmac htrim =>
    have hlist := congrArg String.toList hkey
    simp [linkKey] at hlist

/-- What stands under the key of query params is a text. -/
theorem SoundAt.text {raw : Bytes} (h : SoundAt registry (paramsKey mac) raw) :
    ∃ params, Bytes.text? raw = some params := by
  generalize hkey : paramsKey mac = key at h
  cases h with
  | reference id' bytes =>
    have hlist := congrArg String.toList hkey
    simp [paramsKey] at hlist
  | link hmac hknown hroot hdecode hversion htarget =>
    have hlist := congrArg String.toList hkey
    simp [paramsKey] at hlist
  | params hmac htrim => exact ⟨_, Bytes.text?_ofText _⟩

/-- A read that fails does so because the backend does. -/
def FailsWithBackend {α : Type} (s : State) (result : Except Error α) : Prop :=
  ∀ e, result = .error e → e = .unavailable ∧ s.backend.failing = true

/-- An unavailable backend is a failure of the backend. -/
theorem FailsWithBackend.of_failing {α : Type} (h : s.backend.failing = true) :
    FailsWithBackend s (.error .unavailable : Except Error α) := by
  intro e he
  exact ⟨(Except.error.inj he).symm, h⟩

/-- A result is no failure. -/
theorem FailsWithBackend.of_ok {α : Type} (x : α) : FailsWithBackend s (.ok x) := nofun

/-- A reference document can be any bytes, so its read fails with the backend only. Soundness is not
assumed. -/
theorem failsWithBackend_getReference (id : String) (s : State) :
    FailsWithBackend s (getReference id s).1 := by
  rw [getReference_result]
  cases hfailing : s.backend.failing with
  | true => exact .of_failing hfailing
  | false => exact .of_ok _

/-- Over sound entries the read of a link fails with the backend only. -/
theorem Sound.failsWithBackend_record (h : Sound registry s.backend.entries) (mac : Mac)
    (id : String) : FailsWithBackend s (record mac id s).1 := by
  rw [record_result]
  cases hfailing : s.backend.failing with
  | true => exact .of_failing hfailing
  | false =>
    cases hget : s.backend.entries.get? (linkKey mac id) with
    | none => exact .of_ok _
    | some raw =>
      obtain ⟨r, hdecode, -⟩ := (h.at_of_get? hget).decode
      dsimp only
      rw [hdecode]
      exact .of_ok _

/-- Over sound entries the read of parameters fails with the backend only. -/
theorem Sound.failsWithBackend_getParams (h : Sound registry s.backend.entries) (mac : Mac) :
    FailsWithBackend s (getParams mac s).1 := by
  rw [getParams_result]
  cases hfailing : s.backend.failing with
  | true => exact .of_failing hfailing
  | false =>
    cases hget : s.backend.entries.get? (paramsKey mac) with
    | none => exact .of_ok _
    | some raw =>
      obtain ⟨params, htext⟩ := (h.at_of_get? hget).text
      dsimp only
      rw [htext]
      exact .of_ok _

/-- Over sound entries resolving fails with the backend only. A reference that is dangling is no
failure. -/
theorem Sound.failsWithBackend_resolve (h : Sound registry s.backend.entries) (mac : Mac)
    (id : String) : FailsWithBackend s (resolve mac id s).1 := by
  intro e he
  rw [resolve_result] at he
  cases hrecord : (record mac id s).1 with
  | error e' =>
    rw [hrecord] at he
    obtain rfl := Except.error.inj he
    exact h.failsWithBackend_record mac id _ hrecord
  | ok found =>
    rw [hrecord] at he
    match found with
    | none => cases he
    | some ⟨version, .inline bytes⟩ => cases he
    | some ⟨version, .reference target⟩ =>
      dsimp only at he
      cases hreference : (getReference target s).1 with
      | error e' =>
        rw [hreference] at he
        obtain rfl := Except.error.inj he
        exact failsWithBackend_getReference target s _ hreference
      | ok d => rw [hreference] at he; cases he

/-- A reference document that is read has a well-formed version. -/
theorem isHex_of_getReference {doc : Reference} (h : (getReference id s).1 = .ok (some doc)) :
    doc.version.IsHex := by
  rw [getReference_result] at h
  split at h
  · cases h
  · obtain ⟨bytes, -, rfl⟩ := Option.map_eq_some_iff.1 (Except.ok.inj h)
    exact Version.isHex_hashed bytes

/-- A subdocument that is read has a well-formed version. -/
theorem Sound.isHex_of_resolve (h : Sound registry s.backend.entries) {doc : Resolved}
    (hdoc : (resolve mac id s).1 = .ok (some doc)) : doc.version.IsHex := by
  rcases resolve_cases hdoc with
    ⟨version, bytes, hrecord, rfl⟩ | ⟨version, target, bytes, -, -, rfl⟩
  · obtain ⟨raw, hget, hdecode⟩ := record_cases hrecord
    obtain ⟨r, hr, hversion⟩ := (h.at_of_get? hget).decode
    obtain rfl := Except.ok.inj (hr.symm.trans hdecode)
    exact hversion
  · exact Version.isHex_hashed _

/-- A root version is a hash, also that of an empty group. -/
theorem isHex_rootOf (present : List (Resolved × Version)) : (rootOf present).IsHex :=
  Version.isHex_hashed _

/-- Encoding fails only for want of a boundary. -/
theorem eq_boundaryExhausted_of_encode {parts : List Multipart.Part} {supply : UuidSupply}
    {e : Multipart.Error} (h : (Multipart.encode parts supply).1 = .error e) :
    e = .boundaryExhausted := by
  rcases Multipart.encode_cases parts supply with ⟨i, -, -, -, hencode⟩ | ⟨-, hencode⟩
  · rw [hencode] at h
    cases h
  · rw [hencode] at h
    exact (Except.error.inj h).symm

/-- A fetch fails because the backend does, or for want of a boundary. Where every member is read,
only the encoding is left to fail. -/
theorem Sound.fetch_error (h : Sound registry s.backend.entries) {request : GroupRequest}
    {e : FetchError} (he : (fetch mac request s).1 = .error e) :
    (e = .store .unavailable ∧ s.backend.failing = true) ∨ e = .codec .boundaryExhausted := by
  rcases readable_or_firstError mac request.members s with hreadable | ⟨e', hfirst⟩
  · obtain ⟨t, ht, hfetch⟩ := fetch_of_ok (presentMembers_of_readable hreadable)
    rw [hfetch] at he
    cases hc : isCurrent request.rootVersion (rootOf (presentIn mac request.members s))
        (presentIn mac request.members s) with
    | true =>
      rw [answer_of_current hc] at he
      cases he
    | false =>
      rw [answer_of_stale hc] at he
      cases hencode : (Multipart.encode (partsOf (presentIn mac request.members s)) t.uuids).1 with
      | ok message => rw [hencode] at he; cases he
      | error e' =>
        rw [hencode] at he
        obtain rfl := Except.error.inj he
        exact .inr (congrArg FetchError.codec (eq_boundaryExhausted_of_encode hencode))
  · rw [(fetch_of_error (presentMembers_of_firstError hfirst)).1] at he
    obtain rfl := Except.error.inj he
    obtain ⟨before, id, held, after, -, -, hmember⟩ := hfirst
    obtain ⟨rfl, hfailing⟩ := h.failsWithBackend_resolve mac id _ hmember
    exact .inl ⟨rfl, hfailing⟩

end Sound

/-- No read finds a damaged value. -/
structure NeverCorrupt (s : State) : Prop where
  /-- A reference document is read. -/
  reference : ∀ id key damage, (getReference id s).1 ≠ .error (.corrupt key damage)
  /-- A link is read. -/
  record : ∀ mac id key damage, (record mac id s).1 ≠ .error (.corrupt key damage)
  /-- A subdocument is read. -/
  resolve : ∀ mac id key damage, (resolve mac id s).1 ≠ .error (.corrupt key damage)
  /-- Query params are read. -/
  params : ∀ mac key damage, (getParams mac s).1 ≠ .error (.corrupt key damage)
  /-- A group is fetched. -/
  fetch : ∀ mac request key damage, (fetch mac request s).1 ≠ .error (.store (.corrupt key damage))

/-- What fails with the backend only never reports damage. -/
theorem FailsWithBackend.ne_corrupt {α : Type} {s : State} {result : Except Error α}
    (h : FailsWithBackend s result) (key : String) (damage : Damage) :
    result ≠ .error (.corrupt key damage) := by
  intro he
  cases (h _ he).1

/-- Sound documents are never found to be damaged. -/
theorem Sound.neverCorrupt {registry : Registry} {s : State}
    (h : Sound registry s.backend.entries) : NeverCorrupt s where
  reference id := (failsWithBackend_getReference id s).ne_corrupt
  record mac id := (h.failsWithBackend_record mac id).ne_corrupt
  resolve mac id := (h.failsWithBackend_resolve mac id).ne_corrupt
  params mac := (h.failsWithBackend_getParams mac).ne_corrupt
  fetch mac request key damage he := by
    rcases h.fetch_error he with ⟨heq, -⟩ | heq
    · cases heq
    · cases heq

end GatewayConfig.Store
