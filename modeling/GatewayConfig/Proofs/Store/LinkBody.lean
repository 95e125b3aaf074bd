import GatewayConfig.Proofs.Store.Current
import GatewayConfig.Proofs.Store.Encoding

/-!
# Link bodies

A link body that is accepted comes back unchanged from the store, whatever is done there to other
documents. `Operation.get?_run` is the step: an operation leaves every document alone but the one it
writes. `linkBody_kept` is the result.

Nothing is assumed of the other documents, which may be damaged, and the backend may fail at any
time; a read that it refuses is the only one that does not show the link.
-/

namespace GatewayConfig.Store

variable {s : State} {mac : Mac} {id : String} {op : Operation} {d : DocumentName}

/-- A key that an action leaves for every device the address can mean is left by the action on the
address. -/
theorem get?_onDevice {address k : String} {act : Mac → State → Reply × State}
    (h : ∀ mac, Mac.parse address = .ok mac →
      (act mac s).2.backend.entries.get? k = s.backend.entries.get? k) :
    (onDevice address act s).2.backend.entries.get? k = s.backend.entries.get? k := by
  rw [onDevice]
  cases hparse : Mac.parse address with
  | ok mac => exact h mac hparse
  | error reason => rfl

/-- An operation leaves every document as it is but the one that it writes. The document of a device
is known once its address is read. -/
theorem Operation.get?_run (h : d ∉ op.target?) (s : State) :
    (op.run s).2.backend.entries.get? d.key = s.backend.entries.get? d.key := by
  have hkey : ∀ d' ∈ op.target?, d.key ≠ d'.key := by
    rintro d' hd' he
    exact h (DocumentName.key_inj.1 he ▸ hd')
  have hdevice : ∀ {address : String} {name : Mac → DocumentName},
      op.target? = (Mac.parse address).toOption.map name →
        ∀ mac, Mac.parse address = .ok mac → d.key ≠ (name mac).key := by
    intro address name htarget mac hparse
    refine hkey _ ?_
    rw [htarget, hparse]
    rfl
  have hread : ∀ {α : Type} {a : Action Error α}, Reads a →
      (a s).2.backend.entries.get? d.key = s.backend.entries.get? d.key :=
    fun ha => congrArg (Entries.get? · d.key) (ha.same s).entries
  cases op with
  | putReference id bytes => exact (Writes.putReference id bytes).get?_of_ne (hkey _ rfl) s
  | getReference id => exact hread (reads_getReference id)
  | deleteReference id => exact (Writes.deleteReference id).get?_of_ne (hkey _ rfl) s
  | link address id payload =>
    refine get?_onDevice fun mac hparse => ?_
    have hwrites := Writes.link mac id payload (Version.ofBytes (uuidAt s.uuids.next))
    rw [replying, run_link]
    exact hwrites.get?_of_ne (hdevice rfl mac hparse) _
  | record address id => exact get?_onDevice fun mac _ => hread (reads_record mac id)
  | resolve address id => exact get?_onDevice fun mac _ => hread (reads_resolve mac id)
  | unlink address id =>
    refine get?_onDevice fun mac hparse => ?_
    exact (Writes.unlink mac id).get?_of_ne (hdevice rfl mac hparse) s
  | setParams address params =>
    refine get?_onDevice fun mac hparse => ?_
    exact (Writes.setParams mac params).get?_of_ne (hdevice rfl mac hparse) s
  | getParams address => exact get?_onDevice fun mac _ => hread (reads_getParams mac)
  | setFailing on => rfl

/-- An activity that links or unlinks a subdocument of a device. -/
def Activity.Relinks (mac : Mac) (id : String) : Activity → Prop
  | operation (.link address id' _) => Mac.parse address = .ok mac ∧ id' = id
  | operation (.unlink address id') => Mac.parse address = .ok mac ∧ id' = id
  | _ => False

/-- An activity that does neither to a subdocument leaves its link as it is. -/
theorem Activity.get?_apply {a : Activity} (h : ¬ a.Relinks mac id) (s : State) :
    (a.apply s).backend.entries.get? (linkKey mac id) =
      s.backend.entries.get? (linkKey mac id) := by
  cases a with
  | operation op =>
    refine Operation.get?_run (d := .link mac id) (fun htarget => h ?_) s
    cases Operation.touches_of_mem_target? htarget with
    | link hparse => exact ⟨hparse, rfl⟩
    | unlink hparse => exact ⟨hparse, rfl⟩
  | fetch mac' request =>
    exact congrArg (Entries.get? · (linkKey mac id)) (fetch_state mac' request s).1

/-- So does a sequence of them. -/
theorem Activity.get?_applyAll {activities : List Activity}
    (h : ∀ a ∈ activities, ¬ a.Relinks mac id) (s : State) :
    (applyAll activities s).backend.entries.get? (linkKey mac id) =
      s.backend.entries.get? (linkKey mac id) := by
  induction activities generalizing s with
  | nil => rfl
  | cons a rest ih =>
    obtain ⟨hfirst, hrest⟩ := List.forall_mem_cons.1 h
    exact (ih hrest (a.apply s)).trans (get?_apply hfirst s)

/-- A link is made when the backend answers, under the version of the next identifier. -/
theorem link_eq_ok_iff {payload : Payload} {version : Version} :
    (link mac id payload s).1 = .ok version ↔
      s.backend.failing = false ∧ version = Version.ofBytes (uuidAt s.uuids.next) := by
  have hresult := (Writes.link mac id payload (Version.ofBytes (uuidAt s.uuids.next))).result
    { s with uuids := ⟨s.uuids.next + 1⟩ }
  rw [run_link, hresult]
  cases s.backend.failing <;> simp [eq_comm]

/-- A link that was made stands under its key. -/
theorem get?_link {payload : Payload} {version : Version}
    (h : (link mac id payload s).1 = .ok version) :
    (link mac id payload s).2.backend.entries.get? (linkKey mac id) =
      some (Record.encode ⟨version, payload⟩) := by
  obtain ⟨hs, rfl⟩ := link_eq_ok_iff.1 h
  have hentries := (Writes.link mac id payload (Version.ofBytes (uuidAt s.uuids.next))).entries
    { s with uuids := ⟨s.uuids.next + 1⟩ }
  rw [run_link, hentries, hs, if_neg Bool.false_ne_true, Entries.get?_set, if_pos rfl]

/-- A link is read as it was made, in every later state in which nobody made or removed it again
and the backend answers. -/
theorem record_of_link {payload : Payload} {version : Version} {activities : List Activity}
    (h : (link mac id payload s).1 = .ok version)
    (hkept : ∀ a ∈ activities, ¬ a.Relinks mac id) :
    (record mac id (Activity.applyAll activities (link mac id payload s).2)).1 =
      if (Activity.applyAll activities (link mac id payload s).2).backend.failing then
        .error .unavailable
      else .ok (some ⟨version, payload⟩) := by
  have hversion : (Bytes.ofText version.token).length ≤ 255 := by
    obtain ⟨-, rfl⟩ := link_eq_ok_iff.1 h
    rw [Version.ofBytes, Version.length_ofText_hashed]
    decide
  have hdecode : Record.decode (Record.encode ⟨version, payload⟩) = .ok ⟨version, payload⟩ :=
    decode_encode hversion
  rw [record_result, Activity.get?_applyAll hkept, get?_link h]
  dsimp only
  rw [hdecode]

/-- So is a subdocument that was linked to bytes of its own. -/
theorem resolve_of_link {bytes : Bytes} {version : Version} {activities : List Activity}
    (h : (link mac id (.inline bytes) s).1 = .ok version)
    (hkept : ∀ a ∈ activities, ¬ a.Relinks mac id) :
    (resolve mac id (Activity.applyAll activities (link mac id (.inline bytes) s).2)).1 =
      if (Activity.applyAll activities (link mac id (.inline bytes) s).2).backend.failing then
        .error .unavailable
      else .ok (some ⟨id, version, bytes⟩) := by
  rw [resolve_result, record_of_link h hkept]
  cases (Activity.applyAll activities (link mac id (.inline bytes) s).2).backend.failing <;> rfl

/-- A link body is accepted when it begins with the marker of bytes, or with that of a reference
and a text that is not empty. Its payload has that body again, as every payload is read from its
body but the reference without an id. Linked to a subdocument, it is what the link shows as long as
nobody links or unlinks that subdocument of that device, and bytes are what the subdocument
shows. -/
theorem linkBody_kept (body : Bytes) :
    ((∃ payload, Payload.ofLinkBody body = .ok payload) ↔
      (∃ bytes, body = [0, 0, 0, 1] ++ bytes) ∨
        ∃ id, id ≠ "" ∧ body = [0, 0, 0, 0] ++ Bytes.ofText id) ∧
    (∀ payload : Payload,
      Payload.ofLinkBody payload.toLinkBody = .ok payload ↔ payload ≠ .reference "") ∧
    ∀ payload, Payload.ofLinkBody body = .ok payload →
      payload.toLinkBody = body ∧
      ∀ mac id s, (s.backend.failing = false → ∃ version, (link mac id payload s).1 = .ok version) ∧
        ∀ version, (link mac id payload s).1 = .ok version →
          ∀ activities : List Activity, (∀ a ∈ activities, ¬ a.Relinks mac id) →
            let after := Activity.applyAll activities (link mac id payload s).2
            (record mac id after).1 = (if after.backend.failing then .error .unavailable
              else .ok (some ⟨version, payload⟩)) ∧
            ∀ bytes, body = [0, 0, 0, 1] ++ bytes →
              (resolve mac id after).1 = if after.backend.failing then .error .unavailable
                else .ok (some ⟨id, version, bytes⟩) := by
  refine ⟨Payload.exists_ofLinkBody_iff, fun payload => ?_, fun payload haccepted => ?_⟩
  · rw [Payload.ofLinkBody_eq_ok_iff]
    exact and_iff_right rfl
  obtain ⟨rfl, -⟩ := Payload.ofLinkBody_eq_ok_iff.1 haccepted
  refine ⟨rfl, fun mac id s => ⟨fun hs => ⟨_, link_eq_ok_iff.2 ⟨hs, rfl⟩⟩, ?_⟩⟩
  intro version hlink activities hkept after
  refine ⟨record_of_link hlink hkept, fun bytes hbytes => ?_⟩
  obtain rfl : payload = .inline bytes := by
    cases payload with
    | inline bytes' => exact congrArg Payload.inline (List.append_cancel_left hbytes)
    | reference target => simp [Payload.toLinkBody, Payload.referenceMarker] at hbytes
  exact resolve_of_link hlink hkept

/-- The subdocument of another device is unlinked, another subdocument of the device is linked, and
the device fetches while the backend fails. -/
def elsewhere : List Activity :=
  [.operation (.unlink "00000000000b" "lan"),
    .operation (.link "00000000000a" "wan" (.reference "lan")), .operation (.setFailing true),
    .fetch sharingMac firstRequest, .operation (.setFailing false)]

/-- Bytes that look like a link body and like a record are kept through all that. -/
theorem linkBody_kept_lookalike :
    ∃ version,
      let after := Activity.applyAll elsewhere
        (link sharingMac "lan" (.inline [0, 0, 0, 0, 73, 0]) {}).2
      (record sharingMac "lan" after).1 =
          .ok (some ⟨version, .inline [0, 0, 0, 0, 73, 0]⟩) ∧
        (resolve sharingMac "lan" after).1 = .ok (some ⟨"lan", version, [0, 0, 0, 0, 73, 0]⟩) := by
  obtain ⟨-, -, haccepted⟩ := linkBody_kept [0, 0, 0, 1, 0, 0, 0, 0, 73, 0]
  obtain ⟨-, hlink⟩ := haccepted (.inline [0, 0, 0, 0, 73, 0]) (by decide)
  obtain ⟨hanswers, hkept⟩ := hlink sharingMac "lan" {}
  obtain ⟨version, hversion⟩ := hanswers rfl
  have hother : Mac.parse "00000000000b" ≠ .ok sharingMac := by decide
  have helsewhere : ∀ a ∈ elsewhere, ¬ a.Relinks sharingMac "lan" := by
    simp [elsewhere, Activity.Relinks, hother]
  obtain ⟨hrecord, hresolve⟩ := hkept version hversion elsewhere helsewhere
  exact ⟨version, hrecord, hresolve _ rfl⟩

end GatewayConfig.Store
