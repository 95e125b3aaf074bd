import GatewayConfig.Proofs.Store.Change
import GatewayConfig.Proofs.Store.Keys
import GatewayConfig.Proofs.Version
import Mathlib.Logic.Function.Basic

/-!
# The stores as three maps

Reference documents, links and query params lie in one backend under textual keys, links and
references in forms of their own. Their users see three maps that know nothing of each other.
`replies_eq_maps` says that no run of operations can tell the difference: every reply is that of
the maps, for ids and bytes of any content, devices in any spelling, and a backend that fails at
any time. It also says which replies an operation can affect.
-/

namespace GatewayConfig.Store

/-- An operation as a caller asks for it. A device is named by an address in any spelling. -/
inductive Operation where
  /-- Create or replace a reference document. -/
  | putReference (id : String) (bytes : Bytes)
  /-- Read a reference document. -/
  | getReference (id : String)
  /-- Remove a reference document. -/
  | deleteReference (id : String)
  /-- Link a subdocument. -/
  | link (address id : String) (payload : Payload)
  /-- Read a link without following it. -/
  | record (address id : String)
  /-- Read the bytes of a subdocument. -/
  | resolve (address id : String)
  /-- Remove a link. -/
  | unlink (address id : String)
  /-- Replace query params. -/
  | setParams (address params : String)
  /-- Read query params. -/
  | getParams (address : String)
  /-- Switch the backend's failure on or off. -/
  | setFailing (on : Bool)
  deriving DecidableEq, Repr

/-- What a caller is told. -/
inductive Reply where
  /-- It is done. -/
  | done
  /-- It is done, and this is the version of what was stored. -/
  | version (version : Version)
  /-- The reference document, if there is one. -/
  | reference (found : Option Reference)
  /-- The link, if there is one. -/
  | record (found : Option Record)
  /-- The subdocument, if it is present. -/
  | resolved (found : Option Resolved)
  /-- The query params, if there are any. -/
  | params (found : Option String)
  /-- The address is none. -/
  | invalid (reason : InvalidRequest)
  /-- The stores failed. -/
  | failed (error : Error)
  deriving DecidableEq, Repr

/-- The reply that tells a result. -/
def Reply.ofResult {α : Type} (shown : α → Reply) : Except Error α → Reply
  | .ok x => shown x
  | .error e => .failed e

/-- The reply to an action, and the state after it. -/
def replying {α : Type} (shown : α → Reply) (a : Action Error α) (s : State) : Reply × State :=
  (Reply.ofResult shown (a s).1, (a s).2)

/-- An operation on a device, whose address is read first. -/
def onDevice (address : String) (act : Mac → State → Reply × State) (s : State) : Reply × State :=
  match Mac.parse address with
  | .ok mac => act mac s
  | .error reason => (.invalid reason, s)

namespace Operation

/-- Carry out an operation on the stores. -/
def run : Operation → State → Reply × State
  | putReference id bytes => replying .version (Store.putReference id bytes)
  | getReference id => replying .reference (Store.getReference id)
  | deleteReference id => replying (fun _ => .done) (Store.deleteReference id)
  | link address id payload => onDevice address fun mac =>
      replying .version (Store.link mac id payload)
  | record address id => onDevice address fun mac => replying .record (Store.record mac id)
  | resolve address id => onDevice address fun mac => replying .resolved (Store.resolve mac id)
  | unlink address id => onDevice address fun mac =>
      replying (fun _ => .done) (Store.unlink mac id)
  | setParams address params => onDevice address fun mac =>
      replying (fun _ => .done) (Store.setParams mac params)
  | getParams address => onDevice address fun mac => replying .params (Store.getParams mac)
  | setFailing on => fun s => (.done, Store.setFailing on s)

/-- The state after a run of operations. -/
def runAll (ops : List Operation) (s : State) : State := ops.foldl (fun s op => (op.run s).2) s

/-- The replies to a run of operations, in order. -/
def replies : List Operation → State → List Reply
  | [], _ => []
  | op :: rest, s => (op.run s).1 :: replies rest (op.run s).2

end Operation

/-- The documents as their users see them. Devices are known by their addresses in capitals. -/
structure Maps where
  /-- The bytes of reference documents, by id. -/
  references : String → Option Bytes
  /-- The links of subdocuments, by device and id. -/
  links : String × String → Option Record
  /-- The query params, by device. -/
  params : String → Option String
  /-- Whether every access is refused. -/
  failing : Bool
  /-- The position of the next identifier, from which a link gets its version. -/
  next : Nat

namespace Maps

/-- Three empty maps. -/
def empty (failing : Bool) (next : Nat) : Maps :=
  ⟨fun _ => none, fun _ => none, fun _ => none, failing, next⟩

/-- An access that is refused while the backend is failing. -/
def access (m : Maps) (reply : Reply) (after : Maps) : Reply × Maps :=
  if m.failing then (.failed .unavailable, m) else (reply, after)

/-- An operation on a device. Twelve hexadecimal digits name the device that they name in
capitals. -/
def onDevice (m : Maps) (address : String) (act : String → Reply × Maps) : Reply × Maps :=
  if Mac.isValid address then act (Text.upper address) else (.invalid (.mac address), m)

/-- A reference document as it is read. -/
def reference (m : Maps) (id : String) : Option Reference :=
  (m.references id).map fun bytes => ⟨id, Version.ofBytes bytes, bytes⟩

/-- A subdocument as it is read. It is absent when it is not linked, or linked to a reference that
does not exist. -/
def resolved (m : Maps) (device id : String) : Option Resolved :=
  match m.links (device, id) with
  | none => none
  | some ⟨version, .inline bytes⟩ => some ⟨id, version, bytes⟩
  | some ⟨version, .reference target⟩ => (m.references target).map fun bytes =>
      ⟨id, Version.combine [version, Version.ofBytes bytes], bytes⟩

/-- The version that the next link gets. -/
def nextVersion (m : Maps) : Version := Version.ofBytes (uuidAt m.next)

/-- The maps after a version was drawn. -/
def drawn (m : Maps) : Maps := { m with next := m.next + 1 }

/-- Carry out an operation on the maps. -/
def perform (m : Maps) : Operation → Reply × Maps
  | .putReference id bytes => m.access (.version (Version.ofBytes bytes))
      { m with references := Function.update m.references id (some bytes) }
  | .getReference id => m.access (.reference (m.reference id)) m
  | .deleteReference id => m.access .done
      { m with references := Function.update m.references id none }
  | .link address id payload => m.onDevice address fun device =>
      m.drawn.access (.version m.nextVersion) { m.drawn with
        links := Function.update m.links (device, id) (some ⟨m.nextVersion, payload⟩) }
  | .record address id => m.onDevice address fun device =>
      m.access (.record (m.links (device, id))) m
  | .resolve address id => m.onDevice address fun device =>
      m.access (.resolved (m.resolved device id)) m
  | .unlink address id => m.onDevice address fun device => m.access .done
      { m with links := Function.update m.links (device, id) none }
  | .setParams address params => m.onDevice address fun device => m.access .done
      { m with params := Function.update m.params device (some params) }
  | .getParams address => m.onDevice address fun device => m.access (.params (m.params device)) m
  | .setFailing on => (.done, { m with failing := on })

/-- The maps after a run of operations. -/
def performAll (m : Maps) (ops : List Operation) : Maps :=
  ops.foldl (fun m op => (m.perform op).2) m

/-- The replies to a run of operations, in order. -/
def replies (m : Maps) : List Operation → List Reply
  | [] => []
  | op :: rest => (m.perform op).1 :: (m.perform op).2.replies rest

/-- What a backend holds for a document. -/
def stored (m : Maps) : DocumentName → Option Bytes
  | .reference id => m.references id
  | .link mac id => (m.links (mac.text, id)).map Record.encode
  | .params mac => (m.params mac.text).map Bytes.ofText

end Maps

/-- A state whose backend holds what is in the maps. -/
structure Represents (s : State) (m : Maps) : Prop where
  /-- Every document is stored under its key. -/
  stored : ∀ d : DocumentName, s.backend.entries.get? d.key = m.stored d
  /-- Both answer, or neither does. -/
  failing : s.backend.failing = m.failing
  /-- The same identifiers are to come. -/
  next : s.uuids.next = m.next
  /-- The version of a link fits the length byte of its record. -/
  fits : ∀ k, ∀ r ∈ m.links k, (Bytes.ofText r.version.token).length ≤ 255

namespace Represents

variable {s t : State} {m m' : Maps}

/-- The journal is no part of what maps represent. -/
theorem of_alike (h : Represents s m) (ht : t.Alike s) : Represents t m := by
  constructor
  case stored => rw [ht.entries]; exact h.stored
  case failing => exact ht.failing.trans h.failing
  case next => exact (congrArg UuidSupply.next ht.uuids).trans h.next
  case fits => exact h.fits

/-- A reference document is read off the maps. -/
theorem getReference_eq (h : Represents s m) (id : String) :
    (getReference id s).1 = if m.failing then .error .unavailable else .ok (m.reference id) := by
  rw [getReference_result, h.failing, ← DocumentName.key, h.stored]
  rfl

/-- A record is read off the maps. -/
theorem record_eq (h : Represents s m) (mac : Mac) (id : String) :
    (record mac id s).1 =
      if m.failing then .error .unavailable else .ok (m.links (mac.text, id)) := by
  rw [record_result, h.failing, ← DocumentName.key, h.stored, Maps.stored]
  cases hlink : m.links (mac.text, id) with
  | none => rfl
  | some r =>
    have hdecode := decode_encode (h.fits _ r hlink)
    rw [Option.map_some]
    dsimp only
    rw [hdecode]

/-- A resolved document is read off the maps, a dangling reference included. -/
theorem resolve_eq (h : Represents s m) (mac : Mac) (id : String) :
    (resolve mac id s).1 =
      if m.failing then .error .unavailable else .ok (m.resolved mac.text id) := by
  rw [resolve_result, h.record_eq]
  cases hf : m.failing with
  | true => rfl
  | false =>
    rw [if_neg Bool.false_ne_true, if_neg Bool.false_ne_true, Maps.resolved]
    match m.links (mac.text, id) with
    | none => rfl
    | some ⟨version, .inline bytes⟩ => rfl
    | some ⟨version, .reference target⟩ =>
      dsimp only
      rw [h.getReference_eq, hf, if_neg Bool.false_ne_true, Maps.reference]
      cases m.references target <;> rfl

/-- Parameters are read off the maps. -/
theorem getParams_eq (h : Represents s m) (mac : Mac) :
    (getParams mac s).1 =
      if m.failing then .error .unavailable else .ok (m.params mac.text) := by
  rw [getParams_result, h.failing, ← DocumentName.key, h.stored, Maps.stored]
  cases m.params mac.text with
  | none => rfl
  | some params =>
    rw [Option.map_some]
    dsimp only
    rw [Bytes.text?_ofText]

/-- The maps after a write of one document. -/
structure Updates (m : Maps) (d : DocumentName) (value : Option Bytes) (m' : Maps) : Prop where
  /-- The document is as it was written, and every other one as it was. -/
  stored : ∀ d', m'.stored d' = if d' = d then value else m.stored d'
  /-- The backend goes on as it does. -/
  failing : m'.failing = m.failing
  /-- Nothing is drawn. -/
  next : m'.next = m.next
  /-- The version of a link fits the length byte of its record. -/
  fits : ∀ k, ∀ r ∈ m'.links k, (Bytes.ofText r.version.token).length ≤ 255

/-- A read replies what the maps hold, and changes nothing that they show. -/
theorem read {α : Type} (h : Represents s m) {a : Action Error α} (ha : Reads a) {x : α}
    (hx : (a s).1 = if m.failing then .error .unavailable else .ok x) (shown : α → Reply) :
    (replying shown a s).1 = (m.access (shown x) m).1 ∧
      Represents (replying shown a s).2 (m.access (shown x) m).2 := by
  have hafter : Represents (replying shown a s).2 m := h.of_alike (ha.same s)
  rw [replying, hx, Maps.access]
  cases m.failing with
  | true => exact ⟨rfl, hafter⟩
  | false => exact ⟨rfl, hafter⟩

/-- A write does to the backend what it does to the maps. Documents of different names have
different keys, so it shows under no other name. -/
theorem write {α : Type} (h : Represents s m) {d : DocumentName} {value : Option Bytes}
    {a : Action Error α} {x : α} (hm : Updates m d value m') (ha : Writes d.key value a x)
    (shown : α → Reply) :
    (replying shown a s).1 = (m.access (shown x) m').1 ∧
      Represents (replying shown a s).2 (m.access (shown x) m').2 := by
  have hentries := ha.entries s
  have hnext := congrArg UuidSupply.next (ha.uuids s)
  rw [replying, ha.result, h.failing, Maps.access]
  rw [h.failing] at hentries
  cases hf : m.failing with
  | true =>
    rw [hf, if_pos rfl] at hentries
    refine ⟨rfl, ?_⟩
    constructor
    case stored => dsimp only; rw [hentries]; exact h.stored
    case failing => exact (ha.failing s).trans h.failing
    case next => exact hnext.trans h.next
    case fits => exact h.fits
  | false =>
    rw [hf, if_neg Bool.false_ne_true] at hentries
    refine ⟨rfl, ?_⟩
    constructor
    case stored =>
      intro d'
      have hkey := s.backend.entries.get?_set d.key d'.key value
      dsimp only
      rw [hentries, hkey, h.stored, if_neg Bool.false_ne_true, hm.stored]
      simp only [DocumentName.key_inj]
    case failing => exact (ha.failing s).trans (h.failing.trans hm.failing.symm)
    case next => exact hnext.trans (h.next.trans hm.next.symm)
    case fits => exact hm.fits

/-- A draw is none of the documents' business. -/
theorem drawn (h : Represents s m) :
    Represents { s with uuids := ⟨s.uuids.next + 1⟩ } m.drawn := by
  constructor
  case stored => exact h.stored
  case failing => exact h.failing
  case next => exact congrArg (· + 1) h.next
  case fits => exact h.fits

/-- Store and maps go on together on a device when they do so for every MAC the address can be read
as. -/
theorem onDevice (h : Represents s m) (address : String) {act : Mac → State → Reply × State}
    {act' : String → Reply × Maps}
    (hact : ∀ mac, (act mac s).1 = (act' mac.text).1 ∧
      Represents (act mac s).2 (act' mac.text).2) :
    (Store.onDevice address act s).1 = (m.onDevice address act').1 ∧
      Represents (Store.onDevice address act s).2 (m.onDevice address act').2 := by
  rw [Store.onDevice, Maps.onDevice]
  rcases Mac.parse_cases address with ⟨mac, hparse, hvalid, htext⟩ | ⟨hparse, hvalid⟩
  · rw [hparse, hvalid, if_pos rfl, ← htext]
    exact hact mac
  · rw [hparse, hvalid, if_neg Bool.false_ne_true]
    exact ⟨rfl, h⟩

/-- Changing one reference document in the maps is changing one document. -/
theorem updates_reference (h : Represents s m) (id : String) (value : Option Bytes) :
    Updates m (.reference id) value
      { m with references := Function.update m.references id value } := by
  constructor
  case stored =>
    intro d
    cases d with
    | reference id' => simp only [Maps.stored, Function.update_apply, DocumentName.reference.injEq]
    | link mac id' => rfl
    | params mac => rfl
  case failing => rfl
  case next => rfl
  case fits => exact h.fits

/-- Changing one link in the maps is changing one document, provided its version fits the length
byte of a record. -/
theorem updates_link (h : Represents s m) (mac : Mac) (id : String) (link : Option Record)
    (hfits : ∀ r ∈ link, (Bytes.ofText r.version.token).length ≤ 255) :
    Updates m (.link mac id) (link.map Record.encode)
      { m with links := Function.update m.links (mac.text, id) link } := by
  constructor
  case stored =>
    intro d
    cases d with
    | reference id' => rfl
    | link mac' id' =>
      simp only [Maps.stored, Function.update_apply, DocumentName.link.injEq, Prod.mk.injEq,
        Mac.text_inj]
      split <;> rfl
    | params mac' => rfl
  case failing => rfl
  case next => rfl
  case fits =>
    intro k r hr
    dsimp only at hr
    rw [Function.update_apply] at hr
    split at hr
    · exact hfits r hr
    · exact h.fits k r hr

/-- Changing the parameters of one device in the maps is changing one document. -/
theorem updates_params (h : Represents s m) (mac : Mac) (params : String) :
    Updates m (.params mac) (some (Bytes.ofText params))
      { m with params := Function.update m.params mac.text (some params) } := by
  constructor
  case stored =>
    intro d
    cases d with
    | reference id => rfl
    | link mac' id => rfl
    | params mac' =>
      simp only [Maps.stored, Function.update_apply, DocumentName.params.injEq, Mac.text_inj]
      split <;> rfl
  case failing => rfl
  case next => rfl
  case fits => exact h.fits

/-- One operation: the reply is that of the maps, and the backend goes on to hold what is in
them. -/
theorem step (h : Represents s m) (op : Operation) :
    (op.run s).1 = (m.perform op).1 ∧ Represents (op.run s).2 (m.perform op).2 := by
  cases op with
  | putReference id bytes =>
    exact h.write (h.updates_reference id (some bytes)) (Writes.putReference id bytes) .version
  | getReference id => exact h.read (reads_getReference id) (h.getReference_eq id) .reference
  | deleteReference id =>
    exact h.write (h.updates_reference id none) (Writes.deleteReference id) fun _ => .done
  | link address id payload =>
    refine h.onDevice address fun mac => ?_
    have hfits : ∀ r ∈ some (⟨m.nextVersion, payload⟩ : Record),
        (Bytes.ofText r.version.token).length ≤ 255 := by
      intro r hr
      obtain rfl := Option.some.inj hr
      rw [Maps.nextVersion, Version.ofBytes, Version.length_ofText_hashed]
      decide
    have hwrite := h.drawn.write (h.drawn.updates_link mac id _ hfits)
      (Writes.link mac id payload m.nextVersion) .version
    rw [replying, run_link, h.next]
    rw [replying, h.next] at hwrite
    exact hwrite
  | record address id =>
    exact h.onDevice address fun mac => h.read (reads_record mac id) (h.record_eq mac id) .record
  | resolve address id =>
    exact h.onDevice address fun mac =>
      h.read (reads_resolve mac id) (h.resolve_eq mac id) .resolved
  | unlink address id =>
    refine h.onDevice address fun mac => ?_
    have hnone : ∀ r ∈ (none : Option Record), (Bytes.ofText r.version.token).length ≤ 255 := by
      intro r hr
      cases hr
    exact h.write (h.updates_link mac id none hnone) (Writes.unlink mac id) fun _ => .done
  | setParams address params =>
    refine h.onDevice address fun mac => ?_
    exact h.write (h.updates_params mac params) (Writes.setParams mac params) fun _ => .done
  | getParams address =>
    exact h.onDevice address fun mac => h.read (reads_getParams mac) (h.getParams_eq mac) .params
  | setFailing on => exact ⟨rfl, h.stored, rfl, h.next, h.fits⟩

/-- A run of operations: every reply is that of the maps. -/
theorem run (h : Represents s m) (ops : List Operation) :
    Operation.replies ops s = m.replies ops ∧
      Represents (Operation.runAll ops s) (m.performAll ops) := by
  induction ops generalizing s m with
  | nil => exact ⟨rfl, h⟩
  | cons op rest ih =>
    obtain ⟨hreply, hafter⟩ := h.step op
    obtain ⟨hreplies, hend⟩ := ih hafter
    refine ⟨?_, hend⟩
    rw [Operation.replies, Maps.replies, hreply, hreplies]

/-- An empty backend holds what is in empty maps. -/
theorem empty (failing : Bool) (journal : List Access) (uuids : UuidSupply) :
    Represents { backend := { failing, journal }, uuids } (.empty failing uuids.next) := by
  constructor
  case stored => intro d; cases d <;> rfl
  case failing => rfl
  case next => rfl
  case fits => intro k r hr; cases hr

end Represents

/-- The document that an operation writes or removes. -/
def Operation.target? : Operation → Option DocumentName
  | putReference id _ => some (.reference id)
  | deleteReference id => some (.reference id)
  | link address id _ => (Mac.parse address).toOption.map fun mac => .link mac id
  | unlink address id => (Mac.parse address).toOption.map fun mac => .link mac id
  | setParams address _ => (Mac.parse address).toOption.map .params
  | _ => none

/-- An operation that asks for a document. -/
def Operation.IsRead : Operation → Prop
  | getReference _ | record _ _ | resolve _ _ | getParams _ => True
  | _ => False

namespace Maps

/-- Whether a document has a part in what is read. The bytes of a subdocument are its link's, or
those of the reference that its link names. -/
def Concerns (m : Maps) (d : DocumentName) : Operation → Prop
  | .getReference id => d = .reference id
  | .record address id => ∃ mac, Mac.parse address = .ok mac ∧ d = .link mac id
  | .resolve address id => ∃ mac, Mac.parse address = .ok mac ∧ (d = .link mac id ∨
      ∃ version target, m.links (mac.text, id) = some ⟨version, .reference target⟩ ∧
        d = .reference target)
  | .getParams address => ∃ mac, Mac.parse address = .ok mac ∧ d = .params mac
  | _ => False

/-- Two groups of maps have the same document under a name. -/
def SameAt (m m' : Maps) : DocumentName → Prop
  | .reference id => m.references id = m'.references id
  | .link mac id => m.links (mac.text, id) = m'.links (mac.text, id)
  | .params mac => m.params mac.text = m'.params mac.text

variable {m m' : Maps} {op q : Operation} {d : DocumentName}

/-- With an address that is a MAC the action is run on its text. -/
theorem onDevice_of_parse {address : String} {mac : Mac} (h : Mac.parse address = .ok mac)
    (m : Maps) (act : String → Reply × Maps) : m.onDevice address act = act mac.text := by
  obtain ⟨hvalid, htext⟩ := Mac.text_eq_of_parse h
  rw [onDevice, if_pos hvalid, htext]

/-- Maps are the same as themselves at every document. -/
theorem sameAt_refl (m : Maps) (d : DocumentName) : m.SameAt m d := by
  cases d <;> rfl

/-- Without a failure an access is its reply and its maps. -/
theorem access_of_answers (h : m.failing = false) (reply : Reply) (m' : Maps) :
    m.access reply m' = (reply, m') := by
  rw [access, h, if_neg Bool.false_ne_true]

/-- Two groups of maps that differ in one document at most. -/
structure ChangesOnly (m m' : Maps) (changed : Option DocumentName) : Prop where
  /-- Every other document is the same. -/
  same : ∀ d ∉ changed, m'.SameAt m d
  /-- Both answer, or neither does. -/
  failing : m'.failing = m.failing

namespace ChangesOnly

variable {changed : Option DocumentName}

/-- Nothing changed is a change of at most one document. -/
theorem refl (m : Maps) (changed : Option DocumentName) : ChangesOnly m m changed :=
  ⟨fun d _ => m.sameAt_refl d, rfl⟩

/-- An update of the reference documents changes the one that is updated. -/
theorem references (m : Maps) (id : String) (value : Option Bytes) :
    ChangesOnly m { m with references := Function.update m.references id value }
      (some (.reference id)) := by
  refine ⟨fun d hd => ?_, rfl⟩
  cases d with
  | reference id' =>
    have hne : id' ≠ id := fun he => hd (by rw [he]; rfl)
    exact Function.update_of_ne hne _ _
  | link mac id' => rfl
  | params mac => rfl

/-- An update of the links changes the one that is updated. -/
theorem links (m : Maps) (mac : Mac) (id : String) (link : Option Record) :
    ChangesOnly m { m with links := Function.update m.links (mac.text, id) link }
      (some (.link mac id)) := by
  refine ⟨fun d hd => ?_, rfl⟩
  cases d with
  | reference id' => rfl
  | link mac' id' =>
    have hne : (mac'.text, id') ≠ (mac.text, id) := by
      intro he
      obtain ⟨htext, hid⟩ := Prod.mk.inj he
      exact hd (by rw [Mac.text_inj.1 htext, hid]; rfl)
    exact Function.update_of_ne hne _ _
  | params mac' => rfl

/-- An update of the parameters changes those of one device. -/
theorem params (m : Maps) (mac : Mac) (params : Option String) :
    ChangesOnly m { m with params := Function.update m.params mac.text params }
      (some (.params mac)) := by
  refine ⟨fun d hd => ?_, rfl⟩
  cases d with
  | reference id => rfl
  | link mac' id => rfl
  | params mac' =>
    have hne : mac'.text ≠ mac.text := fun he => hd (by rw [Mac.text_inj.1 he]; rfl)
    exact Function.update_of_ne hne _ _

/-- An access changes what the write behind it changes, or nothing. -/
theorem access (h : ChangesOnly m m' changed) (reply : Reply) :
    ChangesOnly m (m.access reply m').2 changed := by
  rw [Maps.access]
  split
  · exact refl m changed
  · exact h

/-- A draw changes no document. The maps that are compared are those of before it, but for the next
identifier. -/
theorem of_drawn (h : ChangesOnly m.drawn m' changed) : ChangesOnly m m' changed := by
  refine ⟨fun d hd => ?_, h.failing⟩
  have hsame := h.same d hd
  cases d <;> exact hsame

/-- An operation on a device changes what it changes for the device that is named, or nothing. -/
theorem onDevice {address : String} {act : String → Reply × Maps}
    (h : ∀ mac, Mac.parse address = .ok mac → ChangesOnly m (act mac.text).2 changed) :
    ChangesOnly m (m.onDevice address act).2 changed := by
  rcases Mac.parse_cases address with ⟨mac, hparse, -⟩ | ⟨-, hinvalid⟩
  · rw [onDevice_of_parse hparse]
    exact h mac hparse
  · rw [Maps.onDevice, hinvalid]
    exact refl m changed

end ChangesOnly

/-- An operation changes only the document that it writes. -/
theorem changesOnly_perform (hop : ∀ on, op ≠ .setFailing on) (m : Maps) :
    ChangesOnly m (m.perform op).2 op.target? := by
  cases op with
  | putReference id bytes => exact (ChangesOnly.references m id _).access _
  | getReference id => exact (ChangesOnly.refl m _).access _
  | deleteReference id => exact (ChangesOnly.references m id _).access _
  | link address id payload =>
    refine ChangesOnly.onDevice fun mac hparse => ?_
    rw [Operation.target?, hparse]
    exact ((ChangesOnly.links m.drawn mac id _).access _).of_drawn
  | record address id => exact ChangesOnly.onDevice fun mac _ => (ChangesOnly.refl m _).access _
  | resolve address id => exact ChangesOnly.onDevice fun mac _ => (ChangesOnly.refl m _).access _
  | unlink address id =>
    refine ChangesOnly.onDevice fun mac hparse => ?_
    rw [Operation.target?, hparse]
    exact (ChangesOnly.links m mac id _).access _
  | setParams address params =>
    refine ChangesOnly.onDevice fun mac hparse => ?_
    rw [Operation.target?, hparse]
    exact (ChangesOnly.params m mac _).access _
  | getParams address => exact ChangesOnly.onDevice fun mac _ => (ChangesOnly.refl m _).access _
  | setFailing on => exact absurd rfl (hop on)

/-- The answer to an access depends on nothing of the maps but the failing flag. -/
theorem access_congr (hf : m'.failing = m.failing) {reply reply' : Reply} (hr : reply' = reply) :
    (m'.access reply' m').1 = (m.access reply m).1 := by
  rw [access, access, hf, hr]
  split <;> rfl

/-- A read of a device replies the same if it does so for the device that is named. -/
theorem onDevice_congr {address : String} {act act' : String → Reply × Maps}
    (h : ∀ mac, Mac.parse address = .ok mac → (act' mac.text).1 = (act mac.text).1) :
    (m'.onDevice address act').1 = (m.onDevice address act).1 := by
  rcases Mac.parse_cases address with ⟨mac, hparse, -⟩ | ⟨-, hinvalid⟩
  · rw [onDevice_of_parse hparse, onDevice_of_parse hparse]
    exact h mac hparse
  · rw [onDevice, onDevice, hinvalid]
    rfl

/-- A subdocument is the same when its link is, and the reference that the link names. -/
theorem resolved_congr {device id : String} (hlink : m'.links (device, id) = m.links (device, id))
    (hreference : ∀ version target, m.links (device, id) = some ⟨version, .reference target⟩ →
      m'.references target = m.references target) :
    m'.resolved device id = m.resolved device id := by
  rw [resolved, resolved, hlink]
  match h : m.links (device, id) with
  | none => rfl
  | some ⟨version, .inline bytes⟩ => rfl
  | some ⟨version, .reference target⟩ =>
    dsimp only
    rw [hreference version target h]

/-- What is read depends only on the documents that it concerns. -/
theorem reply_congr (hq : q.IsRead) (hf : m'.failing = m.failing)
    (h : ∀ d, m.Concerns d q → m'.SameAt m d) : (m'.perform q).1 = (m.perform q).1 := by
  cases q with
  | getReference id =>
    have hsame : m'.references id = m.references id := h (.reference id) rfl
    exact access_congr hf (by rw [reference, reference, hsame])
  | record address id =>
    refine onDevice_congr fun mac hparse => ?_
    have hsame : m'.links (mac.text, id) = m.links (mac.text, id) :=
      h (.link mac id) ⟨mac, hparse, rfl⟩
    exact access_congr hf (by rw [hsame])
  | resolve address id =>
    refine onDevice_congr fun mac hparse => ?_
    have hsame : m'.links (mac.text, id) = m.links (mac.text, id) :=
      h (.link mac id) ⟨mac, hparse, .inl rfl⟩
    have hresolved : m'.resolved mac.text id = m.resolved mac.text id :=
      resolved_congr hsame fun version target hlink =>
        h (.reference target) ⟨mac, hparse, .inr ⟨version, target, hlink, rfl⟩⟩
    exact access_congr hf (by rw [hresolved])
  | getParams address =>
    refine onDevice_congr fun mac hparse => ?_
    have hsame : m'.params mac.text = m.params mac.text := h (.params mac) ⟨mac, hparse, rfl⟩
    exact access_congr hf (by rw [hsame])
  | _ => cases hq

/-- An operation on one document does not show in what is read of others. -/
theorem reply_after_other (hop : ∀ on, op ≠ .setFailing on) (hq : q.IsRead)
    (hd : ∀ d ∈ op.target?, ¬ m.Concerns d q) :
    ((m.perform op).2.perform q).1 = (m.perform q).1 := by
  have hchanges := changesOnly_perform hop m
  refine reply_congr hq hchanges.failing fun d hconcerns => ?_
  exact hchanges.same d fun ht => hd d ht hconcerns

/-- What a subdocument that is linked to a reference is after a write of that reference. -/
theorem resolved_update {device id target : String} {version : Version}
    (h : m.links (device, id) = some ⟨version, .reference target⟩) (value : Option Bytes) :
    ({ m with references := Function.update m.references target value } : Maps).resolved device id =
      value.map fun bytes => ⟨id, Version.combine [version, Version.ofBytes bytes], bytes⟩ := by
  rw [resolved]
  dsimp only
  rw [h]
  dsimp only
  rw [Function.update_self]

/-- A link that is read is that of the device that is named, in a backend that answers. -/
theorem links_of_reply {address id : String} {r : Record}
    (h : (m.perform (.record address id)).1 = .record (some r)) :
    ∃ mac, Mac.parse address = .ok mac ∧ m.failing = false ∧ m.links (mac.text, id) = some r := by
  rw [perform] at h
  rcases Mac.parse_cases address with ⟨mac, hparse, -⟩ | ⟨-, hinvalid⟩
  · rw [onDevice_of_parse hparse] at h
    cases hf : m.failing with
    | true =>
      rw [access, hf] at h
      cases h
    | false =>
      rw [access_of_answers hf] at h
      exact ⟨mac, hparse, rfl, Reply.record.inj h⟩
  · rw [onDevice, hinvalid] at h
    cases h

/-- A subdocument shows the writes and removals of the reference that its link names. -/
theorem reply_after_reference {address id target : String} {version : Version}
    (h : (m.perform (.record address id)).1 = .record (some ⟨version, .reference target⟩)) :
    (∀ bytes, ((m.perform (.putReference target bytes)).2.perform (.resolve address id)).1 =
      .resolved (some ⟨id, Version.combine [version, Version.ofBytes bytes], bytes⟩)) ∧
    ((m.perform (.deleteReference target)).2.perform (.resolve address id)).1 = .resolved none := by
  obtain ⟨mac, hparse, hf, hlink⟩ := links_of_reply h
  have hresolve : ∀ value : Option Bytes,
      (({ m with references := Function.update m.references target value } : Maps).perform
        (.resolve address id)).1 = .resolved (value.map fun bytes =>
          ⟨id, Version.combine [version, Version.ofBytes bytes], bytes⟩) := by
    intro value
    have hanswers : ({ m with references := Function.update m.references target value } :
        Maps).failing = false := hf
    rw [perform, onDevice_of_parse hparse, access_of_answers hanswers, resolved_update hlink]
  constructor
  · intro bytes
    rw [perform.eq_1, access_of_answers hf, hresolve]
    rfl
  · rw [perform.eq_3, access_of_answers hf, hresolve]
    rfl

end Maps

/-- No run of operations from an empty store tells the stores from three maps. After it, an
operation on one document shows in no read that another document is asked for, and a write or
removal of a reference shows in the subdocuments that are linked to it. -/
theorem replies_eq_maps (failing : Bool) (journal : List Access) (uuids : UuidSupply)
    (history : List Operation) :
    let start : State := { backend := { failing, journal }, uuids }
    let s := Operation.runAll history start
    let m := (Maps.empty failing uuids.next).performAll history
    Operation.replies history start = (Maps.empty failing uuids.next).replies history ∧
    (∀ op q : Operation, (∀ on, op ≠ .setFailing on) → q.IsRead →
      (∀ d ∈ op.target?, ¬ m.Concerns d q) → (q.run (op.run s).2).1 = (q.run s).1) ∧
    (∀ address id target version,
      ((Operation.record address id).run s).1 = .record (some ⟨version, .reference target⟩) →
      (∀ bytes,
        ((Operation.resolve address id).run ((Operation.putReference target bytes).run s).2).1 =
          .resolved (some ⟨id, Version.combine [version, Version.ofBytes bytes], bytes⟩)) ∧
      ((Operation.resolve address id).run ((Operation.deleteReference target).run s).2).1 =
        .resolved none) := by
  intro start s m
  obtain ⟨hreplies, hm⟩ := (Represents.empty failing journal uuids).run history
  have hthen : ∀ op q : Operation, (q.run (op.run s).2).1 = ((m.perform op).2.perform q).1 :=
    fun op q => ((hm.step op).2.step q).1
  refine ⟨hreplies, fun op q hop hq hd => ?_, fun address id target version hrecord => ?_⟩
  · rw [hthen, (hm.step q).1]
    exact Maps.reply_after_other hop hq hd
  · rw [(hm.step _).1] at hrecord
    obtain ⟨hput, hdelete⟩ := Maps.reply_after_reference hrecord
    refine ⟨fun bytes => ?_, ?_⟩
    · rw [hthen]
      exact hput bytes
    · rw [hthen]
      exact hdelete

/-- A reference whose id has a slash, and a subdocument of a device in small letters that is linked
to it. -/
def sharedHistory : List Operation :=
  [.putReference "a/b" [1], .link "00000000000a" "lan" (.reference "a/b")]

/-- After the sample history the pair is linked under the first draw. -/
theorem links_sharedHistory :
    ((Maps.empty false 0).performAll sharedHistory).links ("00000000000A", "lan") =
      some ⟨Version.ofBytes (uuidAt 0), .reference "a/b"⟩ := by
  have hupper : Text.upper "00000000000a" = "00000000000A" := by decide
  have hvalid : Mac.isValid "00000000000a" = true := by decide
  rw [sharedHistory, Maps.performAll, List.foldl_cons, List.foldl_cons, List.foldl_nil,
    Maps.perform.eq_4, Maps.onDevice, if_pos hvalid, hupper, Maps.access_of_answers]
  · dsimp only
    rw [Function.update_self]
    rfl
  · rfl

/-- The subdocument is found under the device in capitals. Removing another reference does not
touch it, and removing its own makes it absent. -/
theorem replies_eq_maps_shared :
    let s := Operation.runAll sharedHistory {}
    ((Operation.resolve "00000000000A" "lan").run ((Operation.deleteReference "a").run s).2).1 =
        ((Operation.resolve "00000000000A" "lan").run s).1 ∧
      ((Operation.resolve "00000000000A" "lan").run
        ((Operation.deleteReference "a/b").run s).2).1 = .resolved none := by
  intro s
  obtain ⟨-, hother, hlinked⟩ := replies_eq_maps false [] {} sharedHistory
  have hm := ((Represents.empty false [] {}).run sharedHistory).2
  have hvalid : Mac.isValid "00000000000A" = true := by decide
  have hupper : Text.upper "00000000000A" = "00000000000A" := by decide
  obtain ⟨mac, hparse, -, htext⟩ | ⟨-, hinvalid⟩ := Mac.parse_cases "00000000000A"
  rotate_left
  · rw [hinvalid] at hvalid
    cases hvalid
  have hlink := links_sharedHistory
  rw [← hupper, ← htext] at hlink
  constructor
  · refine hother _ _ (fun on => by simp) trivial fun d hd hconcerns => ?_
    obtain rfl := Option.some.inj hd
    obtain ⟨mac', hmac, heq | ⟨version, target, htarget, heq⟩⟩ := hconcerns
    · cases heq
    · rw [hparse] at hmac
      obtain rfl := Except.ok.inj hmac
      rw [hlink] at htarget
      obtain rfl := DocumentName.reference.inj heq
      revert htarget
      simp
  · refine (hlinked _ _ _ (Version.ofBytes (uuidAt 0)) ?_).2
    rw [(hm.step _).1, Maps.perform, Maps.onDevice_of_parse hparse, hlink]
    rfl

end GatewayConfig.Store
