import GatewayConfig.Proofs.Store.Reading
import GatewayConfig.Store.Link

/-!
# What changes the store

The documents change by four operations, each of which writes or removes one key, or does nothing
when the backend is failing. Only a link draws an identifier, and it does so in either case.
-/

namespace GatewayConfig.Store

/-- A fresh version takes one draw and touches nothing else. -/
theorem run_freshVersion {ε : Type} (s : State) :
    (freshVersion : Action ε Version) s =
      (.ok (Version.ofBytes (uuidAt s.uuids.next)), { s with uuids := ⟨s.uuids.next + 1⟩ }) := rfl

/-- A put is in the journal whether or not it succeeds. When the backend fails the entries stay. -/
theorem run_put (key : String) (value : Bytes) (s : State) :
    put key value s = (if s.backend.failing then .error .unavailable else .ok (),
      { s with backend := { s.backend with
        entries := if s.backend.failing then s.backend.entries
          else s.backend.entries.insert key value
        journal := .write key :: s.backend.journal } }) := by
  simp only [put, access]
  split <;> rfl

/-- A deletion is in the journal whether or not it succeeds. When the backend fails the entries
stay. -/
theorem run_delete (key : String) (s : State) :
    delete key s = (if s.backend.failing then .error .unavailable else .ok (),
      { s with backend := { s.backend with
        entries := if s.backend.failing then s.backend.entries else s.backend.entries.erase key
        journal := .delete key :: s.backend.journal } }) := by
  simp only [delete, access]
  split <;> rfl

/-- The documents with a value under a key, or with none. -/
def Entries.set (es : Entries) (key : String) : Option Bytes → Entries
  | some value => es.insert key value
  | none => es.erase key

/-- Setting a key, or clearing it, leaves every other key. -/
theorem Entries.get?_set (es : Entries) (key k : String) (value : Option Bytes) :
    (es.set key value).get? k = if k = key then value else es.get? k := by
  cases value with
  | some value => exact es.get?_insert key k value
  | none => exact es.get?_erase key k

/-- An action that sets one key and yields a value, or is refused. -/
structure Writes {α : Type} (key : String) (value : Option Bytes) (a : Action Error α) (x : α) :
    Prop where
  /-- It succeeds when the backend answers. -/
  result : ∀ s, (a s).1 = if s.backend.failing then .error .unavailable else .ok x
  /-- Only then it has its effect. -/
  entries : ∀ s, (a s).2.backend.entries =
    if s.backend.failing then s.backend.entries else s.backend.entries.set key value
  /-- The backend goes on as it does. -/
  failing : ∀ s, (a s).2.backend.failing = s.backend.failing
  /-- Nothing is drawn. -/
  uuids : ∀ s, (a s).2.uuids = s.uuids
  /-- It is one access. -/
  journal : ∀ s, ∃ note, (a s).2.backend.journal = note :: s.backend.journal

namespace Writes

/-- A put writes its own key. -/
theorem put (key : String) (value : Bytes) : Writes key (some value) (Store.put key value) () := by
  constructor
  case result => intro s; rw [run_put]
  case entries => intro s; rw [run_put]; rfl
  case failing => intro s; rw [run_put]
  case uuids => intro s; rw [run_put]
  case journal => intro s; rw [run_put]; exact ⟨_, rfl⟩

/-- A deletion clears its own key. -/
theorem delete (key : String) : Writes key none (Store.delete key) () := by
  constructor
  case result => intro s; rw [run_delete]
  case entries => intro s; rw [run_delete]; rfl
  case failing => intro s; rw [run_delete]
  case uuids => intro s; rw [run_delete]
  case journal => intro s; rw [run_delete]; exact ⟨_, rfl⟩

/-- What is made of the value of a write is a write. -/
theorem map {α β : Type} {key : String} {value : Option Bytes} {a : Action Error α} {x : α}
    (h : Writes key value a x) (f : α → β) :
    Writes key value (a >>= fun x => pure (f x)) (f x) := by
  constructor
  case result =>
    intro s
    rw [run_bind_pure, h.result]
    split <;> rfl
  case entries => intro s; rw [run_bind_pure]; exact h.entries s
  case failing => intro s; rw [run_bind_pure]; exact h.failing s
  case uuids => intro s; rw [run_bind_pure]; exact h.uuids s
  case journal => intro s; rw [run_bind_pure]; exact h.journal s

/-- A write leaves what stands under other keys as it is. -/
theorem get?_of_ne {α : Type} {key k : String} {value : Option Bytes} {a : Action Error α} {x : α}
    (h : Writes key value a x) (hk : k ≠ key) (s : State) :
    (a s).2.backend.entries.get? k = s.backend.entries.get? k := by
  rw [h.entries]
  split
  · rfl
  · rw [Entries.get?_set, if_neg hk]

/-- A reference document is written under its own key, and its version is the hash of its bytes. -/
theorem putReference (id : String) (bytes : Bytes) :
    Writes (referenceKey id) (some bytes) (Store.putReference id bytes) (Version.ofBytes bytes) :=
  (put _ _).map fun _ => Version.ofBytes bytes

/-- The deletion of a reference document clears its own key, whether or not it was there. -/
theorem deleteReference (id : String) :
    Writes (referenceKey id) none (Store.deleteReference id) () := delete _

/-- An unlinking clears the key of the pair, whether or not it was linked. -/
theorem unlink (mac : Mac) (id : String) : Writes (linkKey mac id) none (Store.unlink mac id) () :=
  delete _

/-- Parameters are written under the key of their device. -/
theorem setParams (mac : Mac) (params : String) :
    Writes (paramsKey mac) (some (Bytes.ofText params)) (Store.setParams mac params) () := put _ _

/-- A link is a write of a record whose version is drawn first. -/
theorem link (mac : Mac) (id : String) (payload : Payload) (version : Version) :
    Writes (linkKey mac id) (some (Record.encode ⟨version, payload⟩))
      (do Store.put (linkKey mac id) (Record.encode ⟨version, payload⟩); return version) version :=
  (put _ _).map fun _ => version

end Writes

/-- A link draws its version whether or not the backend accepts it. -/
theorem run_link (mac : Mac) (id : String) (payload : Payload) (s : State) :
    link mac id payload s =
      (do
        put (linkKey mac id) (Record.encode ⟨Version.ofBytes (uuidAt s.uuids.next), payload⟩)
        return Version.ofBytes (uuidAt s.uuids.next) : Action Error Version)
      { s with uuids := ⟨s.uuids.next + 1⟩ } :=
  run_bind_of_ok (run_freshVersion s) _

/-- An operation on the documents, or a switch of the backend's failure. -/
inductive Change where
  /-- Create or replace a reference document. -/
  | putReference (id : String) (bytes : Bytes)
  /-- Remove a reference document. -/
  | deleteReference (id : String)
  /-- Link a subdocument of a device. -/
  | link (mac : Mac) (id : String) (payload : Payload)
  /-- Remove a link. -/
  | unlink (mac : Mac) (id : String)
  /-- Switch the backend's failure on or off. -/
  | setFailing (on : Bool)
  deriving DecidableEq

namespace Change

/-- The state after a change, whether it succeeds or fails. -/
def apply : Change → State → State
  | putReference id bytes, s => (Store.putReference id bytes s).2
  | deleteReference id, s => (Store.deleteReference id s).2
  | link mac id payload, s => (Store.link mac id payload s).2
  | unlink mac id, s => (Store.unlink mac id s).2
  | setFailing on, s => Store.setFailing on s

/-- What a change makes of the documents when the backend answers. The number is the position of
the next identifier. -/
def effect (next : Nat) : Change → Entries → Entries
  | putReference id bytes, es => es.insert (referenceKey id) bytes
  | deleteReference id, es => es.erase (referenceKey id)
  | link mac id payload, es =>
    es.insert (linkKey mac id) (Record.encode ⟨Version.ofBytes (uuidAt next), payload⟩)
  | unlink mac id, es => es.erase (linkKey mac id)
  | setFailing _, es => es

/-- How many identifiers a change draws. -/
def draws : Change → Nat
  | link .. => 1
  | _ => 0

/-- A change has its effect when the backend answers, and none on the documents otherwise. -/
theorem apply_spec (c : Change) (s : State) :
    (c.apply s).backend.entries =
        (if s.backend.failing then s.backend.entries
          else c.effect s.uuids.next s.backend.entries) ∧
      (c.apply s).uuids.next = s.uuids.next + c.draws := by
  cases c with
  | putReference id bytes =>
    have hwrites := Writes.putReference id bytes
    exact ⟨hwrites.entries s, congrArg UuidSupply.next (hwrites.uuids s)⟩
  | deleteReference id =>
    have hwrites := Writes.deleteReference id
    exact ⟨hwrites.entries s, congrArg UuidSupply.next (hwrites.uuids s)⟩
  | link mac id payload =>
    have hwrites := Writes.link mac id payload (Version.ofBytes (uuidAt s.uuids.next))
    have hnext := congrArg UuidSupply.next (hwrites.uuids { s with uuids := ⟨s.uuids.next + 1⟩ })
    rw [apply, run_link]
    exact ⟨hwrites.entries { s with uuids := ⟨s.uuids.next + 1⟩ }, hnext⟩
  | unlink mac id =>
    have hwrites := Writes.unlink mac id
    exact ⟨hwrites.entries s, congrArg UuidSupply.next (hwrites.uuids s)⟩
  | setFailing on =>
    refine ⟨?_, rfl⟩
    rw [effect, ite_self]
    rfl

end Change

end GatewayConfig.Store
