import GatewayConfig.Proofs.Store.Current

/-!
# Stores that agree

Documents have no order for a caller, though a backend keeps them in one. Two stores with the same
documents, whatever their order, and the same identifiers to come cannot be told apart: every
operation and every fetch answers alike from both and leaves stores that agree again
(`State.Agrees.run`, `State.Agrees.fetch`, `State.Agrees.applyAll`).
-/

namespace GatewayConfig.Store

variable {ε α : Type}

/-- Two states with the same documents and the same identifiers to come. The order in which the
documents were stored may differ, as may the journals. -/
structure State.Agrees (s t : State) : Prop where
  /-- The same documents are stored. -/
  get? : ∀ key, s.backend.entries.get? key = t.backend.entries.get? key
  /-- Both backends answer, or neither does. -/
  failing : s.backend.failing = t.backend.failing
  /-- The same identifiers are to come. -/
  uuids : s.uuids = t.uuids

namespace State.Agrees

variable {s t u : State}

/-- A state agrees with itself. -/
theorem refl (s : State) : s.Agrees s := ⟨fun _ => rfl, rfl, rfl⟩

/-- Agreement passes on from one state to the next. -/
theorem trans (h : s.Agrees t) (h' : t.Agrees u) : s.Agrees u :=
  ⟨fun key => (h.get? key).trans (h'.get? key), h.failing.trans h'.failing, h.uuids.trans h'.uuids⟩

/-- Agreement has no direction. -/
theorem symm (h : s.Agrees t) : t.Agrees s :=
  ⟨fun key => (h.get? key).symm, h.failing.symm, h.uuids.symm⟩

/-- States that differ in their journals only agree. -/
theorem of_alike (h : s.Alike t) : s.Agrees t :=
  ⟨fun key => by rw [h.entries], h.failing, h.uuids⟩

/-- Reads of agreeing states leave agreeing states. -/
theorem read {a : Action ε α} (h : s.Agrees t) (ha : Reads a) : (a s).2.Agrees (a t).2 :=
  ((of_alike (ha.same s)).trans h).trans (of_alike (ha.same t)).symm

/-- The same reference document is read in states that agree. -/
theorem getReference_eq (h : s.Agrees t) (id : String) :
    (getReference id s).1 = (getReference id t).1 := by
  rw [getReference_result, getReference_result, h.failing, h.get?]

/-- The same record is read in states that agree. -/
theorem record_eq (h : s.Agrees t) (mac : Mac) (id : String) :
    (record mac id s).1 = (record mac id t).1 := by
  rw [record_result, record_result, h.failing, h.get?]

/-- The same document is resolved in states that agree. -/
theorem resolve_eq (h : s.Agrees t) (mac : Mac) (id : String) :
    (resolve mac id s).1 = (resolve mac id t).1 := by
  simp only [resolve_result, h.record_eq, h.getReference_eq]

/-- The same parameters are read in states that agree. -/
theorem getParams_eq (h : s.Agrees t) (mac : Mac) : (getParams mac s).1 = (getParams mac t).1 := by
  rw [getParams_result, getParams_result, h.failing, h.get?]

/-- Writes to agreeing states have the same result and leave agreeing states. -/
theorem write {key : String} {value : Option Bytes} {a : Action Error α} {x : α}
    (h : s.Agrees t) (ha : Writes key value a x) :
    (a s).1 = (a t).1 ∧ (a s).2.Agrees (a t).2 := by
  refine ⟨by rw [ha.result, ha.result, h.failing], ?_⟩
  constructor
  case get? =>
    intro k
    rw [ha.entries, ha.entries, h.failing]
    split
    · exact h.get? k
    · rw [Entries.get?_set, Entries.get?_set, h.get?]
  case failing => rw [ha.failing, ha.failing, h.failing]
  case uuids => rw [ha.uuids, ha.uuids, h.uuids]

/-- So do links, which take the same version in both. -/
theorem link (h : s.Agrees t) (mac : Mac) (id : String) (payload : Payload) :
    (link mac id payload s).1 = (link mac id payload t).1 ∧
      (link mac id payload s).2.Agrees (link mac id payload t).2 := by
  have hdrawn : State.Agrees { s with uuids := ⟨s.uuids.next + 1⟩ }
      { t with uuids := ⟨t.uuids.next + 1⟩ } := ⟨h.get?, h.failing, by rw [h.uuids]⟩
  rw [run_link, run_link, h.uuids]
  rw [h.uuids] at hdrawn
  exact hdrawn.write (Writes.link mac id payload _)

/-- An action on a device keeps agreement when it does so for every address. An address that is no
MAC is refused alike. -/
theorem onDevice (h : s.Agrees t) (address : String) {act : Mac → State → Reply × State}
    (hact : ∀ mac, (act mac s).1 = (act mac t).1 ∧ (act mac s).2.Agrees (act mac t).2) :
    (Store.onDevice address act s).1 = (Store.onDevice address act t).1 ∧
      (Store.onDevice address act s).2.Agrees (Store.onDevice address act t).2 := by
  rw [Store.onDevice, Store.onDevice]
  cases Mac.parse address with
  | ok mac => exact hact mac
  | error reason => exact ⟨rfl, h⟩

/-- What a reply tells of results that are the same is the same. -/
theorem replying {a : Action Error α} (shown : α → Reply)
    (h : (a s).1 = (a t).1 ∧ (a s).2.Agrees (a t).2) :
    (replying shown a s).1 = (Store.replying shown a t).1 ∧
      (Store.replying shown a s).2.Agrees (Store.replying shown a t).2 :=
  ⟨congrArg (Reply.ofResult shown) h.1, h.2⟩

/-- An operation on agreeing states gets the same reply and leaves agreeing states. -/
theorem run (h : s.Agrees t) (op : Operation) :
    (op.run s).1 = (op.run t).1 ∧ (op.run s).2.Agrees (op.run t).2 := by
  cases op with
  | putReference id bytes => exact replying _ (h.write (Writes.putReference id bytes))
  | getReference id => exact replying _ ⟨h.getReference_eq id, h.read (reads_getReference id)⟩
  | deleteReference id => exact replying _ (h.write (Writes.deleteReference id))
  | link address id payload =>
    exact h.onDevice address fun mac => replying _ (h.link mac id payload)
  | record address id =>
    exact h.onDevice address fun mac =>
      replying _ ⟨h.record_eq mac id, h.read (reads_record mac id)⟩
  | resolve address id =>
    exact h.onDevice address fun mac =>
      replying _ ⟨h.resolve_eq mac id, h.read (reads_resolve mac id)⟩
  | unlink address id =>
    exact h.onDevice address fun mac => replying _ (h.write (Writes.unlink mac id))
  | setParams address params =>
    exact h.onDevice address fun mac => replying _ (h.write (Writes.setParams mac params))
  | getParams address =>
    exact h.onDevice address fun mac =>
      replying _ ⟨h.getParams_eq mac, h.read (reads_getParams mac)⟩
  | setFailing on => exact ⟨rfl, h.get?, rfl, h.uuids⟩

/-- The same members are present in states that agree, and the same error ends the list. -/
theorem presentMembers_eq (h : s.Agrees t) (mac : Mac) (members : List (String × Version)) :
    (presentMembers mac members s).1 = (presentMembers mac members t).1 := by
  induction members with
  | nil => rfl
  | cons m rest ih =>
    have hresolve := h.resolve_eq mac m.1
    cases hm : (resolve mac m.1 t).1 with
    | ok found =>
      rw [presentMembers_cons_of_ok (hresolve.trans hm), presentMembers_cons_of_ok hm, ih]
    | error e =>
      rw [presentMembers_cons_of_error (hresolve.trans hm), presentMembers_cons_of_error hm]

/-- An answer about what is present depends only on the identifiers to come. -/
theorem answer (h : s.Agrees t) (request : GroupRequest) (present : List (Resolved × Version)) :
    (answer request present s).1 = (Store.answer request present t).1 ∧
      (Store.answer request present s).2.Agrees (Store.answer request present t).2 := by
  cases hc : isCurrent request.rootVersion (rootOf present) present with
  | true =>
    rw [answer_of_current hc, answer_of_current hc]
    exact ⟨rfl, h⟩
  | false =>
    rw [answer_of_stale hc, answer_of_stale hc, h.uuids]
    exact ⟨rfl, h.get?, h.failing, rfl⟩

/-- A fetch from agreeing states has the same answer and leaves agreeing states. -/
theorem fetch (h : s.Agrees t) (mac : Mac) (request : GroupRequest) :
    (fetch mac request s).1 = (Store.fetch mac request t).1 ∧
      (Store.fetch mac request s).2.Agrees (Store.fetch mac request t).2 := by
  have hmembers := h.presentMembers_eq mac request.members
  cases hm : (presentMembers mac request.members t).1 with
  | error e =>
    obtain ⟨hs, hsame⟩ := fetch_of_error (hmembers.trans hm)
    obtain ⟨ht, htsame⟩ := fetch_of_error hm
    exact ⟨hs.trans ht.symm, ((of_alike hsame).trans h).trans (of_alike htsame).symm⟩
  | ok present =>
    obtain ⟨s', hs', hfetch⟩ := fetch_of_ok (hmembers.trans hm)
    obtain ⟨t', ht', hfetch'⟩ := fetch_of_ok hm
    rw [hfetch, hfetch']
    exact answer (((of_alike hs').trans h).trans (of_alike ht').symm) request present

/-- Agreeing states go on to agree, whatever happens to both. -/
theorem applyAll (h : s.Agrees t) (activities : List Activity) :
    (Activity.applyAll activities s).Agrees (Activity.applyAll activities t) := by
  induction activities generalizing s t with
  | nil => exact h
  | cons a rest ih =>
    cases a with
    | operation op => exact ih (h.run op).2
    | fetch mac request => exact ih (h.fetch mac request).2

end State.Agrees

end GatewayConfig.Store
