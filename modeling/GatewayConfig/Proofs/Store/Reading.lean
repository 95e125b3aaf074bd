import GatewayConfig.Proofs.Action
import GatewayConfig.Store.Link
import GatewayConfig.Store.Params

/-!
# Actions that only read

A read notes its accesses in the journal and changes nothing else, and what it yields does not
depend on the journal. These properties pass from the parts of an action to the whole, so an action
that reads several documents yields what each read yields on the state before the first.
-/

namespace GatewayConfig.Store

variable {ε α β : Type}

/-- Two states that differ in nothing but their journals. -/
structure State.Alike (s t : State) : Prop where
  /-- The same documents are stored. -/
  entries : s.backend.entries = t.backend.entries
  /-- Both backends answer, or neither does. -/
  failing : s.backend.failing = t.backend.failing
  /-- The same identifiers are to come. -/
  uuids : s.uuids = t.uuids

/-- A state is like itself. -/
theorem State.Alike.refl (s : State) : s.Alike s := ⟨rfl, rfl, rfl⟩

/-- Likeness passes on from one state to the next. -/
theorem State.Alike.trans {s t u : State} (h : s.Alike t) (h' : t.Alike u) : s.Alike u :=
  ⟨h.entries.trans h'.entries, h.failing.trans h'.failing, h.uuids.trans h'.uuids⟩

/-- An action that changes nothing but the journal and takes no notice of it. -/
structure Reads (a : Action ε α) : Prop where
  /-- Only the journal changes. -/
  same : ∀ s, (a s).2.Alike s
  /-- The result does not depend on the journal. -/
  blind : ∀ {s t : State}, s.Alike t → (a s).1 = (a t).1
  /-- Each access that is noted is a read. -/
  notes : ∀ s, ∃ keys : List String, (a s).2.backend.journal = keys.map .read ++ s.backend.journal

/-- Returning a value reads nothing. -/
theorem reads_pure (x : α) : Reads (pure x : Action ε α) :=
  ⟨State.Alike.refl, fun _ => rfl, fun _ => ⟨[], rfl⟩⟩

/-- Failing reads nothing. -/
theorem reads_throw (e : ε) : Reads (throw e : Action ε α) :=
  ⟨State.Alike.refl, fun _ => rfl, fun _ => ⟨[], rfl⟩⟩

namespace Reads

variable {a : Action ε α} {f : α → Action ε β} {s : State}

/-- A read leaves behind a state in which any other read yields the same. -/
theorem run_eq (ha : Reads a) (s : State) : ∃ t, a s = ((a s).1, t) ∧ t.Alike s :=
  ⟨(a s).2, rfl, ha.same s⟩

/-- What follows a read that succeeds yields what it would without that read. -/
theorem bind_of_ok {x : α} (ha : Reads a) (hf : Reads (f x)) (h : (a s).1 = .ok x) :
    ((a >>= f) s).1 = (f x s).1 ∧ ((a >>= f) s).2.Alike s := by
  obtain ⟨t, hrun, ht⟩ := ha.run_eq s
  rw [h] at hrun
  rw [run_bind_of_ok hrun]
  exact ⟨hf.blind ht, (hf.same t).trans ht⟩

/-- A chain stops at its first action when that fails, and only the journal has changed. -/
theorem bind_of_error {e : ε} (ha : Reads a) (f : α → Action ε β) (h : (a s).1 = .error e) :
    ((a >>= f) s).1 = .error e ∧ ((a >>= f) s).2.Alike s := by
  obtain ⟨t, hrun, ht⟩ := ha.run_eq s
  rw [h] at hrun
  rw [run_bind_of_error hrun]
  exact ⟨rfl, ht⟩

/-- A chain of actions that read reads. -/
theorem bind (ha : Reads a) (hf : ∀ x, Reads (f x)) : Reads (a >>= f) := by
  constructor
  case same =>
    intro s
    cases h : (a s).1 with
    | error e => exact (ha.bind_of_error f h).2
    | ok x => exact (ha.bind_of_ok (hf x) h).2
  case blind =>
    intro s t hst
    have hsame := ha.blind hst
    cases h : (a s).1 with
    | error e => rw [(ha.bind_of_error f h).1, (ha.bind_of_error f (hsame ▸ h)).1]
    | ok x =>
      rw [(ha.bind_of_ok (hf x) h).1, (ha.bind_of_ok (hf x) (hsame ▸ h)).1]
      exact (hf x).blind hst
  case notes =>
    intro s
    obtain ⟨keys, hkeys⟩ := ha.notes s
    obtain ⟨t, hrun, -⟩ := ha.run_eq s
    rw [hrun] at hkeys
    cases h : (a s).1 with
    | error e =>
      rw [run_bind_of_error (hrun.trans (by rw [h]))]
      exact ⟨keys, hkeys⟩
    | ok x =>
      obtain ⟨more, hmore⟩ := (hf x).notes t
      rw [run_bind_of_ok (hrun.trans (by rw [h]))]
      refine ⟨more ++ keys, ?_⟩
      rw [hmore, hkeys, List.map_append, List.append_assoc]

end Reads

/-- A read is in the journal whether or not it succeeds, and finds what is stored unless the backend
fails. -/
theorem run_get (key : String) (s : State) :
    get key s = (if s.backend.failing then .error .unavailable
        else .ok (s.backend.entries.get? key),
      { s with backend := { s.backend with journal := .read key :: s.backend.journal } }) := by
  simp only [get, access]
  split <;> rfl

/-- The read of a key reads. -/
theorem reads_get (key : String) : Reads (get key) := by
  constructor
  case same => intro s; rw [run_get]; exact ⟨rfl, rfl, rfl⟩
  case blind => intro s t h; rw [run_get, run_get, h.entries, h.failing]
  case notes => intro s; rw [run_get]; exact ⟨[key], rfl⟩

/-- So does that of a reference document. -/
theorem reads_getReference (id : String) : Reads (getReference id) :=
  (reads_get _).bind fun _ => reads_pure _

/-- So does that of a record, also of one that cannot be decoded. -/
theorem reads_record (mac : Mac) (id : String) : Reads (record mac id) := by
  refine (reads_get _).bind fun value => ?_
  cases value with
  | none => exact reads_pure none
  | some raw =>
    dsimp only
    cases Record.decode raw with
    | error damage => exact reads_throw _
    | ok r => exact reads_pure _

/-- So does that of a subdocument, which may look at a link and at the reference document behind
it. -/
theorem reads_resolve (mac : Mac) (id : String) : Reads (resolve mac id) := by
  refine (reads_record mac id).bind fun found => ?_
  match found with
  | none => exact reads_pure none
  | some ⟨version, .inline bytes⟩ => exact reads_pure _
  | some ⟨version, .reference target⟩ =>
    exact (reads_getReference target).bind fun _ => reads_pure _

/-- So does that of parameters. -/
theorem reads_getParams (mac : Mac) : Reads (getParams mac) := by
  refine (reads_get _).bind fun value => ?_
  cases value with
  | none => exact reads_pure none
  | some raw =>
    dsimp only
    cases Bytes.text? raw with
    | none => exact reads_throw _
    | some params => exact reads_pure _

/-- A reference document is read as it is stored. -/
theorem getReference_result (id : String) (s : State) :
    (getReference id s).1 = if s.backend.failing then .error .unavailable
      else .ok ((s.backend.entries.get? (referenceKey id)).map
        fun bytes => ⟨id, Version.ofBytes bytes, bytes⟩) := by
  have hget := run_get (referenceKey id) s
  cases hs : s.backend.failing with
  | true =>
    rw [hs, if_pos rfl] at hget
    rw [if_pos rfl, getReference, run_bind_of_error hget]
  | false =>
    rw [hs, if_neg Bool.false_ne_true] at hget
    rw [if_neg Bool.false_ne_true, getReference, run_bind_of_ok hget, run_pure]

/-- A link is read when the backend answers and what stands under its key, if anything, is a
record. -/
theorem record_result (mac : Mac) (id : String) (s : State) :
    (record mac id s).1 = if s.backend.failing then .error .unavailable
      else match s.backend.entries.get? (linkKey mac id) with
        | none => .ok none
        | some raw => match Record.decode raw with
          | .error damage => .error (.corrupt (linkKey mac id) damage)
          | .ok r => .ok (some r) := by
  have hget := run_get (linkKey mac id) s
  cases hs : s.backend.failing with
  | true =>
    rw [hs, if_pos rfl] at hget
    rw [if_pos rfl, record, run_bind_of_error hget]
  | false =>
    rw [hs, if_neg Bool.false_ne_true] at hget
    rw [if_neg Bool.false_ne_true, record, run_bind_of_ok hget]
    cases s.backend.entries.get? (linkKey mac id) with
    | none => rfl
    | some raw =>
      dsimp only
      cases Record.decode raw with
      | error damage => rfl
      | ok r => rfl

/-- A record that is read is stored under the key of the pair, encoded. -/
theorem record_cases {mac : Mac} {id : String} {s : State} {r : Record}
    (h : (record mac id s).1 = .ok (some r)) :
    ∃ raw, s.backend.entries.get? (linkKey mac id) = some raw ∧ Record.decode raw = .ok r := by
  rw [record_result] at h
  cases hs : s.backend.failing with
  | true => rw [hs] at h; cases h
  | false =>
    rw [hs, if_neg Bool.false_ne_true] at h
    cases hget : s.backend.entries.get? (linkKey mac id) with
    | none => rw [hget] at h; cases h
    | some raw =>
      rw [hget] at h
      dsimp only at h
      cases hd : Record.decode raw with
      | error damage => rw [hd] at h; cases h
      | ok r' =>
        rw [hd] at h
        obtain rfl := Option.some.inj (Except.ok.inj h)
        exact ⟨raw, rfl, hd⟩

/-- Query params are read when the backend answers and what stands under their key, if anything, is
a text. -/
theorem getParams_result (mac : Mac) (s : State) :
    (getParams mac s).1 = if s.backend.failing then .error .unavailable
      else match s.backend.entries.get? (paramsKey mac) with
        | none => .ok none
        | some raw => match Bytes.text? raw with
          | none => .error (.corrupt (paramsKey mac) .paramsEncoding)
          | some params => .ok (some params) := by
  have hget := run_get (paramsKey mac) s
  cases hs : s.backend.failing with
  | true =>
    rw [hs, if_pos rfl] at hget
    rw [if_pos rfl, getParams, run_bind_of_error hget]
  | false =>
    rw [hs, if_neg Bool.false_ne_true] at hget
    rw [if_neg Bool.false_ne_true, getParams, run_bind_of_ok hget]
    cases s.backend.entries.get? (paramsKey mac) with
    | none => rfl
    | some raw =>
      dsimp only
      cases Bytes.text? raw with
      | none => rfl
      | some params => rfl

/-- One access is made for query params, whatever it finds. -/
theorem getParams_state (mac : Mac) (s : State) :
    (getParams mac s).2 = (get (paramsKey mac) s).2 := by
  rw [getParams, run_bind]
  cases get (paramsKey mac) s with
  | mk result t =>
    match result with
    | .error e => rfl
    | .ok none => rfl
    | .ok (some raw) =>
      dsimp only
      cases Bytes.text? raw with
      | none => rfl
      | some params => rfl

/-- A subdocument is read by its link, and through it when the link names a reference. -/
theorem resolve_result (mac : Mac) (id : String) (s : State) :
    (resolve mac id s).1 = match (record mac id s).1 with
      | .error e => .error e
      | .ok none => .ok none
      | .ok (some ⟨version, .inline bytes⟩) => .ok (some ⟨id, version, bytes⟩)
      | .ok (some ⟨version, .reference target⟩) => (getReference target s).1.map fun found =>
          found.map fun d => ⟨id, Version.combine [version, d.version], d.bytes⟩ := by
  obtain ⟨t, hrecord, ht⟩ := (reads_record mac id).run_eq s
  rw [resolve]
  cases h : (record mac id s).1 with
  | error e => rw [run_bind_of_error (hrecord.trans (by rw [h]))]
  | ok found =>
    rw [h] at hrecord
    rw [run_bind_of_ok hrecord]
    match found with
    | none => rfl
    | some ⟨version, .inline bytes⟩ => rfl
    | some ⟨version, .reference target⟩ =>
      obtain ⟨u, hreference, -⟩ := (reads_getReference target).run_eq t
      rw [(reads_getReference target).blind ht] at hreference
      dsimp only
      cases hd : (getReference target s).1 with
      | error e => rw [run_bind_of_error (hreference.trans (by rw [hd]))]; rfl
      | ok d => rw [run_bind_of_ok (hreference.trans (by rw [hd]))]; rfl

/-- A subdocument that is present holds bytes of its own or those of an existing reference. -/
theorem resolve_cases {mac : Mac} {id : String} {s : State} {doc : Resolved}
    (h : (resolve mac id s).1 = .ok (some doc)) :
    (∃ version bytes, (record mac id s).1 = .ok (some ⟨version, .inline bytes⟩) ∧
      doc = ⟨id, version, bytes⟩) ∨
    ∃ version target bytes, (record mac id s).1 = .ok (some ⟨version, .reference target⟩) ∧
      s.backend.entries.get? (referenceKey target) = some bytes ∧
      doc = ⟨id, Version.combine [version, Version.ofBytes bytes], bytes⟩ := by
  rw [resolve_result] at h
  cases hrecord : (record mac id s).1 with
  | error e => rw [hrecord] at h; cases h
  | ok found =>
    rw [hrecord] at h
    match found with
    | none => cases h
    | some ⟨version, .inline bytes⟩ =>
      exact .inl ⟨version, bytes, rfl, (Option.some.inj (Except.ok.inj h)).symm⟩
    | some ⟨version, .reference target⟩ =>
      dsimp only at h
      rw [getReference_result] at h
      cases hs : s.backend.failing with
      | true => rw [hs] at h; cases h
      | false =>
        rw [hs, if_neg Bool.false_ne_true] at h
        cases hget : s.backend.entries.get? (referenceKey target) with
        | none => rw [hget] at h; cases h
        | some bytes =>
          rw [hget] at h
          exact .inr ⟨version, target, bytes, rfl, hget,
            (Option.some.inj (Except.ok.inj h)).symm⟩

/-- What is read of a record depends on the entries and on the failing flag only. -/
theorem record_congr {mac : Mac} {id : String} {s t : State}
    (he : s.backend.entries = t.backend.entries) (hf : s.backend.failing = t.backend.failing) :
    (record mac id s).1 = (record mac id t).1 := by
  rw [record_result, record_result, he, hf]

/-- What a read yields is decided by the documents and by whether the backend answers. -/
theorem resolve_congr {mac : Mac} {id : String} {s t : State}
    (he : s.backend.entries = t.backend.entries) (hf : s.backend.failing = t.backend.failing) :
    (resolve mac id s).1 = (resolve mac id t).1 := by
  simp only [resolve_result, record_congr he hf, getReference_result, he, hf]

end GatewayConfig.Store
