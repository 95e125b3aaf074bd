import GatewayConfig.Proofs.Http.Command
import GatewayConfig.Proofs.Store.Change
import GatewayConfig.Proofs.Store.Outcome
import GatewayConfig.Proofs.Telemetry.Pipeline

/-!
# What a request does to the documents

Every step of a command either makes no access but to read, or is the one access of a command that
is meant to change a document. Nothing that follows that access can fail, so a request either has
its effect and succeeds or leaves the documents alone. `handled_handle` says so of a whole request,
and `handle_atomic` draws the conclusion for the keys that a request can touch.
-/

namespace GatewayConfig.Http

open Store (Access Backend DocumentName)
open Telemetry (World)

/-- No document has changed, and no access was made but to read. -/
structure Kept (b after : Backend) : Prop where
  /-- The documents are the same. -/
  entries : after.entries = b.entries
  /-- The backend goes on as it does. -/
  failing : after.failing = b.failing
  /-- Each access that is noted is a read. -/
  notes : ∃ keys : List String, after.journal = keys.map .read ++ b.journal

/-- Nothing is lost where nothing happens. -/
theorem Kept.refl (b : Backend) : Kept b b := ⟨rfl, rfl, [], rfl⟩

/-- What two steps keep is kept by both together. -/
theorem Kept.trans {b after last : Backend} (h : Kept b after) (h' : Kept after last) :
    Kept b last := by
  obtain ⟨keys, hkeys⟩ := h.notes
  obtain ⟨more, hmore⟩ := h'.notes
  refine ⟨h'.entries.trans h.entries, h'.failing.trans h.failing, more ++ keys, ?_⟩
  rw [hmore, hkeys, List.map_append, List.append_assoc]

/-- An operation that reads documents at most. -/
def Keeps {ε α : Type} (a : Telemetry.Action ε α) : Prop :=
  ∀ w, Kept w.store.backend (a w).2.store.backend

section Keeps

variable {ε ε' α β : Type}

/-- A value that is at hand needs no access. -/
theorem keeps_pure (x : α) : Keeps (pure x : Telemetry.Action ε α) := fun w => .refl w.store.backend

/-- Neither does a failure. -/
theorem keeps_throw (e : ε) : Keeps (throw e : Telemetry.Action ε α) := fun w =>
  .refl w.store.backend

/-- An operation that keeps documents may be followed by one that does. -/
theorem Keeps.bind {a : Telemetry.Action ε α} {f : α → Telemetry.Action ε β} (ha : Keeps a)
    (hf : ∀ x, Keeps (f x)) : Keeps (a >>= f) := by
  intro w
  have hfirst := ha w
  rw [run_bind]
  cases h : a w with
  | mk result t =>
    rw [h] at hfirst
    cases result with
    | error e => exact hfirst
    | ok x => exact hfirst.trans (hf x t)

/-- A change of the error type makes no access. -/
theorem Keeps.adapt {a : Telemetry.Action ε α} (ha : Keeps a) (g : ε → ε') : Keeps (a.adapt g) := by
  intro w
  rw [run_adapt]
  exact ha w

/-- What only reads the store keeps it as a part of the world. -/
theorem keeps_onStore {a : Store.Action ε α} (ha : Store.Reads a) : Keeps (Telemetry.onStore a) :=
  fun w => ⟨(ha.same w.store).entries, (ha.same w.store).failing, ha.notes w.store⟩

/-- So does a step of a command that only reads the store. -/
theorem keeps_stored {a : Store.Action Store.Error α} (ha : Store.Reads a) : Keeps (stored a) :=
  (keeps_onStore ha).adapt _

/-- Putting a version on an answer makes no access. -/
theorem keeps_versioned (version : Version) (answer : Answer) :
    Keeps (versioned version answer) := by
  unfold versioned
  split
  · exact keeps_pure _
  · exact keeps_throw _

/-- A fetch reads documents at most. -/
theorem keeps_fetch (mac : Mac) (group : GroupRequest) :
    Keeps (Telemetry.onStore (Store.fetch mac group)) := fun w =>
  have hstate := Store.fetch_state mac group w.store
  ⟨hstate.1, hstate.2.1, Store.fetch_notes mac group w.store⟩

/-- A bundle reads the query params at most. -/
theorem keeps_bundle (s : Telemetry.Settings) (mac : Mac) (selection : Telemetry.Selection)
    (c : RequestContext) : Keeps (Telemetry.bundle s mac selection c) := by
  intro w
  cases h : Telemetry.bundle s mac selection c w with
  | mk result after =>
    have hbackend := (Telemetry.bundle_eq_iff.1 h).backend
    rw [hbackend]
    split
    · exact ⟨rfl, rfl, [Store.paramsKey mac], rfl⟩
    · exact .refl w.store.backend

end Keeps

/-- The document that a command is meant to change. -/
def Command.target? : Command → Option DocumentName
  | putReference id _ => some (.reference id)
  | deleteReference id => some (.reference id)
  | link mac id _ => some (.link mac id)
  | unlink mac id => some (.link mac id)
  | putParams mac _ => some (.params mac)
  | getReference _ | getDocument _ _ | fetch _ _ | getParams _ | poke _ _ | bundle _ _ => none

/-- What a command stores under its target. The number is the position of the next identifier. -/
def Command.value? (next : Nat) : Command → Option Bytes
  | putReference _ bytes => some bytes
  | link _ _ payload => some (Store.Record.encode ⟨Version.ofBytes (uuidAt next), payload⟩)
  | putParams _ params => some (Bytes.ofText params)
  | _ => none

/-- A command without a target reads documents at most. -/
theorem keeps_run {command : Command} (h : command.target? = none) (s : Telemetry.Settings)
    (c : RequestContext) : Keeps (command.run s c) := by
  cases command with
  | putReference id bytes => cases h
  | deleteReference id => cases h
  | link mac id payload => cases h
  | unlink mac id => cases h
  | putParams mac params => cases h
  | getReference id =>
    refine (keeps_stored (Store.reads_getReference id)).bind fun found => ?_
    cases found with
    | none => exact keeps_throw _
    | some doc => exact keeps_versioned _ _
  | getDocument mac id =>
    refine (keeps_stored (Store.reads_resolve mac id)).bind fun found => ?_
    cases found with
    | none => exact keeps_throw _
    | some doc => exact keeps_versioned _ _
  | fetch mac group =>
    refine ((keeps_fetch mac group).adapt fetchFailure).bind fun fetched => ?_
    cases fetched with
    | notModified root => exact keeps_versioned _ _
    | modified root message count => exact keeps_versioned _ _
  | getParams mac =>
    refine (keeps_stored (Store.reads_getParams mac)).bind fun found => ?_
    cases found with
    | none => exact keeps_throw _
    | some params => exact keeps_pure _
  | poke mac target => exact keeps_pure _
  | bundle mac selection =>
    exact ((keeps_bundle s mac selection c).adapt bundleFailure).bind fun b => keeps_versioned _ _

/-- A run that starts with a backend at a time sets one key and succeeds, or is refused by the
backend. It takes no time. -/
structure Sets (key : String) (value : Option Bytes) (b : Backend) (time : Nat)
    (out : Except Failure Answer × World) : Prop where
  /-- It succeeds when the backend answers. -/
  answered : b.failing = false → ∃ answer, out.1 = .ok answer ∧ answer.status = 200
  /-- It fails when the backend does. -/
  refused : b.failing = true → out.1 = .error (.internal Store.Error.unavailable.message)
  /-- The key is set only if the backend answers. -/
  entries : out.2.store.backend.entries = if b.failing then b.entries else b.entries.set key value
  /-- The backend goes on as it does. -/
  failing : out.2.store.backend.failing = b.failing
  /-- It is one access. -/
  journal : ∃ note, out.2.store.backend.journal = note :: b.journal
  /-- No time passes. -/
  clock : out.2.clock = time

/-- A step on the store fails as an internal error and leaves the rest of the world alone. -/
theorem run_stored {α : Type} (a : Store.Action Store.Error α) (w : World) :
    stored a w = ((a w.store).1.mapError fun e => .internal e.message,
      { w with store := (a w.store).2 }) := rfl

/-- A write whose answer cannot fail sets its key. -/
theorem sets_of_writes {α : Type} {key : String} {value : Option Bytes}
    {a : Store.Action Store.Error α} {x : α} {f : α → Telemetry.Action Failure Answer}
    {answer : Answer} (ha : Store.Writes key value a x) (hf : ∀ t, f x t = (.ok answer, t))
    (hstatus : answer.status = 200) (w : World) :
    Sets key value w.store.backend w.clock ((stored a >>= f) w) := by
  have hstored := run_stored a w
  rw [ha.result w.store] at hstored
  have hafter : ((stored a >>= f) w).2 = { w with store := (a w.store).2 } := by
    rw [run_bind, hstored]
    cases w.store.backend.failing with
    | true => rfl
    | false => exact congrArg Prod.snd (hf _)
  constructor
  case answered =>
    intro hanswers
    rw [hanswers] at hstored
    rw [run_bind_of_ok hstored, hf]
    exact ⟨answer, rfl, hstatus⟩
  case refused =>
    intro hfailing
    rw [hfailing] at hstored
    rw [run_bind_of_error hstored]
  case entries => rw [hafter]; exact ha.entries w.store
  case failing => rw [hafter]; exact ha.failing w.store
  case journal => rw [hafter]; exact ha.journal w.store
  case clock => rw [hafter]

/-- An answer with a well-formed version can be sent. -/
theorem versioned_of_isHex {version : Version} (h : version.IsHex) (answer : Answer) (w : World) :
    versioned version answer w = (.ok { answer with etag := some version.token }, w) := by
  rw [versioned, if_pos h.isHeaderValue]
  rfl

/-- A command with a target sets the key of the target. The version of a link is drawn before it is
written, so that write starts from another state than the command. -/
theorem sets_run {command : Command} {d : DocumentName} (h : command.target? = some d)
    (s : Telemetry.Settings) (c : RequestContext) (w : World) :
    Sets d.key (command.value? w.store.uuids.next) w.store.backend w.clock (command.run s c w) := by
  cases command with
  | putReference id bytes =>
    obtain rfl := Option.some.inj h
    have hversion := versioned_of_isHex (Version.isHex_hashed bytes) { status := 200 }
    exact sets_of_writes (Store.Writes.putReference id bytes) hversion rfl w
  | deleteReference id =>
    obtain rfl := Option.some.inj h
    exact sets_of_writes (Store.Writes.deleteReference id) (fun t => rfl) rfl w
  | link mac id payload =>
    obtain rfl := Option.some.inj h
    have hversion := versioned_of_isHex (Version.isHex_hashed (uuidAt w.store.uuids.next))
      { status := 200 }
    have hsets := sets_of_writes (f := fun version => versioned version { status := 200 })
      (Store.Writes.link mac id payload _) hversion rfl
      { w with store.uuids := ⟨w.store.uuids.next + 1⟩ }
    have hstored := run_stored (Store.link mac id payload) w
    rw [Store.run_link] at hstored
    rw [run_bind, run_stored] at hsets
    rw [Command.run, run_bind, hstored]
    exact hsets
  | unlink mac id =>
    obtain rfl := Option.some.inj h
    exact sets_of_writes (Store.Writes.unlink mac id) (fun t => rfl) rfl w
  | putParams mac params =>
    obtain rfl := Option.some.inj h
    exact sets_of_writes (Store.Writes.setParams mac params) (fun t => rfl) rfl w
  | getReference id => cases h
  | getDocument mac id => cases h
  | fetch mac group => cases h
  | getParams mac => cases h
  | poke mac target => cases h
  | bundle mac selection => cases h

/-- What a request does to the documents, by the status of its answer. -/
inductive Handled (v : Vocabulary) (r : Request) (b : Backend) : Nat → Backend → Prop
  /-- It reads them at most. -/
  | kept {status : Nat} {after : Backend} (hkept : Kept b after) : Handled v r b status after
  /-- It is refused by the backend. -/
  | refused {after : Backend} (hfailing : b.failing = true) (hentries : after.entries = b.entries)
    (hstill : after.failing = b.failing) (hnote : ∃ note, after.journal = note :: b.journal) :
    Handled v r b 500 after
  /-- It changes the one that it names, and it succeeds. -/
  | changed {command : Command} {d : DocumentName} {next : Nat} {after : Backend}
    (hasks : Asks v r command) (htarget : command.target? = some d)
    (hentries : after.entries = b.entries.set d.key (command.value? next))
    (hstill : after.failing = b.failing) (hnote : ∃ note, after.journal = note :: b.journal) :
    Handled v r b 200 after

section Service

variable {s : Service} {r : Request}

/-- The answer that a run comes to. -/
def finish : Except Failure Answer → Answer
  | .ok answer => answer
  | .error failure => failure.answer

/-- A request that asks for no command is answered at once. -/
theorem answerCommand_of_error {refusal : Refusal}
    (h : Command.ofRequest s.vocabulary r (Route.ofPath? r.path) = .error refusal)
    (c : RequestContext) (w : World) : s.answerCommand r c w = (refusal.answer, w) := by
  unfold Service.answerCommand
  split
  next refusal' hread => rw [Except.error.inj (h.symm.trans hread)]
  next command hread => cases h.symm.trans hread

/-- A request for a command is answered as the command ends. -/
theorem answerCommand_of_ok {command : Command}
    (h : Command.ofRequest s.vocabulary r (Route.ofPath? r.path) = .ok command)
    (c : RequestContext) (w : World) :
    s.answerCommand r c w =
      (finish (command.run s.telemetry c w).1, (command.run s.telemetry c w).2) := by
  unfold Service.answerCommand
  split
  next refusal hread => cases h.symm.trans hread
  next command' hread =>
    obtain rfl := Except.ok.inj (h.symm.trans hread)
    cases command.run s.telemetry c w with
    | mk result after => cases result <;> rfl

/-- What becomes of the outcome of a request: it stands, with the audit id of the request, unless
it took too long. -/
def Service.conclude (s : Service) (c : RequestContext) (before : World) (out : Answer × World) :
    Answer × World :=
  if s.timeLimit < out.2.clock then ({ status := 408 }, s.cutOff before out.2)
  else ({ out.1 with auditId := some c.auditId }, out.2)

/-- The answer is made in two stages: the command is run, and then its time is looked at. -/
theorem answerApi_eq (s : Service) (r : Request) (w : World) :
    s.answerApi r w = s.conclude (drawContext r w).1 (drawContext r w).2
      (s.answerCommand r (drawContext r w).1 (drawContext r w).2) := by
  simp only [Service.answerApi, Service.conclude]

/-- A request that is cut off has had its effect on the store. -/
theorem backend_conclude (s : Service) (c : RequestContext) (before : World)
    (out : Answer × World) : (s.conclude c before out).2.store.backend = out.2.store.backend := by
  unfold Service.conclude
  split
  · rw [Service.store_cutOff]
  · rfl

/-- A request that takes no time is not cut off. -/
theorem status_conclude (s : Service) (c : RequestContext) (before : World) (answer : Answer)
    {after : World} (h : after.clock = 0) :
    (s.conclude c before (answer, after)).1.status = answer.status := by
  have hlimit : ¬ s.timeLimit < after.clock := by omega
  rw [Service.conclude, if_neg hlimit]

/-- A request with its context drawn reads documents at most, or changes the one that it names and
succeeds, or is refused by the backend. A write takes no time, so it is never cut off, and the
status of its own answer is the one sent. -/
theorem handled_answerCommand (s : Service) (r : Request) (c : RequestContext) {before : World}
    (hclock : before.clock = 0) :
    Handled s.vocabulary r before.store.backend
      (s.conclude c before (s.answerCommand r c before)).1.status
      (s.answerCommand r c before).2.store.backend := by
  cases hread : Command.ofRequest s.vocabulary r (Route.ofPath? r.path) with
  | error refusal =>
    rw [answerCommand_of_error hread]
    exact .kept (.refl before.store.backend)
  | ok command =>
    rw [answerCommand_of_ok hread]
    cases htarget : command.target? with
    | none => exact .kept (keeps_run htarget s.telemetry c before)
    | some d =>
      have hsets := sets_run htarget s.telemetry c before
      have hentries := hsets.entries
      have hstatus := status_conclude s c before (finish (command.run s.telemetry c before).1)
        (hsets.clock.trans hclock)
      cases hfailing : before.store.backend.failing with
      | true =>
        have h500 : (finish (command.run s.telemetry c before).1).status = 500 := by
          rw [hsets.refused hfailing]
          rfl
        rw [hfailing, if_pos rfl] at hentries
        rw [hstatus, h500]
        exact .refused hfailing hentries hsets.failing hsets.journal
      | false =>
        obtain ⟨answer, hanswer, h200⟩ := hsets.answered hfailing
        have hdone : (finish (command.run s.telemetry c before).1).status = 200 := by
          rw [hanswer]
          exact h200
        rw [hfailing, if_neg Bool.false_ne_true] at hentries
        rw [hstatus, hdone]
        exact .changed (asks_of_ofRequest hread) htarget hentries hsets.failing hsets.journal

/-- The same holds of a request whose context is still to be drawn. -/
theorem handled_answerApi (s : Service) (r : Request) {w : World} (hclock : w.clock = 0) :
    Handled s.vocabulary r w.store.backend (s.answerApi r w).1.status
      (s.answerApi r w).2.store.backend := by
  have hbefore : (drawContext r w).2.clock = 0 := hclock
  have hhandled := handled_answerCommand s r (drawContext r w).1 hbefore
  rw [answerApi_eq, backend_conclude]
  exact hhandled

/-- A probe reads one reference document at most. -/
theorem kept_answerProbe (r : Request) (probe : Probe) (w : World) :
    Kept w.store.backend (answerProbe r probe w).2.store.backend := by
  have hread := keeps_onStore (Store.reads_getReference probedReference) w
  unfold answerProbe
  split
  · exact .refl w.store.backend
  · cases probe with
    | liveness => exact .refl w.store.backend
    | readiness =>
      dsimp only
      cases h : Telemetry.onStore (Store.getReference probedReference) w with
      | mk result after =>
        rw [h] at hread
        cases result <;> exact hread

/-- The world in which a request starts: its time and its calls are counted from there. -/
def started (w : World) : World := { w with received := [], clock := 0 }

/-- A probe is answered without a context. -/
theorem handle_of_probe {probe : Probe} (h : Route.ofPath? r.path = some (.probe probe))
    (w : World) :
    s.handle r w = (withoutBody r (answerProbe r probe (started w)).1,
      (answerProbe r probe (started w)).2) := by
  unfold Service.handle
  split
  next probe' hroute =>
    obtain rfl := Route.probe.inj (Option.some.inj (h.symm.trans hroute))
    rfl
  next hroute => exact absurd h (hroute probe)

/-- Any other request is answered within its context. -/
theorem handle_of_api (h : ∀ probe, Route.ofPath? r.path ≠ some (.probe probe)) (w : World) :
    s.handle r w =
      (withoutBody r (s.answerApi r (started w)).1, (s.answerApi r (started w)).2) := by
  unfold Service.handle
  split
  next probe hroute => exact absurd hroute (h probe)
  next =>
    rw [started]

/-- A request reads documents at most, or it changes the one that it names and succeeds, or it is
refused by the backend. -/
theorem handled_handle (s : Service) (r : Request) (w : World) :
    Handled s.vocabulary r w.store.backend (s.handle r w).1.status
      (s.handle r w).2.store.backend := by
  by_cases h : ∃ probe, Route.ofPath? r.path = some (.probe probe)
  · obtain ⟨probe, hprobe⟩ := h
    rw [handle_of_probe hprobe]
    exact .kept (kept_answerProbe r probe (started w))
  · have hhandled := handled_answerApi (w := started w) s r rfl
    rw [handle_of_api (not_exists.1 h)]
    dsimp only
    rw [status_withoutBody]
    exact hhandled

end Service

/-- The requests that may change a document, and the key that the path of each of them names. -/
inductive Names (r : Request) : String → Prop
  /-- A reference document is written or removed. -/
  | reference {raw id : String} (hroute : Route.ofPath? r.path = some (.reference raw))
    (hid : Route.decodeParameter "ref_id" raw = .ok id)
    (hmethod : r.method = "POST" ∨ r.method = "DELETE") : Names r ("ref/" ++ id)
  /-- A subdocument of a device is linked or unlinked. -/
  | document {rawMac rawId mac id : String}
    (hroute : Route.ofPath? r.path = some (.document rawMac rawId))
    (hmac : Route.decodeParameter "mac" rawMac = .ok mac)
    (hid : Route.decodeParameter "subdoc_id" rawId = .ok id)
    (hmethod : r.method = "POST" ∨ r.method = "DELETE") :
    Names r ("subdoc/" ++ Text.upper mac ++ "/" ++ id)
  /-- The query params of a device are written. -/
  | params {raw mac : String} (hroute : Route.ofPath? r.path = some (.params raw))
    (hmac : Route.decodeParameter "mac" raw = .ok mac) (hmethod : r.method = "PUT") :
    Names r ("root/" ++ Text.upper mac)

/-- The target of a command is the document that the path names. -/
theorem names_of_asks {v : Vocabulary} {r : Request} {command : Command} {d : DocumentName}
    (h : Asks v r command) (htarget : command.target? = some d) : Names r d.key := by
  cases h with
  | putReference hroute hid hmethod =>
    obtain rfl := Option.some.inj htarget
    exact .reference hroute hid (.inl hmethod)
  | deleteReference hroute hid hmethod =>
    obtain rfl := Option.some.inj htarget
    exact .reference hroute hid (.inr hmethod)
  | link hroute hmac hid hpayload hmethod =>
    obtain rfl := Option.some.inj htarget
    rw [DocumentName.key, Store.linkKey, (Mac.text_eq_of_parse hmac.parsed).2]
    exact .document hroute hmac.decoded hid.decoded (.inl hmethod)
  | unlink hroute hmac hid hmethod =>
    obtain rfl := Option.some.inj htarget
    rw [DocumentName.key, Store.linkKey, (Mac.text_eq_of_parse hmac.parsed).2]
    exact .document hroute hmac.decoded hid.decoded (.inr hmethod)
  | putParams hroute hmac hparams hmethod =>
    obtain rfl := Option.some.inj htarget
    rw [DocumentName.key, Store.paramsKey, (Mac.text_eq_of_parse hmac.parsed).2]
    exact .params hroute hmac.decoded hmethod
  | getReference hroute hid hmethod => cases htarget
  | getDocument hroute hmac hid hmethod => cases htarget
  | fetch hroute hmac => cases htarget
  | getParams hroute hmac => cases htarget
  | poke hroute hmac => cases htarget
  | bundle hroute hmac => cases htarget

/-- The answer says that the request succeeded. -/
def Answer.IsSuccess (a : Answer) : Prop := 200 ≤ a.status ∧ a.status ≤ 299

instance (a : Answer) : Decidable a.IsSuccess := inferInstanceAs (Decidable (_ ∧ _))

/-- The access is meant to change a document. -/
def Updates : Access → Prop
  | .read _ => False
  | .write _ | .delete _ => True

/-- A request that does not succeed leaves the documents alone. One that succeeds changes them at
most under the key that its path names, and only if its method is one that changes documents. An
access that changes a document is never followed by a failure. -/
theorem handle_atomic (s : Service) (r : Request) (w : World) :
    (¬ (s.handle r w).1.IsSuccess →
      (s.handle r w).2.store.backend.entries = w.store.backend.entries) ∧
    ((s.handle r w).1.IsSuccess →
      (s.handle r w).2.store.backend.entries = w.store.backend.entries ∨
        ∃ key, Names r key ∧ ∀ k, k ≠ key →
          (s.handle r w).2.store.backend.entries.get? k = w.store.backend.entries.get? k) ∧
    ∃ notes, (s.handle r w).2.store.backend.journal = notes ++ w.store.backend.journal ∧
      (w.store.backend.failing = false → (∃ x ∈ notes, Updates x) →
        (s.handle r w).1.status = 200) := by
  have hhandled := handled_handle s r w
  unfold Answer.IsSuccess
  generalize (s.handle r w).1.status = status at hhandled ⊢
  generalize (s.handle r w).2.store.backend = after at hhandled ⊢
  cases hhandled with
  | kept hkept =>
    obtain ⟨keys, hkeys⟩ := hkept.notes
    refine ⟨fun _ => hkept.entries, fun _ => .inl hkept.entries, _, hkeys, ?_⟩
    rintro - ⟨x, hx, hupdates⟩
    obtain ⟨key, -, rfl⟩ := List.mem_map.1 hx
    exact absurd hupdates id
  | refused hfailing hentries hstill hnote =>
    obtain ⟨note, hnote⟩ := hnote
    refine ⟨fun _ => hentries, fun _ => .inl hentries, [note], hnote, fun hanswers => ?_⟩
    rw [hfailing] at hanswers
    cases hanswers
  | changed hasks htarget hentries hstill hnote =>
    obtain ⟨note, hnote⟩ := hnote
    refine ⟨fun hnot => absurd (by decide) hnot, fun _ => .inr ⟨_, names_of_asks hasks htarget, ?_⟩,
      [note], hnote, fun _ _ => rfl⟩
    intro k hk
    rw [hentries, Store.Entries.get?_set, if_neg hk]

/-- A service whose sources know nothing. -/
def quietService : Service where
  telemetry := Telemetry.oneHost
  timeLimit := 1000000000

/-- A reference document is posted under an id with a slash. -/
def postReference : Request where
  method := "POST"
  uri := "/api/v1/reference/a%2Fb/document"
  body := [1, 2, 3]

/-- A world whose backend is failing. -/
def failingWorld : World := { Telemetry.nothingKnown with store.backend.failing := true }

/-- Where the backend answers, no other document changes; where it fails, none does. -/
theorem handle_atomic_postReference :
    ((quietService.handle postReference Telemetry.nothingKnown).1.IsSuccess ∧
      ((quietService.handle postReference Telemetry.nothingKnown).2.store.backend.entries =
          Telemetry.nothingKnown.store.backend.entries ∨
        ∃ key, Names postReference key ∧ ∀ k, k ≠ key →
          (quietService.handle postReference
              Telemetry.nothingKnown).2.store.backend.entries.get? k =
            Telemetry.nothingKnown.store.backend.entries.get? k)) ∧
      ¬ (quietService.handle postReference failingWorld).1.IsSuccess ∧
      (quietService.handle postReference failingWorld).2.store.backend.entries =
        failingWorld.store.backend.entries := by
  have hanswers : (quietService.handle postReference Telemetry.nothingKnown).1.IsSuccess := by
    decide +kernel
  have hfails : ¬ (quietService.handle postReference failingWorld).1.IsSuccess := by
    decide +kernel
  exact ⟨⟨hanswers, (handle_atomic quietService postReference Telemetry.nothingKnown).2.1 hanswers⟩,
    hfails, (handle_atomic quietService postReference failingWorld).1 hfails⟩

end GatewayConfig.Http
