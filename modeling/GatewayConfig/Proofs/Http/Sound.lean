import GatewayConfig.Proofs.Http.Atomic
import GatewayConfig.Proofs.Registry
import GatewayConfig.Proofs.Store.Encoding
import GatewayConfig.Proofs.Store.Sound

/-!
# What a service stores

A service that starts without documents stores only sound ones, whatever it is asked, however its
backend fails and whatever the sources reply. `sound_apply` is the step and `sound_after` the run.
Since nothing is ever found to be damaged, an internal error of a request for documents has one of
two causes, which `internal_cases` names.
-/

namespace GatewayConfig.Http

open Store (Backend DocumentName Sound SoundAt)
open Telemetry (World)

/-- What can happen to a service. -/
inductive Event where
  /-- A request is answered. -/
  | request (r : Request)
  /-- The backend's failure is switched on or off. -/
  | setFailing (on : Bool)
  /-- The sources are replaced. -/
  | setSources (primary secondary : Telemetry.Source)

namespace Service

/-- The world after an event. -/
def apply (s : Service) (w : World) : Event → World
  | .request r => (s.handle r w).2
  | .setFailing on => { w with store := Store.setFailing on w.store }
  | .setSources primary secondary => { w with primary, secondary }

/-- The world after a sequence of events. -/
def after (s : Service) (events : List Event) (w : World) : World := events.foldl s.apply w

end Service

section Storing

variable {s : Service}

/-- What a request stores may stand where it is stored. The service draws the version of a link
itself, so it is short enough for the record to be read back. -/
theorem soundAt_of_asks {v : Vocabulary} {r : Request} {command : Command} {d : DocumentName}
    {next : Nat} {value : Bytes} (hregistry : v.registry.Reachable) (hasks : Asks v r command)
    (htarget : command.target? = some d) (hvalue : command.value? next = some value) :
    SoundAt v.registry d.key value := by
  cases hasks with
  | putReference hroute hid hmethod =>
    obtain rfl := Option.some.inj htarget
    exact .reference _ value
  | @link rawMac rawId text id mac payload hroute hmac hid hpayload hmethod =>
    obtain rfl := Option.some.inj htarget
    obtain rfl := Option.some.inj hvalue
    have hsize : (Bytes.ofText (Version.ofBytes (uuidAt next)).token).length ≤ 255 := by
      rw [Version.ofBytes, Version.length_ofText_hashed]
      decide
    refine .link mac.canonical hid.known (hregistry.ne_root hid.known) (Store.decode_encode hsize)
      (Version.isHex_hashed _) ?_
    rintro target rfl rfl
    exact (Store.Payload.ofLinkBody_eq_ok_iff.1 hpayload).2 rfl
  | putParams hroute hmac hparams hmethod =>
    obtain rfl := Option.some.inj htarget
    obtain rfl := Option.some.inj hvalue
    exact .params (Mac.canonical _) (Text.trim_trim _)
  | deleteReference hroute hid hmethod => cases hvalue
  | unlink hroute hmac hid hmethod => cases hvalue
  | getReference hroute hid hmethod => cases htarget
  | getDocument hroute hmac hid hmethod => cases htarget
  | fetch hroute hmac => cases htarget
  | getParams hroute hmac => cases htarget
  | poke hroute hmac => cases htarget
  | bundle hroute hmac => cases htarget

/-- An event keeps the documents sound. Of a request only the status and the backend behind it
matter, not how they came about. -/
theorem sound_apply (hregistry : s.vocabulary.registry.Reachable) {w : World}
    (h : Sound s.vocabulary.registry w.store.backend.entries) (event : Event) :
    Sound s.vocabulary.registry (s.apply w event).store.backend.entries := by
  cases event with
  | setFailing on => exact h
  | setSources primary secondary => exact h
  | request r =>
    have hhandled := handled_handle s r w
    rw [Service.apply]
    generalize (s.handle r w).1.status = status at hhandled
    generalize (s.handle r w).2.store.backend = after at hhandled ⊢
    cases hhandled with
    | kept hkept => rw [hkept.entries]; exact h
    | refused hfailing hentries hstill hnote => rw [hentries]; exact h
    | changed hasks htarget hentries hstill hnote =>
      rw [hentries]
      exact h.set fun bytes hvalue => soundAt_of_asks hregistry hasks htarget hvalue

/-- So does a sequence of events. -/
theorem sound_after (hregistry : s.vocabulary.registry.Reachable) {w : World}
    (h : Sound s.vocabulary.registry w.store.backend.entries) (events : List Event) :
    Sound s.vocabulary.registry (s.after events w).store.backend.entries := by
  induction events generalizing w with
  | nil => exact h
  | cons event events ih => exact ih (sound_apply hregistry h event)

end Storing

/-- The resources that stand for documents. -/
def Route.IsStored : Route → Prop
  | reference _ | document _ _ | config _ | params _ => True
  | poke _ | supplementary _ | probe _ => False

/-- A request is a fetch for whose answer no boundary is found. -/
def Exhausts (s : Service) (r : Request) (w : World) : Prop :=
  ∃ mac group, Command.ofRequest s.vocabulary r (Route.ofPath? r.path) = .ok (.fetch mac group) ∧
    (Store.fetch mac group (drawContext r w).2.store).1 = .error (.codec .boundaryExhausted)

section Internal

variable {s : Service} {r : Request} {w : World}

/-- No refusal is an internal error. -/
theorem status_refusal_ne (refusal : Refusal) : refusal.answer.status ≠ 500 := by
  intro h
  cases refusal <;> cases h

/-- A step that reads the store is an internal error only when the backend fails. -/
theorem failing_of_stored {α : Type} {a : Store.Action Store.Error α}
    {f : α → Telemetry.Action Failure Answer}
    (ha : Store.FailsWithBackend w.store (a w.store).1)
    (hf : ∀ x t, (a w.store).1 = .ok x → (finish (f x t).1).status ≠ 500)
    (h : (finish ((stored a >>= f) w).1).status = 500) : w.store.backend.failing = true := by
  have hrun := run_stored a w
  cases hresult : (a w.store).1 with
  | error e => exact (ha e hresult).2
  | ok x =>
    rw [hresult] at hrun
    rw [run_bind_of_ok hrun] at h
    exact absurd h (hf x _ hresult)

/-- A version in hexadecimal digits is fit for a header, so the answer keeps its status. -/
theorem status_versioned {version : Version} (h : version.IsHex) (answer : Answer) (w : World) :
    (finish (versioned version answer w).1).status = answer.status := by
  rw [versioned_of_isHex h]
  rfl

/-- A document with such a version is shown. -/
theorem status_documentAnswer {version : Version} (h : version.IsHex) (bytes : Bytes) (w : World) :
    (finish (documentAnswer version bytes w).1).status = 200 := status_versioned h _ w

/-- So is a message of parts. -/
theorem status_messageAnswer {version : Version} (h : version.IsHex) (m : Multipart.Message)
    (w : World) : (finish (messageAnswer version m w).1).status = 200 := status_versioned h _ w

/-- An internal error of a fetch has one of two causes. -/
theorem internal_fetch (hsound : Sound s.vocabulary.registry w.store.backend.entries)
    {mac : Mac} {group : GroupRequest} {c : RequestContext}
    (h : (finish ((Command.fetch mac group).run s.telemetry c w).1).status = 500) :
    w.store.backend.failing = true ∨
      (Store.fetch mac group w.store).1 = .error (.codec .boundaryExhausted) := by
  obtain ⟨t, hrun⟩ : ∃ t, (Telemetry.onStore (Store.fetch mac group)).adapt fetchFailure w =
      ((Store.fetch mac group w.store).1.mapError fetchFailure, t) := ⟨_, rfl⟩
  cases hresult : (Store.fetch mac group w.store).1 with
  | error e =>
    rcases hsound.fetch_error hresult with ⟨-, hfailing⟩ | rfl
    · exact .inl hfailing
    · exact .inr rfl
  | ok fetched =>
    rw [hresult] at hrun
    rw [Command.run, run_bind_of_ok hrun] at h
    have hroot := Store.isHex_rootOf (Store.presentIn mac group.members w.store)
    have hcases := (Store.fetch_ok_cases hresult).2
    rcases hcases with ⟨rfl, -⟩ | ⟨message, rfl, -⟩
    · have hstatus := status_versioned hroot { status := 304 } t
      cases hstatus.symm.trans h
    · have hstatus := status_messageAnswer hroot message t
      cases hstatus.symm.trans h

/-- A command that writes a document is an internal error only when the backend fails. -/
theorem failing_of_target {command : Command} {d : DocumentName}
    (htarget : command.target? = some d) {c : RequestContext}
    (h : (finish (command.run s.telemetry c w).1).status = 500) :
    w.store.backend.failing = true := by
  refine (Bool.not_eq_false _).mp fun hanswers => ?_
  obtain ⟨answer, hanswer, h200⟩ := (sets_run htarget s.telemetry c w).answered hanswers
  rw [hanswer] at h
  cases h.symm.trans h200

/-- A command on documents is an internal error when the backend fails, or when it is a fetch for
whose answer no boundary is found. A poke and a bundle are left out: they do not work on
documents. -/
theorem internal_run (hsound : Sound s.vocabulary.registry w.store.backend.entries)
    {route : Route} (hroute : Route.ofPath? r.path = some route) (hstored : route.IsStored)
    {command : Command} (hasks : Asks s.vocabulary r command) {c : RequestContext}
    (h : (finish (command.run s.telemetry c w).1).status = 500) :
    w.store.backend.failing = true ∨ ∃ mac group, command = .fetch mac group ∧
      (Store.fetch mac group w.store).1 = .error (.codec .boundaryExhausted) := by
  cases htarget : command.target? with
  | some d => exact .inl (failing_of_target htarget h)
  | none =>
    cases hasks with
    | putReference hroute' hid hmethod => cases htarget
    | deleteReference hroute' hid hmethod => cases htarget
    | link hroute' hmac hid hpayload hmethod => cases htarget
    | unlink hroute' hmac hid hmethod => cases htarget
    | putParams hroute' hmac hparams hmethod => cases htarget
    | getReference hroute' hid hmethod =>
      refine .inl (failing_of_stored (Store.failsWithBackend_getReference _ w.store) ?_ h)
      intro found t hfound
      cases found with
      | none => exact nofun
      | some doc =>
        have hstatus := status_documentAnswer (Store.isHex_of_getReference hfound) doc.bytes t
        exact fun h500 => nomatch hstatus.symm.trans h500
    | getDocument hroute' hmac hid hmethod =>
      refine .inl (failing_of_stored (hsound.failsWithBackend_resolve _ _) ?_ h)
      intro found t hfound
      cases found with
      | none => exact nofun
      | some doc =>
        have hstatus := status_documentAnswer (hsound.isHex_of_resolve hfound) doc.bytes t
        exact fun h500 => nomatch hstatus.symm.trans h500
    | fetch hroute' hmac =>
      exact (internal_fetch hsound h).imp_right fun hfetch => ⟨_, _, rfl, hfetch⟩
    | getParams hroute' hmac =>
      refine .inl (failing_of_stored (hsound.failsWithBackend_getParams _) ?_ h)
      intro found t hfound
      cases found <;> exact nofun
    | poke hroute' hmac =>
      obtain rfl := Option.some.inj (hroute.symm.trans hroute')
      exact hstored.elim
    | bundle hroute' hmac =>
      obtain rfl := Option.some.inj (hroute.symm.trans hroute')
      exact hstored.elim

/-- A request that is cut off is no internal error. -/
theorem status_of_conclude {c : RequestContext} {before : World} {out : Answer × World}
    (h : (s.conclude c before out).1.status = 500) : out.1.status = 500 := by
  unfold Service.conclude at h
  split at h
  · cases h
  · exact h

/-- An internal error of a request for documents comes from the backend or from a fetch for whose
answer no boundary is found. -/
theorem internal_cases (hsound : Sound s.vocabulary.registry w.store.backend.entries)
    {route : Route} (hroute : Route.ofPath? r.path = some route) (hstored : route.IsStored)
    (h : (s.handle r w).1.status = 500) : w.store.backend.failing = true ∨ Exhausts s r w := by
  have hapi : ∀ probe, Route.ofPath? r.path ≠ some (.probe probe) := by
    intro probe hprobe
    obtain rfl := Option.some.inj (hroute.symm.trans hprobe)
    exact hstored
  rw [handle_of_api hapi] at h
  dsimp only at h
  rw [status_withoutBody, answerApi_eq] at h
  have hstatus := status_of_conclude h
  cases hread : Command.ofRequest s.vocabulary r (Route.ofPath? r.path) with
  | error refusal =>
    rw [answerCommand_of_error hread] at hstatus
    exact absurd hstatus (status_refusal_ne refusal)
  | ok command =>
    rw [answerCommand_of_ok hread] at hstatus
    have hcases := internal_run (w := (drawContext r (started w)).2) hsound hroute hstored
      (asks_of_ofRequest hread) hstatus
    refine hcases.imp_right ?_
    rintro ⟨mac, group, rfl, hfetch⟩
    exact ⟨mac, group, hread, hfetch⟩

end Internal

/-- Whatever happens to a service that starts without documents, all that it stores is sound, no
read finds a damaged value, and an internal error of a request for documents comes from the backend
or from a fetch for whose answer no boundary is found. -/
theorem documents_sound (s : Service) (hregistry : s.vocabulary.registry.Reachable) (w : World)
    (hempty : w.store.backend.entries = []) (events : List Event) :
    Sound s.vocabulary.registry (s.after events w).store.backend.entries ∧
      Store.NeverCorrupt (s.after events w).store ∧
      ∀ r route, Route.ofPath? r.path = some route → route.IsStored →
        (s.handle r (s.after events w)).1.status = 500 →
          (s.after events w).store.backend.failing = true ∨ Exhausts s r (s.after events w) := by
  have hstart : Sound s.vocabulary.registry w.store.backend.entries := by
    rw [hempty]
    exact List.forall_mem_nil _
  have hsound := sound_after hregistry hstart events
  exact ⟨hsound, hsound.neverCorrupt, fun r route hroute hstored h =>
    internal_cases hsound hroute hstored h⟩

/-- A subdocument is linked to bytes of its own. -/
def linkLan : Request where
  method := "POST"
  uri := "/api/v1/device/aabbccddeeff/document/lan"
  body := [0, 0, 0, 1, 7]

/-- The same subdocument is read. -/
def getLan : Request where
  method := "GET"
  uri := "/api/v1/device/aabbccddeeff/document/lan"

/-- A link is stored, and then the backend fails. -/
def linkedThenFailing : List Event := [.request linkLan, .setFailing true]

/-- A world without documents. -/
def emptyWorld : World := { Telemetry.nothingKnown with store := {} }

/-- The link is sound, and reading it is an internal error because the backend fails. -/
theorem documents_sound_linkLan :
    (quietService.after linkedThenFailing emptyWorld).store.backend.entries.length = 1 ∧
      Sound .builtin (quietService.after linkedThenFailing emptyWorld).store.backend.entries ∧
      Store.NeverCorrupt (quietService.after linkedThenFailing emptyWorld).store ∧
      (quietService.handle getLan (quietService.after linkedThenFailing emptyWorld)).1.status =
        500 ∧
      ((quietService.after linkedThenFailing emptyWorld).store.backend.failing = true ∨
        Exhausts quietService getLan (quietService.after linkedThenFailing emptyWorld)) := by
  have hroute : Route.ofPath? getLan.path = some (.document "aabbccddeeff" "lan") := by
    decide +kernel
  have hstatus : (quietService.handle getLan
      (quietService.after linkedThenFailing emptyWorld)).1.status = 500 := by decide +kernel
  obtain ⟨hsound, hreads, hinternal⟩ :=
    documents_sound quietService .builtin emptyWorld rfl linkedThenFailing
  exact ⟨by decide +kernel, hsound, hreads, hstatus, hinternal getLan _ hroute trivial hstatus⟩

end GatewayConfig.Http
