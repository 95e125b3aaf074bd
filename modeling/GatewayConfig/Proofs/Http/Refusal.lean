import GatewayConfig.Proofs.Http.Failure

/-!
# Requests that are refused

A request of the wrong shape is refused before the store or a source is looked at. The code of that
refusal is reported for nothing else, so an answer with it depends on the request alone, and no
access and no call was made for it: `refused_alike` says so of any two worlds.
-/

namespace GatewayConfig.Http

open Telemetry (World)

variable {s : Service} {r : Request}

/-- A request has had no effect but to draw an identifier: the backend was not accessed, and
neither source was called. -/
structure Untouched (w after : World) : Prop where
  /-- What is stored, whether the backend fails and the accesses to it are the same. -/
  backend : after.store.backend = w.store.backend
  /-- No call was received during the request. -/
  received : after.received = []
  /-- The primary source has come no further. -/
  primary : after.primary = w.primary
  /-- Neither has the secondary source. -/
  secondary : after.secondary = w.secondary

/-- A probe is not refused for its shape. -/
theorem not_probe_of_refused {reason : InvalidRequest}
    (h : Command.ofRequest s.vocabulary r (Route.ofPath? r.path) = .error (.invalid reason))
    (probe : Probe) : Route.ofPath? r.path ≠ some (.probe probe) := by
  intro hprobe
  rw [hprobe] at h
  unfold Command.ofRequest at h
  dsimp only at h
  split at h
  · cases h
  · cases h

/-- Drawing the context of a request touches nothing. -/
theorem untouched_drawContext (r : Request) (w : World) :
    Untouched w (drawContext r (started w)).2 := ⟨rfl, rfl, rfl, rfl⟩

/-- A request that has one answer whatever the world is, and leaves the world alone, has it with
its audit id, and nothing happens but that its context is drawn. -/
theorem handle_of_unmoved {answer : Answer}
    (hapi : ∀ probe, Route.ofPath? r.path ≠ some (.probe probe))
    (h : ∀ c w, s.answerCommand r c w = (answer, w)) (w : World) :
    s.handle r w =
      (withoutBody r { answer with auditId := some (drawContext r (started w)).1.auditId },
        (drawContext r (started w)).2) := by
  have htime : ¬ s.timeLimit < (drawContext r (started w)).2.clock := Nat.not_lt_zero _
  rw [handle_of_api hapi, answerApi_eq, h, Service.conclude, if_neg htime]

/-- A request of the wrong shape is answered with the reason. -/
theorem handle_of_refused {reason : InvalidRequest}
    (h : Command.ofRequest s.vocabulary r (Route.ofPath? r.path) = .error (.invalid reason))
    (w : World) :
    s.handle r w =
      (withoutBody r { (Failure.validation reason.message).answer with
        auditId := some (drawContext r (started w)).1.auditId },
        (drawContext r (started w)).2) :=
  handle_of_unmoved (not_probe_of_refused h) (answerCommand_of_error h) w

/-- In two worlds with one supply of identifiers, a request that is answered in one of them with the
code of a request of the wrong shape has the same answer in the other, with the status 400, and in
neither world was the store accessed or a source called. -/
theorem refused_alike (s : Service) (r : Request) {w w' : World}
    (huuids : w.store.uuids = w'.store.uuids)
    (h : (s.handle r w).1.Reports "VALIDATION_ERROR") :
    (s.handle r w).1.status = 400 ∧ (s.handle r w').1 = (s.handle r w).1 ∧
      Untouched w (s.handle r w).2 ∧ Untouched w' (s.handle r w').2 := by
  obtain ⟨f, hmeets, hcode, -⟩ := exists_meets_of_reports h
  obtain ⟨reason, hrefused, -⟩ := hmeets.exists_invalid hcode
  have hcontext := drawContext_eq_of_uuids (r := r) huuids
  rw [handle_of_refused hrefused w, handle_of_refused hrefused w', hcontext]
  exact ⟨status_withoutBody r _, rfl, untouched_drawContext r w, untouched_drawContext r w'⟩

/-- A group of two is fetched with one version. -/
def fetchShort : Request where
  method := "GET"
  uri := "/api/v1/device/aabbccddeeff/config?group_id=root,lan"
  headers := [("If-None-Match", Bytes.ofText "1")]

/-- It is refused with one answer, whether the backend fails or not. -/
theorem refused_alike_fetchShort :
    (quietService.handle fetchShort Telemetry.nothingKnown).1.Reports "VALIDATION_ERROR" ∧
      (quietService.handle fetchShort Telemetry.nothingKnown).1.status = 400 ∧
      (quietService.handle fetchShort failingWorld).1 =
        (quietService.handle fetchShort Telemetry.nothingKnown).1 ∧
      Untouched Telemetry.nothingKnown
        (quietService.handle fetchShort Telemetry.nothingKnown).2 ∧
      Untouched failingWorld (quietService.handle fetchShort failingWorld).2 := by
  have hanswer : (quietService.handle fetchShort Telemetry.nothingKnown).1 =
      { (Failure.validation (InvalidRequest.versionCount 2 1).message).answer with
        auditId := some (drawContext fetchShort (started Telemetry.nothingKnown)).1.auditId } := by
    decide +kernel
  have hreports :
      (quietService.handle fetchShort Telemetry.nothingKnown).1.Reports "VALIDATION_ERROR" := by
    rw [hanswer]
    exact Answer.reports_auditId_iff.2 ((Failure.reports_answer_iff _ _).2 rfl)
  exact ⟨hreports, refused_alike quietService fetchShort rfl hreports⟩

end GatewayConfig.Http
