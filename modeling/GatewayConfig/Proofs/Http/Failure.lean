import GatewayConfig.Proofs.Http.Atomic
import GatewayConfig.Proofs.Json.Text

/-!
# What failures tell

What the store holds and what a source replies decide whether a request fails, and with which
status and code, but nothing more. `ends_run` says of each command that its failures name what is
missing after the command itself and are silent otherwise, and `report_alike` that two failures of
one request with one status and one code have one answer, whatever the two worlds hold.
-/

namespace GatewayConfig.Http

open Telemetry (World)

/-- The JSON body of a failure. -/
def failureText (code message : String) : List Char :=
  "\x7b\"error\":".toList ++ jsonObject [("code", code), ("message", message)] ++ ['\x7d']

/-- The body of a failure shows its code and its message. -/
theorem failureText_inj {code message code' message' : String}
    (h : failureText code message = failureText code' message') :
    code = code' ∧ message = message' := by
  have hobject := List.append_cancel_left (List.append_cancel_right h)
  simp only [jsonObject, List.map_cons, List.map_nil, List.intercalate_cons_cons,
    List.intercalate_singleton, List.cons_append, List.nil_append, List.append_assoc,
    List.cons.injEq, true_and] at hobject
  obtain ⟨-, hrest⟩ := Json.writeString_append_inj hobject
  obtain ⟨hcode, hrest⟩ := Json.writeString_append_inj (List.cons.inj hrest).2
  obtain ⟨-, hrest⟩ := Json.writeString_append_inj (List.cons.inj hrest).2
  obtain ⟨hmessage, -⟩ := Json.writeString_append_inj (List.cons.inj hrest).2
  exact ⟨hcode, hmessage⟩

/-- An answer has the JSON body of a failure with a code. -/
structure Answer.Reports (a : Answer) (code : String) : Prop where
  /-- The body is JSON. -/
  contentType : a.contentType = some jsonType
  /-- It shows the code, with some message. -/
  body : ∃ message, a.body = Bytes.ofText (.ofList (failureText code message))

/-- An answer in JSON has its text for a body. -/
theorem body_json (status : Nat) (text : List Char) :
    (Answer.json status text).body = Bytes.ofText (.ofList text) := by
  rw [Answer.json]

/-- An answer in JSON reports the code that its text shows. -/
theorem Answer.reports_json_iff {status : Nat} {text : List Char} {code : String} :
    (Answer.json status text).Reports code ↔ ∃ message, text = failureText code message := by
  constructor
  · rintro ⟨-, message, hbody⟩
    rw [body_json] at hbody
    exact ⟨message, String.ofList_injective (Bytes.ofText_injective hbody)⟩
  · rintro ⟨message, rfl⟩
    exact ⟨rfl, message, body_json status _⟩

/-- The answer to a failure shows its code and its message. -/
theorem answer_failure (f : Failure) :
    f.answer = .json f.status (failureText f.code f.message) := rfl

/-- The answer to a failure reports the code of the failure and no other. -/
theorem Failure.reports_answer_iff (f : Failure) (code : String) :
    f.answer.Reports code ↔ f.code = code := by
  rw [answer_failure, Answer.reports_json_iff]
  constructor
  · rintro ⟨message, htext⟩
    exact (failureText_inj htext).1
  · rintro rfl
    exact ⟨f.message, rfl⟩

/-- An answer without a body reports nothing. -/
theorem Answer.Reports.body_ne_nil {a : Answer} {code : String} (h : a.Reports code) :
    a.body ≠ [] := by
  obtain ⟨message, hbody⟩ := h.body
  rw [hbody]
  intro hempty
  have htext : failureText code message = [] :=
    String.ofList_injective (Bytes.ofText_injective (t := "") hempty)
  cases htext

/-- The audit id of an answer is not part of its report. -/
theorem Answer.reports_auditId_iff {a : Answer} {id : Option String} {code : String} :
    Answer.Reports { a with auditId := id } code ↔ a.Reports code :=
  ⟨fun h => ⟨h.contentType, h.body⟩, fun h => ⟨h.contentType, h.body⟩⟩

/-- An answer that shows no JSON reports nothing. -/
theorem Answer.not_reports_of_contentType {a : Answer} (h : a.contentType ≠ some jsonType)
    (code : String) : ¬ a.Reports code := fun hreports => h hreports.contentType

/-- An answer in plain text is none in JSON. -/
theorem plainText_ne_jsonType : some plainText ≠ some jsonType := by decide

section Runs

/-- What a command names as missing. -/
def Command.missing? : Command → Option String
  | getReference id => some ("reference " ++ id)
  | getDocument mac id => some ("subdocument " ++ id ++ " of " ++ mac.text)
  | getParams mac => some ("query params of " ++ mac.text)
  | putReference _ _ | deleteReference _ | link _ _ _ | unlink _ _ | fetch _ _ | putParams _ _
  | poke _ _ | bundle _ _ => none

/-- How a run ends that may name one thing as missing. -/
inductive Ends (name? : Option String) : Except Failure Answer → Prop
  /-- It succeeds. -/
  | answered {answer : Answer} (h : ∀ code, ¬ answer.Reports code) : Ends name? (.ok answer)
  /-- Something is missing. -/
  | missing {name : String} (h : name? = some name) : Ends name? (.error (.notFound name))
  /-- A source fails. -/
  | source (status : Option Nat) (detail : String) : Ends name? (.error (.source status detail))
  /-- The store, the merge or the encoding fails. -/
  | internal (detail : String) : Ends name? (.error (.internal detail))

variable {name? : Option String}

/-- A run ends so when its first step fails so and whatever follows ends so. -/
theorem Ends.adapt {ε α : Type} {a : Telemetry.Action ε α} {g : ε → Failure}
    {f : α → Telemetry.Action Failure Answer} (hg : ∀ e, Ends name? (.error (g e)))
    (hf : ∀ x w, Ends name? (f x w).1) (w : World) : Ends name? ((a.adapt g >>= f) w).1 := by
  have hrun := run_adapt g a w
  cases hresult : (a w).1 with
  | error e =>
    rw [hresult] at hrun
    rw [run_bind_of_error hrun]
    exact hg e
  | ok x =>
    rw [hresult] at hrun
    rw [run_bind_of_ok hrun]
    exact hf x _

/-- A step on the store fails as an internal error. -/
theorem Ends.stored {α : Type} {a : Store.Action Store.Error α}
    {f : α → Telemetry.Action Failure Answer} (hf : ∀ x w, Ends name? (f x w).1) (w : World) :
    Ends name? ((stored a >>= f) w).1 :=
  Ends.adapt (fun e : Store.Error => .internal e.message) hf w

/-- An answer with a version reports nothing if it is not in JSON, and a version that is unfit for a
header is an internal failure. -/
theorem Ends.versioned {answer : Answer} (h : answer.contentType ≠ some jsonType)
    (version : Version) (w : World) : Ends name? (versioned version answer w).1 := by
  rw [Http.versioned]
  split
  · exact .answered (Answer.not_reports_of_contentType h)
  · exact .internal _

/-- The type of a message of parts is not that of JSON. -/
theorem contentType_message_ne (m : Multipart.Message) : m.contentType ≠ jsonType := by
  intro h
  have hprefix : "multipart/mixed; boundary=".toList <+: jsonType.toList :=
    ⟨m.boundary.toList, String.toList_append.symm.trans (congrArg String.toList h)⟩
  exact absurd hprefix (by decide)

/-- So the answer that shows a message reports nothing. -/
theorem Ends.messageAnswer (version : Version) (m : Multipart.Message) (w : World) :
    Ends name? (messageAnswer version m w).1 :=
  .versioned (fun hsome => contentType_message_ne m (Option.some.inj hsome)) version w

/-- Neither does the answer that shows a document. -/
theorem Ends.documentAnswer (version : Version) (bytes : Bytes) (w : World) :
    Ends name? (documentAnswer version bytes w).1 :=
  .versioned (show some Multipart.defaultContentType ≠ some jsonType by decide) version w

/-- A poke is answered in JSON, but not with the body of a failure. -/
theorem not_reports_poke (mac : Mac) (target : Poke) (code : String) :
    ¬ (Answer.json 202 (jsonObject [("mac", mac.text), ("action", target.action)])).Reports
      code := by
  rw [Answer.reports_json_iff]
  rintro ⟨message, htext⟩
  have hmember : some 'm' = some 'e' := congrArg (fun l => l[2]?) htext
  exact absurd hmember (by decide)

/-- A run names at most what its command says is missing. Of anything that it found, a failure
says nothing. -/
theorem ends_run (command : Command) (s : Telemetry.Settings) (c : RequestContext) (w : World) :
    Ends command.missing? (command.run s c w).1 := by
  have hdone : ∀ code, ¬ Answer.Reports { status := 200 } code :=
    Answer.not_reports_of_contentType (by decide)
  cases command with
  | putReference id bytes => exact .stored (fun version => .versioned (by decide) version) w
  | deleteReference id => exact .stored (fun _ _ => .answered hdone) w
  | link mac id payload => exact .stored (fun version => .versioned (by decide) version) w
  | unlink mac id => exact .stored (fun _ _ => .answered hdone) w
  | putParams mac params => exact .stored (fun _ _ => .answered hdone) w
  | getReference id =>
    refine .stored (fun found w => ?_) w
    cases found with
    | none => exact .missing rfl
    | some doc => exact .documentAnswer doc.version doc.bytes w
  | getDocument mac id =>
    refine .stored (fun found w => ?_) w
    cases found with
    | none => exact .missing rfl
    | some doc => exact .documentAnswer doc.version doc.bytes w
  | getParams mac =>
    refine .stored (fun found w => ?_) w
    cases found with
    | none => exact .missing rfl
    | some params =>
      have htype : some "text/plain" ≠ some jsonType := by decide
      exact .answered (Answer.not_reports_of_contentType htype)
  | fetch mac group =>
    refine .adapt (fun e => .internal _) (fun fetched w => ?_) w
    cases fetched with
    | notModified root => exact .versioned (by decide) root w
    | modified root message count => exact .messageAnswer root message w
  | poke mac target => exact .answered (not_reports_poke mac target)
  | bundle mac selection =>
    refine .adapt (fun e => ?_) (fun b w => .messageAnswer _ _ w) w
    cases e with
    | source e => exact .source e.status? e.message
    | store e => exact .internal _
    | merge e => exact .internal _
    | codec e => exact .internal _

end Runs

section Requests

/-- The failures that a request can meet with. -/
inductive Meets (v : Vocabulary) (r : Request) : Failure → Prop
  /-- It has the wrong shape. -/
  | refused {reason : InvalidRequest}
    (h : Command.ofRequest v r (Route.ofPath? r.path) = .error (.invalid reason)) :
    Meets v r (.validation reason.message)
  /-- What its command names is missing. -/
  | missing {command : Command} {name : String}
    (h : Command.ofRequest v r (Route.ofPath? r.path) = .ok command)
    (hname : command.missing? = some name) : Meets v r (.notFound name)
  /-- A source fails. -/
  | source (status : Option Nat) (detail : String) : Meets v r (.source status detail)
  /-- The store, the merge or the encoding fails. -/
  | internal (detail : String) : Meets v r (.internal detail)

variable {s : Service} {v : Vocabulary} {r : Request} {code : String}

/-- Only a request of the wrong shape meets with this code. -/
theorem Meets.exists_invalid {f : Failure} (h : Meets v r f) (hcode : f.code = "VALIDATION_ERROR") :
    ∃ reason, Command.ofRequest v r (Route.ofPath? r.path) = .error (.invalid reason) ∧
      f = .validation reason.message := by
  cases h with
  | refused hread => exact ⟨_, hread, rfl⟩
  | missing hread hname => exact absurd hcode (show "NOT_FOUND" ≠ "VALIDATION_ERROR" by decide)
  | source status detail =>
    exact absurd hcode (show "UPSTREAM_ERROR" ≠ "VALIDATION_ERROR" by decide)
  | internal detail => exact absurd hcode (show "INTERNAL_ERROR" ≠ "VALIDATION_ERROR" by decide)

/-- Only a command that names something meets with this code. -/
theorem Meets.exists_missing {f : Failure} (h : Meets v r f) (hcode : f.code = "NOT_FOUND") :
    ∃ command name, Command.ofRequest v r (Route.ofPath? r.path) = .ok command ∧
      command.missing? = some name ∧ f = .notFound name := by
  cases h with
  | refused hread => exact absurd hcode (show "VALIDATION_ERROR" ≠ "NOT_FOUND" by decide)
  | missing hread hname => exact ⟨_, _, hread, hname, rfl⟩
  | source status detail => exact absurd hcode (show "UPSTREAM_ERROR" ≠ "NOT_FOUND" by decide)
  | internal detail => exact absurd hcode (show "INTERNAL_ERROR" ≠ "NOT_FOUND" by decide)

/-- What a client is told of the failure of a request is settled by the code. -/
theorem Meets.message_eq {f g : Failure} (hf : Meets v r f) (hg : Meets v r g)
    (h : f.code = g.code) : f.message = g.message := by
  by_cases hinvalid : f.code = "VALIDATION_ERROR"
  · obtain ⟨reason, hread, rfl⟩ := hf.exists_invalid hinvalid
    obtain ⟨reason', hread', rfl⟩ := hg.exists_invalid (h.symm.trans hinvalid)
    obtain rfl := Refusal.invalid.inj (Except.error.inj (hread.symm.trans hread'))
    rfl
  by_cases hmissing : f.code = "NOT_FOUND"
  · obtain ⟨command, name, hread, hname, rfl⟩ := hf.exists_missing hmissing
    obtain ⟨command', name', hread', hname', rfl⟩ := hg.exists_missing (h.symm.trans hmissing)
    obtain rfl := Except.ok.inj (hread.symm.trans hread')
    obtain rfl := Option.some.inj (hname.symm.trans hname')
    rfl
  exact Failure.message_eq_of_code h hinvalid hmissing

/-- A refusal that reports a code is one for the shape of the request. -/
theorem Refusal.eq_invalid_of_reports {refusal : Refusal} (h : refusal.answer.Reports code) :
    ∃ reason, refusal = .invalid reason := by
  have htype := h.contentType
  cases refusal with
  | invalid reason => exact ⟨reason, rfl⟩
  | noRoute => cases htype
  | wrongMethod allowed => cases htype
  | pathEncoding parameter => exact absurd htype plainText_ne_jsonType
  | repeatedField name => exact absurd htype plainText_ne_jsonType
  | bodyLength => exact absurd htype plainText_ne_jsonType

/-- The outcome of a request that reports a code is one of the failures that the request can meet
with. -/
theorem meets_of_answerCommand {c : RequestContext} {w : World}
    (h : (s.answerCommand r c w).1.Reports code) :
    ∃ f, Meets s.vocabulary r f ∧ f.code = code ∧ (s.answerCommand r c w).1 = f.answer := by
  have hfailure {f : Failure} (hmeets : Meets s.vocabulary r f)
      (hout : (s.answerCommand r c w).1 = f.answer) :
      ∃ f, Meets s.vocabulary r f ∧ f.code = code ∧ (s.answerCommand r c w).1 = f.answer := by
    rw [hout] at h
    exact ⟨f, hmeets, (f.reports_answer_iff code).1 h, hout⟩
  cases hread : Command.ofRequest s.vocabulary r (Route.ofPath? r.path) with
  | error refusal =>
    have hout := answerCommand_of_error hread c w
    rw [hout] at h
    obtain ⟨reason, rfl⟩ := Refusal.eq_invalid_of_reports h
    exact hfailure (.refused hread) (congrArg Prod.fst hout)
  | ok command =>
    have hout := congrArg Prod.fst (answerCommand_of_ok hread c w)
    have hends := ends_run command s.telemetry c w
    dsimp only at hout
    generalize (command.run s.telemetry c w).1 = result at hout hends
    cases hends with
    | answered hnot =>
      rw [hout] at h
      exact absurd h (hnot code)
    | missing hname => exact hfailure (.missing hread hname) hout
    | source status detail => exact hfailure (.source status detail) hout
    | internal detail => exact hfailure (.internal detail) hout

/-- A probe is answered in plain text, so the answer reports nothing. -/
theorem not_reports_answerProbe (probe : Probe) (w : World) :
    ¬ (answerProbe r probe w).1.Reports code := by
  refine Answer.not_reports_of_contentType ?_ code
  unfold answerProbe
  split
  · exact fun htype => by cases htype
  · cases probe with
    | liveness => exact plainText_ne_jsonType
    | readiness =>
      dsimp only
      split <;> exact plainText_ne_jsonType

/-- An answer that reports a code is that of a failure that the request can meet with. -/
theorem exists_meets_of_reports {w : World} (h : (s.handle r w).1.Reports code) :
    ∃ f, Meets s.vocabulary r f ∧ f.code = code ∧
      (s.handle r w).1 =
        { f.answer with auditId := some (drawContext r (started w)).1.auditId } := by
  have hmethod : r.method ≠ "HEAD" := by
    intro hhead
    refine h.body_ne_nil ?_
    unfold Service.handle
    dsimp only
    rw [withoutBody, if_pos hhead]
  have hwhole (a : Answer) : withoutBody r a = a := if_neg hmethod
  by_cases hprobe : ∃ probe, Route.ofPath? r.path = some (.probe probe)
  · obtain ⟨probe, hprobe⟩ := hprobe
    rw [handle_of_probe hprobe, hwhole] at h
    exact absurd h (not_reports_answerProbe probe (started w))
  · rw [handle_of_api (not_exists.1 hprobe), hwhole, answerApi_eq, Service.conclude] at h ⊢
    split at h
    next htime => cases h.contentType
    next htime =>
      rw [if_neg htime]
      obtain ⟨f, hmeets, hcode, hout⟩ := meets_of_answerCommand (Answer.reports_auditId_iff.1 h)
      exact ⟨f, hmeets, hcode, by rw [hout]⟩

/-- The context of a request is drawn from the supply of identifiers alone. -/
theorem drawContext_eq_of_uuids {w w' : World} (h : w.store.uuids = w'.store.uuids) :
    (drawContext r (started w)).1 = (drawContext r (started w')).1 := by
  have hsupply : (started w).store.uuids = (started w').store.uuids := h
  simp only [drawContext, hsupply]

/-- Two worlds with one supply of identifiers in which a request fails with one status and one code
give one answer. So no byte of what they store, or of what their sources reply, is in it. -/
theorem report_alike (s : Service) (r : Request) {w w' : World}
    (huuids : w.store.uuids = w'.store.uuids) {code : String}
    (h : (s.handle r w).1.Reports code) (h' : (s.handle r w').1.Reports code)
    (hstatus : (s.handle r w).1.status = (s.handle r w').1.status) :
    (s.handle r w).1 = (s.handle r w').1 := by
  obtain ⟨f, hf, hcode, hout⟩ := exists_meets_of_reports h
  obtain ⟨g, hg, hcode', hout'⟩ := exists_meets_of_reports h'
  have hsame : f.code = g.code := hcode.trans hcode'.symm
  have hmessage := hf.message_eq hg hsame
  rw [hout, hout'] at hstatus
  have hf' : f.answer = g.answer := by
    have hfail : f.status = g.status := hstatus
    rw [answer_failure, answer_failure, hfail, hsame, hmessage]
  rw [hout, hout', hf', drawContext_eq_of_uuids huuids]

end Requests

/-- The bundle of a device is requested. -/
def getBundle : Request where
  method := "GET"
  uri := "/api/v1/device/aabbccddeeff/supplementary"

/-- A world in which the device has query params, and the primary source refuses every call with a
text. -/
def refusing (params text : String) : World :=
  { Telemetry.nothingKnown with
    store.backend.entries := [(Store.paramsKey Telemetry.oneDevice, Bytes.ofText params)]
    primary := { script := fun _ => .answer 403 (Bytes.ofText text) true } }

/-- Neither the params nor the text of the source are in the answer. -/
theorem report_alike_getBundle :
    (quietService.handle getBundle (refusing "k=1" "wrong key 1")).1.Reports "UPSTREAM_ERROR" ∧
      (quietService.handle getBundle (refusing "k=1" "wrong key 1")).1.status = 403 ∧
      (quietService.handle getBundle (refusing "k=1" "wrong key 1")).1 =
        (quietService.handle getBundle (refusing "key=22" "blocked")).1 := by
  have hreports (text params : String)
      (h : (quietService.handle getBundle (refusing params text)).1 =
        { (Failure.source (some 403) text).answer with
          auditId := some (drawContext getBundle (started (refusing params text))).1.auditId }) :
      (quietService.handle getBundle (refusing params text)).1.Reports "UPSTREAM_ERROR" ∧
        (quietService.handle getBundle (refusing params text)).1.status = 403 := by
    rw [h]
    exact ⟨Answer.reports_auditId_iff.2 ((Failure.reports_answer_iff _ _).2 rfl), rfl⟩
  obtain ⟨hfirst, hstatus⟩ := hreports "wrong key 1" "k=1" (by decide +kernel)
  obtain ⟨hsecond, hstatus'⟩ := hreports "blocked" "key=22" (by decide +kernel)
  exact ⟨hfirst, hstatus,
    report_alike quietService getBundle rfl hfirst hsecond (hstatus.trans hstatus'.symm)⟩

end GatewayConfig.Http
