import GatewayConfig.Proofs.Http.Refusal
import GatewayConfig.Proofs.Json.RoundTrip
import GatewayConfig.Proofs.Poke

/-!
# Pokes over the API

A poke is a `POST` request on the path of a device. `Selects` lists the requests whose selection is
supported, with the device and the action of each. They are confirmed, and `poke_repeats` says how:
with the address of the device in capitals and with the action. All other pokes are refused, and in
no case has a poke an effect.
-/

namespace GatewayConfig.Http

open Telemetry (World)

section Fields

variable {r : Request} {known names seen : List String}

/-- No name that counts occurs twice, neither among the names nor behind those that were seen. -/
theorem repeatedName?_eq_none_iff :
    repeatedName? known names seen = none ↔
      ∀ name ∈ known, names.count name + (if name ∈ seen then 1 else 0) ≤ 1 := by
  induction names generalizing seen with
  | nil =>
    have hseen (name : String) : (if name ∈ seen then 1 else 0) ≤ 1 := by split <;> omega
    simp [repeatedName?, hseen]
  | cons first rest ih =>
    rw [repeatedName?]
    by_cases hrepeated : known.contains first = true ∧ seen.contains first = true
    · rw [if_pos (Bool.and_eq_true_iff.2 hrepeated)]
      refine iff_of_false (Option.some_ne_none first) fun hall => ?_
      have hfirst := hall first (List.contains_iff_mem.1 hrepeated.1)
      rw [List.count_cons_self, if_pos (List.contains_iff_mem.1 hrepeated.2)] at hfirst
      omega
    · rw [if_neg (mt Bool.and_eq_true_iff.1 hrepeated), ih]
      refine forall₂_congr fun name hname => ?_
      by_cases hfirst : name = first
      · have hseen : name ∉ seen := fun hseen => hrepeated
          ⟨List.contains_iff_mem.2 (hfirst ▸ hname), List.contains_iff_mem.2 (hfirst ▸ hseen)⟩
        rw [hfirst] at hseen ⊢
        rw [if_pos List.mem_cons_self, if_neg hseen, List.count_cons_self, Nat.add_zero]
      · simp only [List.count_cons_of_ne (Ne.symm hfirst), List.mem_cons, hfirst, false_or]

/-- The fields of a query are read if none of the known ones is repeated. -/
theorem readFields_eq_ok_iff {fields : List (String × String)} :
    Command.readFields r known = .ok fields ↔
      fields = r.fields ∧ ∀ name ∈ known, (r.fields.map Prod.fst).count name ≤ 1 := by
  unfold Command.readFields
  generalize r.fields = all
  have hrepeated : repeatedName? known (all.map Prod.fst) [] = none ↔
      ∀ name ∈ known, (all.map Prod.fst).count name ≤ 1 := by
    simp only [repeatedName?_eq_none_iff, List.not_mem_nil, if_false, Nat.add_zero]
  rw [← hrepeated]
  cases repeatedName? known (all.map Prod.fst) [] with
  | none => simp [eq_comm]
  | some name => simp

/-- Otherwise a repeated one is named. -/
theorem readFields_eq_error {refusal : Refusal} (h : Command.readFields r known = .error refusal) :
    ∃ name, refusal = .repeatedField name := by
  unfold Command.readFields at h
  split at h
  next name hname => exact ⟨name, (Except.error.inj h).symm⟩
  next => exact absurd h (by simp)

end Fields

section Objects

open Json (Members memberTokens settledMembers)

/-- Members whose values are texts. -/
def textMembers (members : List (String × String)) : Members :=
  members.map fun m => (m.1, .string m.2)

/-- An object in an answer is written as its members would be as JSON values. -/
theorem writeMembers_textMembers (members : List (String × String)) :
    Json.writeMembers (textMembers members) =
      [','].intercalate (members.map fun (name, value) =>
        Json.writeString name ++ ':' :: Json.writeString value) := by
  induction members with
  | nil => rfl
  | cons m rest ih =>
    by_cases hnil : rest = []
    · rw [hnil, textMembers, List.map_singleton, List.map_singleton, List.intercalate_singleton,
        Json.writeMembers, Json.writeChars]
    · rw [List.map_cons, List.intercalate_cons_of_ne_nil (by simpa using hnil), ← ih, textMembers,
        List.map_cons, Json.writeMembers]
      · simp [Json.writeChars, textMembers]
      · simpa using hnil

/-- Texts are read back as they are. -/
theorem settledMembers_textMembers (members : List (String × String)) :
    settledMembers (textMembers members) = textMembers members := by
  induction members with
  | nil => rfl
  | cons m rest ih =>
    have hvalue : (Json.Value.string m.2).settled = .string m.2 := by simp only [Json.Value.settled]
    rw [textMembers, List.map_cons, settledMembers, hvalue, ← textMembers, ih]

/-- They open nothing, and they carry nothing. -/
theorem fits_textMembers (members : List (String × String)) :
    Json.depthMembers (textMembers members) = 0 ∧
      Json.unmarkedMembers (textMembers members) = true := by
  induction members with
  | nil => exact ⟨rfl, rfl⟩
  | cons m rest ih =>
    rw [textMembers, List.map_cons, Json.depthMembers, Json.unmarkedMembers, ← textMembers, ih.1,
      ih.2]
    exact ⟨rfl, rfl⟩

/-- The tokens of an object in an answer. -/
theorem tokens?_jsonObject (members : List (String × String)) :
    Json.tokens? (jsonObject members) =
      some (.openObject :: (memberTokens (textMembers members) ++ [.closeObject])) := by
  have hlexes : ∀ m ∈ textMembers members, Json.Lexes m.2 := by
    intro m hm
    obtain ⟨m', -, rfl⟩ := List.mem_map.1 hm
    exact (Json.Value.Regular.string m'.2).lexes
  have hopen (rest : List Char) : Json.tokensFrom? [] ('\x7b' :: rest) =
      Json.tokensFrom? [.openObject] rest := Json.tokensFrom?_of_token? rfl []
  have hclose (passed : List Json.Token) : Json.tokensFrom? passed ['\x7d'] =
      Json.tokensFrom? (.closeObject :: passed) [] := Json.tokensFrom?_of_token? rfl passed
  rw [jsonObject, ← writeMembers_textMembers, List.cons_append, Json.tokens?, hopen,
    Json.tokensFrom?_writeMembers hlexes _ (Json.endsNumber_cons (.inr (.inr rfl)) []), hclose,
    Json.tokensFrom?, List.reverse_cons, List.reverse_append, List.reverse_reverse,
    List.reverse_singleton, List.singleton_append, List.cons_append]

/-- An object in an answer is read back with each member in its place. -/
theorem value?_jsonObject (members : List (String × String)) (hne : members ≠ [])
    (hhead : members.head?.map Prod.fst ≠ some Json.carrierName) :
    Json.value? (jsonObject members) =
      some (.object (Members.insertAll [] (textMembers members))) := by
  have hruns : ∀ m ∈ textMembers members,
      Json.RunsBack (fun s => Json.valueWithin? (jsonObject members).length s.toList) m.2 := by
    intro m hm
    obtain ⟨m', -, rfl⟩ := List.mem_map.1 hm
    exact (Json.Value.Regular.string m'.2).runsBack
  have hmembers : textMembers members ≠ [] := by simpa [textMembers] using hne
  have hfirst : (textMembers members).head?.map Prod.fst ≠ some Json.carrierName := by
    simpa [textMembers] using hhead
  obtain ⟨hdepth, hunmarked⟩ := fits_textMembers members
  rw [Json.value?, Json.valueWithin?, tokens?_jsonObject, Option.bind_eq_bind, Option.bind_some,
    Json.ofTokens?, Json.run_cons, Json.step_of_starts (.value fun rest h => by cases h) (by simp),
    Json.startValue_openObject, if_pos (by decide), Option.bind_some,
    Json.run_memberTokens hruns hmembers (.inr ⟨rfl, hfirst⟩) (by decide), hdepth, hunmarked,
    if_pos ⟨by decide, rfl⟩, settledMembers_textMembers, Json.run_cons]
  rfl

end Objects

/-- The requests for a poke whose selection is supported, with the spelling of the device and the
action. -/
structure Selects (v : Vocabulary) (r : Request) (raw text action : String) : Prop where
  /-- The path names a device. -/
  device : ∃ mac, NamesDevice raw text mac
  /-- Neither selector is repeated in the query. -/
  once : ∀ name ∈ ["doc", "route"], (r.fields.map Prod.fst).count name ≤ 1
  /-- The selection is supported. -/
  accepted : Poke.Accepted v.pokeTargets (r.fields.lookup "doc") (r.fields.lookup "route") action

/-- The answer to a poke that is accepted. -/
structure Confirms (a : Answer) (mac action : String) : Prop where
  /-- What is asked for is not done yet. -/
  status : a.status = 202
  /-- The body is JSON. -/
  contentType : a.contentType = some jsonType
  /-- It shows the device first and then the action. -/
  body : a.body = Bytes.ofText (.ofList (jsonObject [("mac", mac), ("action", action)]))
  /-- It is read as an object of these two texts. -/
  shown : Json.read? a.body = some (.object [("action", .string action), ("mac", .string mac)])

section Pokes

variable {s : Service} {v : Vocabulary} {r : Request} {raw text action : String}

/-- The text of a confirmation is read as its two members, in the order of their names. -/
theorem read?_confirmation (mac action : String) :
    Json.read? (Bytes.ofText (.ofList (jsonObject [("mac", mac), ("action", action)]))) =
      some (.object [("action", .string action), ("mac", .string mac)]) := by
  have hhead : some "mac" ≠ some Json.carrierName := by decide
  have hvalue := value?_jsonObject [("mac", mac), ("action", action)] (List.cons_ne_nil _ _) hhead
  have hne : ¬ "action" = "mac" := by decide
  have hlt : "action" < "mac" := by decide
  have horder : Json.Members.insertAll [] (textMembers [("mac", mac), ("action", action)]) =
      [("action", .string action), ("mac", .string mac)] := by
    simp only [textMembers, List.map_cons, List.map_nil, Json.Members.insertAll, List.foldl_cons,
      List.foldl_nil, Json.Members.insert, if_neg hne, if_pos hlt]
  rw [Json.read?, Bytes.text?_ofText, Option.bind_eq_bind, Option.bind_some, String.toList_ofList,
    hvalue, horder]

/-- The answer in JSON is a confirmation. -/
theorem confirms_json (mac action : String) :
    Confirms (.json 202 (jsonObject [("mac", mac), ("action", action)])) mac action where
  status := rfl
  contentType := rfl
  body := body_json 202 _
  shown := by
    rw [body_json]
    exact read?_confirmation mac action

/-- The audit id of an answer is not part of what it confirms. -/
theorem Confirms.auditId {a : Answer} {mac : String} (h : Confirms a mac action)
    (id : Option String) : Confirms { a with auditId := id } mac action :=
  ⟨h.status, h.contentType, h.body, h.shown⟩

/-- A poke is read from a request whose selection is supported. -/
theorem Selects.exists_ofPoke (h : Selects v r raw text action) :
    ∃ mac target, Command.ofPoke v r raw = .ok (.poke mac target) ∧
      mac.text = Text.upper text ∧ target.action = action := by
  obtain ⟨mac, hdecoded, hparsed⟩ := h.device
  obtain ⟨target, htarget, haction⟩ := h.accepted.exists_parse
  have hfields : Command.readFields r ["doc", "route"] = .ok r.fields :=
    readFields_eq_ok_iff.2 ⟨rfl, h.once⟩
  have hmac : Command.readMac text = .ok mac := congrArg (Except.mapError Refusal.invalid) hparsed
  refine ⟨mac, target, ?_, (Mac.text_eq_of_parse hparsed).2, haction⟩
  rw [Command.ofPoke, bind_of_eq_ok hdecoded, bind_of_eq_ok hfields, bind_of_eq_ok hmac,
    bind_of_eq_ok (congrArg (Except.mapError Refusal.invalid) htarget)]
  rfl

/-- It is read from no other request. -/
theorem exists_selects_of_ofPoke {command : Command} (h : Command.ofPoke v r raw = .ok command) :
    ∃ text action, Selects v r raw text action := by
  obtain ⟨text, hdecoded, h⟩ := exists_of_bind_eq_ok h
  obtain ⟨fields, hfields, h⟩ := exists_of_bind_eq_ok h
  obtain ⟨mac, hparsed, h⟩ := exists_of_bind_eq_ok h
  obtain ⟨target, htarget, -⟩ := exists_of_bind_eq_ok h
  obtain ⟨rfl, honce⟩ := readFields_eq_ok_iff.1 hfields
  have haccepted := Poke.parse_action_iff.1 ⟨target, eq_ok_of_mapError_eq_ok htarget, rfl⟩
  exact ⟨text, target.action, ⟨mac, hdecoded, eq_ok_of_mapError_eq_ok hparsed⟩, honce, haccepted⟩

/-- A poke that is not read is refused as a bad request. -/
theorem status_of_ofPoke {refusal : Refusal} (h : Command.ofPoke v r raw = .error refusal) :
    refusal.answer.status = 400 := by
  rcases error_of_bind_eq_error h with hdecoded | ⟨text, -, h⟩
  · rw [Route.decodeParameter_eq_error hdecoded]
    rfl
  rcases error_of_bind_eq_error h with hfields | ⟨fields, -, h⟩
  · obtain ⟨name, rfl⟩ := readFields_eq_error hfields
    rfl
  rcases error_of_bind_eq_error h with hmac | ⟨mac, -, h⟩
  · obtain ⟨reason, -, rfl⟩ := exists_of_mapError_eq_error hmac
    rfl
  rcases error_of_bind_eq_error h with htarget | ⟨target, -, h⟩
  · obtain ⟨reason, -, rfl⟩ := exists_of_mapError_eq_error htarget
    rfl
  · cases h

/-- A `POST` request on the path of a poke is read as one. -/
theorem ofRequest_poke (hroute : Route.ofPath? r.path = some (.poke raw))
    (hmethod : r.method = "POST") :
    Command.ofRequest v r (Route.ofPath? r.path) = Command.ofPoke v r raw := by
  have hallowed : (!(Route.poke raw).methods.contains r.method) = false := by
    rw [hmethod]
    rfl
  rw [hroute]
  unfold Command.ofRequest
  dsimp only
  rw [hallowed]
  rfl

/-- A poke has one answer, the confirmation of its selection or a refusal. -/
theorem exists_answerCommand_eq (hroute : Route.ofPath? r.path = some (.poke raw))
    (hmethod : r.method = "POST") :
    ∃ answer, (∀ c w, s.answerCommand r c w = (answer, w)) ∧
      (∀ text action, Selects s.vocabulary r raw text action →
        Confirms answer (Text.upper text) action) ∧
      ((∀ text action, ¬ Selects s.vocabulary r raw text action) → answer.status = 400) := by
  have hread := ofRequest_poke (v := s.vocabulary) hroute hmethod
  by_cases hselects : ∃ text action, Selects s.vocabulary r raw text action
  · obtain ⟨text, action, hselects⟩ := hselects
    obtain ⟨mac, target, hpoke, -⟩ := hselects.exists_ofPoke
    refine ⟨_, answerCommand_of_ok (hread.trans hpoke), fun text' action' hselects' => ?_,
      fun hnone => absurd hselects (hnone text action)⟩
    obtain ⟨mac', target', hpoke', hmac, haction⟩ := hselects'.exists_ofPoke
    cases hpoke.symm.trans hpoke'
    rw [← hmac, ← haction]
    exact confirms_json mac.text target.action
  · cases hcommand : Command.ofPoke s.vocabulary r raw with
    | ok command => exact absurd (exists_selects_of_ofPoke hcommand) hselects
    | error refusal =>
      exact ⟨refusal.answer, answerCommand_of_error (hread.trans hcommand),
        fun text action hselected => absurd ⟨text, action, hselected⟩ hselects,
        fun _ => status_of_ofPoke hcommand⟩

end Pokes

/-- A poke is read exactly when every name that it selects is supported, with an action that
repeats the request, and it is refused for the first name that is not. Over the API it is confirmed
with the address of the device in capitals and with that action, or it is a bad request, and in no
case has it an effect. -/
theorem poke_repeats (targets : PokeTargets) (doc route : Option String) (s : Service)
    {r : Request} {raw : String} (hroute : Route.ofPath? r.path = some (.poke raw))
    (hmethod : r.method = "POST") (w : World) :
    (∀ action, (∃ poke, Poke.parse doc route targets = .ok poke ∧ poke.action = action) ↔
      Poke.Accepted targets doc route action) ∧
    (∀ fault, Poke.parse doc route targets = .error fault ↔
      Poke.Refused targets doc route fault) ∧
    (∀ text action, Selects s.vocabulary r raw text action →
      Confirms (s.handle r w).1 (Text.upper text) action) ∧
    ((∀ text action, ¬ Selects s.vocabulary r raw text action) →
      (s.handle r w).1.status = 400) ∧
    Untouched w (s.handle r w).2 := by
  have hapi (probe : Probe) : Route.ofPath? r.path ≠ some (.probe probe) := by
    rw [hroute]
    exact fun hprobe => by cases hprobe
  have hwhole (a : Answer) : withoutBody r a = a := if_neg (by rw [hmethod]; decide)
  obtain ⟨answer, hanswer, hselected, hrefused⟩ := exists_answerCommand_eq (s := s) hroute hmethod
  have hhandle := handle_of_unmoved hapi hanswer w
  rw [hwhole] at hhandle
  rw [hhandle]
  exact ⟨fun action => Poke.parse_action_iff, fun fault => Poke.parse_eq_error_iff,
    fun text action hselects => (hselected text action hselects).auditId _, hrefused,
    untouched_drawContext r w⟩

/-- Two documents are poked, beside a route that is not supported. -/
def pokeDocs : Request where
  method := "POST"
  uri := "/api/v1/device/aabbccddeeff/poke?doc=primary,telemetry&route=bogus"

/-- The list of the documents is the action, and the route is not looked at. -/
theorem poke_repeats_pokeDocs :
    Route.ofPath? pokeDocs.path = some (.poke "aabbccddeeff") ∧ pokeDocs.method = "POST" ∧
      (∃ poke, Poke.parse (some "primary,telemetry") (some "bogus") {} = .ok poke ∧
        poke.action = "primary,telemetry") ∧
      Confirms (quietService.handle pokeDocs Telemetry.nothingKnown).1 "AABBCCDDEEFF"
        "primary,telemetry" ∧
      Untouched Telemetry.nothingKnown
        (quietService.handle pokeDocs Telemetry.nothingKnown).2 := by
  have hroute : Route.ofPath? pokeDocs.path = some (.poke "aabbccddeeff") := by decide +kernel
  have hfields : pokeDocs.fields = [("doc", "primary,telemetry"), ("route", "bogus")] := by
    decide +kernel
  have haccepted : Poke.Accepted {} (some "primary,telemetry") (some "bogus")
      "primary,telemetry" :=
    .docs rfl (by decide) (Text.lists_iff.2 rfl) (by decide : ∀ name ∈ ["primary", "telemetry"], _)
  have hselects : Selects quietService.vocabulary pokeDocs "aabbccddeeff" "aabbccddeeff"
      "primary,telemetry" := by
    refine ⟨⟨Telemetry.oneDevice, ⟨by decide +kernel, by decide +kernel⟩⟩, ?_, ?_⟩
    · rw [hfields]
      decide
    · rw [hfields]
      exact haccepted
  obtain ⟨hparse, -, hconfirms, -, huntouched⟩ := poke_repeats {} (some "primary,telemetry")
    (some "bogus") quietService hroute rfl Telemetry.nothingKnown
  exact ⟨hroute, rfl, (hparse _).2 haccepted, hconfirms _ _ hselects, huntouched⟩

end GatewayConfig.Http
