import GatewayConfig.Http.Service
import GatewayConfig.Proofs.Action
import GatewayConfig.Proofs.Store.Keys

/-!
# What requests ask for

`Asks` lists the requests by the command that each of them asks for, with what the request tells
about the arguments of the command. Every command of the service is read from such a request.
-/

namespace GatewayConfig.Http

open Store (DocumentName)

/-- A path names a device. -/
structure NamesDevice (raw text : String) (mac : Mac) : Prop where
  /-- The path has it in percent encoding. -/
  decoded : Route.decodeParameter "mac" raw = .ok text
  /-- It may be spelled in either case. -/
  parsed : Mac.parse text = .ok mac

/-- A path names a subdocument that is registered. -/
structure NamesSubdoc (v : Vocabulary) (raw id : String) : Prop where
  /-- The path has it in percent encoding. -/
  decoded : Route.decodeParameter "subdoc_id" raw = .ok id
  /-- It is registered. -/
  known : v.registry.contains id = true

/-- The requests for each command. -/
inductive Asks (v : Vocabulary) (r : Request) : Command → Prop
  /-- A reference document is replaced by the body. -/
  | putReference {raw id : String} (hroute : Route.ofPath? r.path = some (.reference raw))
    (hid : Route.decodeParameter "ref_id" raw = .ok id) (hmethod : r.method = "POST") :
    Asks v r (.putReference id r.body)
  /-- A reference document is read. -/
  | getReference {raw id : String} (hroute : Route.ofPath? r.path = some (.reference raw))
    (hid : Route.decodeParameter "ref_id" raw = .ok id) (hmethod : r.effectiveMethod = "GET") :
    Asks v r (.getReference id)
  /-- A reference document is removed. -/
  | deleteReference {raw id : String} (hroute : Route.ofPath? r.path = some (.reference raw))
    (hid : Route.decodeParameter "ref_id" raw = .ok id) (hmethod : r.method = "DELETE") :
    Asks v r (.deleteReference id)
  /-- A subdocument gets the payload that the body describes. -/
  | link {rawMac rawId text id : String} {mac : Mac} {payload : Store.Payload}
    (hroute : Route.ofPath? r.path = some (.document rawMac rawId))
    (hmac : NamesDevice rawMac text mac) (hid : NamesSubdoc v rawId id)
    (hpayload : Store.Payload.ofLinkBody r.body = .ok payload) (hmethod : r.method = "POST") :
    Asks v r (.link mac id payload)
  /-- A subdocument is read. -/
  | getDocument {rawMac rawId text id : String} {mac : Mac}
    (hroute : Route.ofPath? r.path = some (.document rawMac rawId))
    (hmac : NamesDevice rawMac text mac) (hid : NamesSubdoc v rawId id)
    (hmethod : r.effectiveMethod = "GET") : Asks v r (.getDocument mac id)
  /-- The link of a subdocument is removed. -/
  | unlink {rawMac rawId text id : String} {mac : Mac}
    (hroute : Route.ofPath? r.path = some (.document rawMac rawId))
    (hmac : NamesDevice rawMac text mac) (hid : NamesSubdoc v rawId id)
    (hmethod : r.method = "DELETE") : Asks v r (.unlink mac id)
  /-- A group of subdocuments is fetched. -/
  | fetch {raw text : String} {mac : Mac} {group : GroupRequest}
    (hroute : Route.ofPath? r.path = some (.config raw)) (hmac : NamesDevice raw text mac) :
    Asks v r (.fetch mac group)
  /-- The query params of a device are replaced by the body. -/
  | putParams {raw text params : String} {mac : Mac}
    (hroute : Route.ofPath? r.path = some (.params raw)) (hmac : NamesDevice raw text mac)
    (hparams : r.body.text? = some params) (hmethod : r.method = "PUT") :
    Asks v r (.putParams mac (Text.trim params))
  /-- The query params of a device are read. -/
  | getParams {raw text : String} {mac : Mac}
    (hroute : Route.ofPath? r.path = some (.params raw)) (hmac : NamesDevice raw text mac) :
    Asks v r (.getParams mac)
  /-- A device is told to fetch again. -/
  | poke {raw text : String} {mac : Mac} {target : Poke}
    (hroute : Route.ofPath? r.path = some (.poke raw)) (hmac : NamesDevice raw text mac) :
    Asks v r (.poke mac target)
  /-- The telemetry bundle of a device is assembled. -/
  | bundle {raw text : String} {mac : Mac}
    (hroute : Route.ofPath? r.path = some (.supplementary raw)) (hmac : NamesDevice raw text mac) :
    Asks v r (.bundle mac (Command.readSelection r))

section Reading

variable {v : Vocabulary} {r : Request} {command : Command}

/-- Only a `GET` request can have another method than the one that decides. -/
theorem method_of_effectiveMethod {name : String} (h : r.effectiveMethod = name)
    (hname : name ≠ "GET") : r.method = name := by
  rw [Request.effectiveMethod] at h
  split at h
  · exact absurd h.symm hname
  · exact h

/-- Where a document may be posted, read and removed, a request that does neither of the first two
removes it. -/
theorem method_eq_delete (hallowed : ["POST", "GET", "HEAD", "DELETE"].contains r.method = true)
    (hpost : r.effectiveMethod ≠ "POST") (hget : r.effectiveMethod ≠ "GET") :
    r.method = "DELETE" := by
  have hcases : r.method = "POST" ∨ r.method = "GET" ∨ r.method = "HEAD" ∨ r.method = "DELETE" := by
    simpa using hallowed
  rcases hcases with h | h | h | h
  · exact absurd (by rw [Request.effectiveMethod, h]; rfl) hpost
  · exact absurd (by rw [Request.effectiveMethod, h]; rfl) hget
  · exact absurd (by rw [Request.effectiveMethod, h]; rfl) hget
  · exact h

/-- A subdocument that is read from the path is registered. -/
theorem namesSubdoc_of_readSubdoc {raw text id : String}
    (hdecoded : Route.decodeParameter "subdoc_id" raw = .ok text)
    (h : Command.readSubdoc v text = .ok id) : NamesSubdoc v raw id := by
  rw [Command.readSubdoc] at h
  split at h
  next hknown =>
    obtain rfl := Except.ok.inj h
    exact ⟨hdecoded, hknown⟩
  next => cases h

/-- A command on a reference document is read only from a request that asks for it. -/
theorem asks_of_ofReference {raw : String} (hroute : Route.ofPath? r.path = some (.reference raw))
    (hallowed : (Route.reference raw).methods.contains r.method = true)
    (h : Command.ofReference r raw = .ok command) : Asks v r command := by
  obtain ⟨id, hid, h⟩ := exists_of_bind_eq_ok h
  split at h
  next hpost =>
    obtain rfl := Except.ok.inj h
    exact .putReference hroute hid (method_of_effectiveMethod hpost (by decide))
  next hpost =>
    split at h
    next hget =>
      obtain rfl := Except.ok.inj h
      exact .getReference hroute hid hget
    next hget =>
      obtain rfl := Except.ok.inj h
      exact .deleteReference hroute hid (method_eq_delete hallowed hpost hget)

/-- So is a command on a subdocument. -/
theorem asks_of_ofDocument {rawMac rawId : String}
    (hroute : Route.ofPath? r.path = some (.document rawMac rawId))
    (hallowed : (Route.document rawMac rawId).methods.contains r.method = true)
    (h : Command.ofDocument v r rawMac rawId = .ok command) : Asks v r command := by
  obtain ⟨text, hdecoded, h⟩ := exists_of_bind_eq_ok h
  obtain ⟨idText, hidDecoded, h⟩ := exists_of_bind_eq_ok h
  obtain ⟨mac, hparsed, h⟩ := exists_of_bind_eq_ok h
  obtain ⟨id, hknown, h⟩ := exists_of_bind_eq_ok h
  have hmac : NamesDevice rawMac text mac := ⟨hdecoded, eq_ok_of_mapError_eq_ok hparsed⟩
  have hid : NamesSubdoc v rawId id := namesSubdoc_of_readSubdoc hidDecoded hknown
  split at h
  next hpost =>
    obtain ⟨payload, hpayload, h⟩ := exists_of_bind_eq_ok h
    obtain rfl := Except.ok.inj h
    exact .link hroute hmac hid (eq_ok_of_mapError_eq_ok hpayload)
      (method_of_effectiveMethod hpost (by decide))
  next hpost =>
    split at h
    next hget =>
      obtain rfl := Except.ok.inj h
      exact .getDocument hroute hmac hid hget
    next hget =>
      obtain rfl := Except.ok.inj h
      exact .unlink hroute hmac hid (method_eq_delete hallowed hpost hget)

/-- So is a fetch. -/
theorem asks_of_ofConfig {raw : String} (hroute : Route.ofPath? r.path = some (.config raw))
    (h : Command.ofConfig v r raw = .ok command) : Asks v r command := by
  obtain ⟨text, hdecoded, h⟩ := exists_of_bind_eq_ok h
  obtain ⟨fields, -, h⟩ := exists_of_bind_eq_ok h
  obtain ⟨mac, hparsed, h⟩ := exists_of_bind_eq_ok h
  obtain ⟨group, -, h⟩ := exists_of_bind_eq_ok h
  obtain rfl := Except.ok.inj h
  exact .fetch hroute ⟨hdecoded, eq_ok_of_mapError_eq_ok hparsed⟩

/-- So is a command on the query params. -/
theorem asks_of_ofParams {raw : String} (hroute : Route.ofPath? r.path = some (.params raw))
    (h : Command.ofParams r raw = .ok command) : Asks v r command := by
  obtain ⟨text, hdecoded, h⟩ := exists_of_bind_eq_ok h
  split at h
  next hput =>
    by_cases hsize : bodyLimit < r.body.length
    · rw [if_pos hsize] at h
      cases h
    rw [if_neg hsize] at h
    obtain ⟨mac, hparsed, h⟩ := exists_of_bind_eq_ok h
    cases hparams : r.body.text? with
    | none => rw [hparams] at h; cases h
    | some params =>
      rw [hparams] at h
      obtain rfl := Except.ok.inj h
      exact .putParams hroute ⟨hdecoded, eq_ok_of_mapError_eq_ok hparsed⟩ hparams
        (method_of_effectiveMethod hput (by decide))
  next =>
    obtain ⟨mac, hparsed, h⟩ := exists_of_bind_eq_ok h
    obtain rfl := Except.ok.inj h
    exact .getParams hroute ⟨hdecoded, eq_ok_of_mapError_eq_ok hparsed⟩

/-- So is a poke. -/
theorem asks_of_ofPoke {raw : String} (hroute : Route.ofPath? r.path = some (.poke raw))
    (h : Command.ofPoke v r raw = .ok command) : Asks v r command := by
  obtain ⟨text, hdecoded, h⟩ := exists_of_bind_eq_ok h
  obtain ⟨fields, -, h⟩ := exists_of_bind_eq_ok h
  obtain ⟨mac, hparsed, h⟩ := exists_of_bind_eq_ok h
  obtain ⟨target, -, h⟩ := exists_of_bind_eq_ok h
  obtain rfl := Except.ok.inj h
  exact .poke hroute ⟨hdecoded, eq_ok_of_mapError_eq_ok hparsed⟩

/-- So is a request for the bundle. -/
theorem asks_of_ofSupplementary {raw : String}
    (hroute : Route.ofPath? r.path = some (.supplementary raw))
    (h : Command.ofSupplementary r raw = .ok command) : Asks v r command := by
  obtain ⟨text, hdecoded, h⟩ := exists_of_bind_eq_ok h
  obtain ⟨mac, hparsed, h⟩ := exists_of_bind_eq_ok h
  obtain rfl := Except.ok.inj h
  exact .bundle hroute ⟨hdecoded, eq_ok_of_mapError_eq_ok hparsed⟩

/-- A command is read only from a request that asks for it. -/
theorem asks_of_ofRequest (h : Command.ofRequest v r (Route.ofPath? r.path) = .ok command) :
    Asks v r command := by
  cases hroute : Route.ofPath? r.path with
  | none => rw [hroute] at h; cases h
  | some route =>
    rw [hroute] at h
    unfold Command.ofRequest at h
    dsimp only at h
    split at h
    · cases h
    next hmethods =>
      have hallowed : route.methods.contains r.method = true := by simpa using hmethods
      cases route with
      | reference id => exact asks_of_ofReference hroute hallowed h
      | document mac id => exact asks_of_ofDocument hroute hallowed h
      | config mac => exact asks_of_ofConfig hroute h
      | params mac => exact asks_of_ofParams hroute h
      | poke mac => exact asks_of_ofPoke hroute h
      | supplementary mac => exact asks_of_ofSupplementary hroute h
      | probe probe => cases h

end Reading

end GatewayConfig.Http
