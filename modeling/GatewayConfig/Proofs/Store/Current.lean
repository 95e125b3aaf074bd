import GatewayConfig.Proofs.Store.Maps
import GatewayConfig.Proofs.Store.Mirror

/-!
# A client that is up to date

A client reads the parts of an answer and sends their tokens back with its next fetch. Whatever
happens to the store in between, if it spares the group of the client then the client is told that
nothing changed. `sameGroup_perform` is the step: an operation that spares a group leaves its links
as they are, and so the references that they name. `current_not_modified` is the result.

Nothing is assumed of the hashes here: what has not changed has the token that it had.
-/

namespace GatewayConfig.Store

/-- What happens to a store: an operation, or a fetch by any client. -/
inductive Activity where
  /-- An operation is carried out. -/
  | operation (op : Operation)
  /-- A group of any device is fetched. -/
  | fetch (mac : Mac) (request : GroupRequest)

namespace Activity

/-- The state after an activity. -/
def apply : Activity → State → State
  | operation op, s => (op.run s).2
  | fetch mac request, s => (Store.fetch mac request s).2

/-- The state after a sequence of activities. -/
def applyAll (activities : List Activity) (s : State) : State :=
  activities.foldl (fun s a => a.apply s) s

/-- The bytes that an activity brings, if any, are addressable. -/
def Addressable : Activity → Prop
  | operation (.putReference _ bytes) => bytes.Addressable
  | operation (.link _ _ payload) => payload.Addressable
  | _ => True

end Activity

/-- The states of a store that started without documents. -/
inductive Reachable : State → Prop
  /-- There are no documents yet. -/
  | empty (failing : Bool) (journal : List Access) (uuids : UuidSupply) :
    Reachable { backend := { failing, journal }, uuids }
  /-- Something happens. -/
  | step {s : State} {a : Activity} (h : Reachable s) (ha : a.Addressable) : Reachable (a.apply s)

variable {s t : State} {m m' last : Maps} {op : Operation} {mac : Mac} {ids : List String}

/-- What is in the maps can be sent as parts of a message. -/
structure Maps.Sendable (m : Maps) : Prop where
  /-- A link has a token that was hashed, and a payload that is addressable. -/
  link : ∀ k, ∀ r ∈ m.links k, (∃ b, r.version = Version.hashed b) ∧ r.payload.Addressable
  /-- A reference document is addressable. -/
  reference : ∀ id, ∀ bytes ∈ m.references id, bytes.Addressable

namespace Maps.Sendable

/-- Maps without documents are sendable. -/
theorem empty (failing : Bool) (next : Nat) : (Maps.empty failing next).Sendable := by
  constructor
  case link => exact fun k r hr => by cases hr
  case reference => exact fun id bytes hbytes => by cases hbytes

/-- A draw leaves maps sendable. -/
theorem drawn (h : m.Sendable) : m.drawn.Sendable := ⟨h.link, h.reference⟩

/-- Maps stay sendable when an addressable document is put in, or one is taken out. -/
theorem update_references (h : m.Sendable) (id : String) {value : Option Bytes}
    (hvalue : ∀ bytes ∈ value, bytes.Addressable) :
    ({ m with references := Function.update m.references id value } : Maps).Sendable := by
  refine ⟨h.link, fun id' bytes hbytes => ?_⟩
  dsimp only at hbytes
  rw [Function.update_apply] at hbytes
  split at hbytes
  · exact hvalue bytes hbytes
  · exact h.reference id' bytes hbytes

/-- Maps stay sendable when a pair is linked to an addressable payload under a hashed version, or
unlinked. -/
theorem update_links (h : m.Sendable) (k : String × String) {link : Option Record}
    (hlink : ∀ r ∈ link, (∃ b, r.version = Version.hashed b) ∧ r.payload.Addressable) :
    ({ m with links := Function.update m.links k link } : Maps).Sendable := by
  refine ⟨fun k' r hr => ?_, h.reference⟩
  dsimp only at hr
  rw [Function.update_apply] at hr
  split at hr
  · exact hlink r hr
  · exact h.link k' r hr

/-- Parameters are not sent, so they may be anything. -/
theorem update_params (h : m.Sendable) (params : String → Option String) :
    ({ m with params } : Maps).Sendable := ⟨h.link, h.reference⟩

/-- An access leaves sendable maps whether or not the backend answers. -/
theorem access (h : m.Sendable) (h' : m'.Sendable) (reply : Reply) :
    (m.access reply m').2.Sendable := by
  rw [Maps.access]
  split
  · exact h
  · exact h'

/-- An action on a device leaves sendable maps when it does so for every device. -/
theorem onDevice (h : m.Sendable) {address : String} {act : String → Reply × Maps}
    (hact : ∀ device, (act device).2.Sendable) : (m.onDevice address act).2.Sendable := by
  rw [Maps.onDevice]
  split
  · exact hact _
  · exact h

/-- An operation that brings addressable bytes keeps the maps sendable. -/
theorem perform (h : m.Sendable) (hop : (Activity.operation op).Addressable) :
    (m.perform op).2.Sendable := by
  cases op with
  | putReference id bytes =>
    refine h.access (h.update_references id fun bytes' hbytes => ?_) _
    obtain rfl := Option.some.inj hbytes
    exact hop
  | getReference id => exact h.access h _
  | deleteReference id =>
    exact h.access (h.update_references id fun bytes hbytes => by cases hbytes) _
  | link address id payload =>
    refine h.onDevice fun device => h.drawn.access (h.drawn.update_links _ fun r hr => ?_) _
    obtain rfl := Option.some.inj hr
    exact ⟨⟨_, rfl⟩, hop⟩
  | record address id => exact h.onDevice fun device => h.access h _
  | resolve address id => exact h.onDevice fun device => h.access h _
  | unlink address id =>
    exact h.onDevice fun device => h.access (h.update_links _ fun r hr => by cases hr) _
  | setParams address params => exact h.onDevice fun device => h.access (h.update_params _) _
  | getParams address => exact h.onDevice fun device => h.access h _
  | setFailing on => exact ⟨h.link, h.reference⟩

/-- A subdocument that is read has bytes that are addressable, and a token that was hashed. -/
theorem resolved (h : m.Sendable) {device id : String} {doc : Resolved}
    (hdoc : m.resolved device id = some doc) :
    doc.bytes.Addressable ∧ ∃ b, doc.version = Version.hashed b := by
  rw [Maps.resolved] at hdoc
  cases hlink : m.links (device, id) with
  | none =>
    rw [hlink] at hdoc
    cases hdoc
  | some r =>
    obtain ⟨⟨b, hb⟩, hpayload⟩ := h.link _ r hlink
    rw [hlink] at hdoc
    obtain ⟨version, payload⟩ := r
    cases payload with
    | inline bytes =>
      obtain rfl := Option.some.inj hdoc
      exact ⟨hpayload, b, hb⟩
    | reference target =>
      obtain ⟨bytes, hbytes, rfl⟩ := Option.map_eq_some_iff.1 hdoc
      exact ⟨h.reference target bytes hbytes, _, rfl⟩

end Maps.Sendable

/-- A fetch draws identifiers and changes nothing else that the maps show. -/
theorem Represents.fetch (h : Represents s m) (mac : Mac) (request : GroupRequest) :
    Represents (Store.fetch mac request s).2
      { m with next := (Store.fetch mac request s).2.uuids.next } := by
  obtain ⟨hentries, hfailing, -⟩ := fetch_state mac request s
  constructor
  case stored => rw [hentries]; exact h.stored
  case failing => exact hfailing.trans h.failing
  case next => rfl
  case fits => exact h.fits

/-- The documents of a reachable state are those of maps that can be sent. -/
theorem Reachable.exists_represents (h : Reachable s) : ∃ m, Represents s m ∧ m.Sendable := by
  induction h with
  | empty failing journal uuids =>
    exact ⟨_, .empty failing journal uuids, .empty failing uuids.next⟩
  | @step s a h ha ih =>
    obtain ⟨m, hm, hsendable⟩ := ih
    cases a with
    | operation op => exact ⟨_, (hm.step op).2, hsendable.perform ha⟩
    | fetch mac request => exact ⟨_, hm.fetch mac request, hsendable.link, hsendable.reference⟩

/-- A link of a group names a reference. -/
def PointsTo (mac : Mac) (ids : List String) (s : State) (target : String) : Prop :=
  ∃ id ∈ ids, ∃ version, (record mac id s).1 = .ok (some ⟨version, .reference target⟩)

/-- An operation that spares a group of a device: it neither sets nor removes a link of the group,
and of the references that these links name it changes neither the existence nor the content. -/
def Operation.Spares (mac : Mac) (ids : List String) (s : State) : Operation → Prop
  | putReference id bytes =>
    PointsTo mac ids s id → s.backend.entries.get? (referenceKey id) = some bytes
  | deleteReference id => PointsTo mac ids s id → s.backend.entries.get? (referenceKey id) = none
  | link address id _ => Mac.parse address = .ok mac → id ∉ ids
  | unlink address id => Mac.parse address = .ok mac → id ∉ ids
  | _ => True

/-- A fetch spares every group. -/
def Activity.Spares (mac : Mac) (ids : List String) (s : State) : Activity → Prop
  | operation op => op.Spares mac ids s
  | fetch _ _ => True

/-- Each of a sequence of activities spares the group in the state in which it happens. -/
def SpareAll (mac : Mac) (ids : List String) : State → List Activity → Prop
  | _, [] => True
  | s, a :: rest => a.Spares mac ids s ∧ SpareAll mac ids (a.apply s) rest

/-- Two groups of maps in which a group of a device has the same links, and these the same
references. -/
structure SameGroup (mac : Mac) (ids : List String) (m m' : Maps) : Prop where
  /-- The links are the same. -/
  links : ∀ id ∈ ids, m'.links (mac.text, id) = m.links (mac.text, id)
  /-- So are the references that they name. -/
  references : ∀ id ∈ ids, ∀ version target,
    m.links (mac.text, id) = some ⟨version, .reference target⟩ →
      m'.references target = m.references target

namespace SameGroup

/-- Maps hold the same group as themselves. -/
theorem refl (mac : Mac) (ids : List String) (m : Maps) : SameGroup mac ids m m :=
  ⟨fun _ _ => rfl, fun _ _ _ _ _ => rfl⟩

/-- Holding the same group passes on from one step to the next. -/
theorem trans (h : SameGroup mac ids m m') (h' : SameGroup mac ids m' last) :
    SameGroup mac ids m last := by
  refine ⟨fun id hid => (h'.links id hid).trans (h.links id hid), ?_⟩
  intro id hid version target hlink
  have hlink' := (h.links id hid).trans hlink
  exact (h'.references id hid version target hlink').trans
    (h.references id hid version target hlink)

/-- The members of the group are the same. -/
theorem resolved (h : SameGroup mac ids m m') {id : String} (hid : id ∈ ids) :
    m'.resolved mac.text id = m.resolved mac.text id :=
  Maps.resolved_congr (h.links id hid) (h.references id hid)

end SameGroup

/-- The operations that write a document. -/
inductive Operation.Touches : Operation → DocumentName → Prop
  /-- A reference is uploaded. -/
  | putReference (id : String) (bytes : Bytes) : Touches (.putReference id bytes) (.reference id)
  /-- A reference is removed. -/
  | deleteReference (id : String) : Touches (.deleteReference id) (.reference id)
  /-- A subdocument of the device that is named is linked. -/
  | link {address : String} {mac : Mac} (h : Mac.parse address = .ok mac) (id : String)
    (payload : Payload) : Touches (.link address id payload) (.link mac id)
  /-- A subdocument of the device that is named is unlinked. -/
  | unlink {address : String} {mac : Mac} (h : Mac.parse address = .ok mac) (id : String) :
    Touches (.unlink address id) (.link mac id)
  /-- The query params of the device that is named are set. -/
  | setParams {address : String} {mac : Mac} (h : Mac.parse address = .ok mac) (params : String) :
    Touches (.setParams address params) (.params mac)

/-- The document an operation changes is among those it touches. -/
theorem Operation.touches_of_mem_target? {d : DocumentName} (h : d ∈ op.target?) :
    op.Touches d := by
  have hdevice {address : String} {name : Mac → DocumentName}
      (hd : d ∈ (Mac.parse address).toOption.map name) :
      ∃ mac, Mac.parse address = .ok mac ∧ name mac = d := by
    obtain ⟨mac, hmac, hname⟩ := Option.map_eq_some_iff.1 hd
    cases hparse : Mac.parse address with
    | error reason => rw [hparse] at hmac; cases hmac
    | ok mac' =>
      rw [hparse] at hmac
      obtain rfl := Option.some.inj hmac
      exact ⟨_, rfl, hname⟩
  cases op with
  | putReference id bytes =>
    obtain rfl := Option.some.inj h
    exact .putReference id bytes
  | deleteReference id =>
    obtain rfl := Option.some.inj h
    exact .deleteReference id
  | link address id payload =>
    obtain ⟨mac, hparse, rfl⟩ := hdevice h
    exact .link hparse id payload
  | unlink address id =>
    obtain ⟨mac, hparse, rfl⟩ := hdevice h
    exact .unlink hparse id
  | setParams address params =>
    obtain ⟨mac, hparse, rfl⟩ := hdevice h
    exact .setParams hparse params
  | getReference id => cases h
  | record address id => cases h
  | resolve address id => cases h
  | getParams address => cases h
  | setFailing on => cases h

/-- An operation that spares a group writes none of its links. -/
theorem Operation.Spares.link_not_mem_target? (h : op.Spares mac ids s) {id : String}
    (hid : id ∈ ids) : DocumentName.link mac id ∉ op.target? := by
  intro htarget
  cases touches_of_mem_target? htarget with
  | link hparse => exact h hparse hid
  | unlink hparse => exact h hparse hid

/-- To write what a reference holds changes no map. -/
theorem Maps.access_update_references {id : String} {value : Option Bytes}
    (h : m.failing = false → m.references id = value) (reply : Reply) :
    (m.access reply { m with references := Function.update m.references id value }).2 = m := by
  rw [Maps.access]
  split
  · rfl
  next hf =>
    rw [← h (Bool.eq_false_iff.2 hf), Function.update_eq_self]

/-- A link that the maps show is one that is read, when the backend answers. -/
theorem pointsTo_of_links (h : Represents s m) (hf : m.failing = false) {id target : String}
    {version : Version} (hid : id ∈ ids)
    (hlink : m.links (mac.text, id) = some ⟨version, .reference target⟩) :
    PointsTo mac ids s target := by
  refine ⟨id, hid, version, ?_⟩
  rw [h.record_eq, hf, if_neg Bool.false_ne_true, hlink]

/-- An operation that spares a group leaves its links as they are, and the references that they
name. A write of such a reference brings the bytes that are there. -/
theorem sameGroup_perform (h : Represents s m) (hspares : op.Spares mac ids s) :
    SameGroup mac ids m (m.perform op).2 := by
  by_cases hop : ∃ on, op = .setFailing on
  · obtain ⟨on, rfl⟩ := hop
    exact ⟨fun _ _ => rfl, fun _ _ _ _ _ => rfl⟩
  have hchanges := Maps.changesOnly_perform (fun on hon => hop ⟨on, hon⟩) m
  refine ⟨fun id hid => hchanges.same (.link mac id) (hspares.link_not_mem_target? hid), ?_⟩
  intro id hid version target hlink
  by_cases htarget : DocumentName.reference target ∈ op.target?
  · have hstored : s.backend.entries.get? (referenceKey target) = m.references target :=
      h.stored (.reference target)
    have hwrite {value : Option Bytes} (hvalue : PointsTo mac ids s target →
        s.backend.entries.get? (referenceKey target) = value) (reply : Reply) :
        (m.access reply { m with
          references := Function.update m.references target value }).2.references target =
            m.references target := by
      have hsame : m.failing = false → m.references target = value := fun hf =>
        hstored.symm.trans (hvalue (pointsTo_of_links h hf hid hlink))
      rw [Maps.access_update_references hsame]
    cases Operation.touches_of_mem_target? htarget with
    | putReference _ bytes => exact hwrite hspares _
    | deleteReference => exact hwrite hspares _
  · exact hchanges.same (.reference target) htarget

/-- So does every activity that spares it. -/
theorem exists_sameGroup_apply (h : Represents s m) {a : Activity} (hspares : a.Spares mac ids s) :
    ∃ m', Represents (a.apply s) m' ∧ SameGroup mac ids m m' := by
  cases a with
  | operation op => exact ⟨_, (h.step op).2, sameGroup_perform h hspares⟩
  | fetch mac' request =>
    exact ⟨_, h.fetch mac' request, fun _ _ => rfl, fun _ _ _ _ _ => rfl⟩

/-- And every sequence of them. -/
theorem exists_sameGroup_applyAll {activities : List Activity} (h : Represents s m)
    (hspare : SpareAll mac ids s activities) :
    ∃ m', Represents (Activity.applyAll activities s) m' ∧ SameGroup mac ids m m' := by
  induction activities generalizing s m with
  | nil => exact ⟨m, h, .refl mac ids m⟩
  | cons a rest ih =>
    obtain ⟨hfirst, hrest⟩ := hspare
    obtain ⟨m₁, hm₁, hsame⟩ := exists_sameGroup_apply h hfirst
    obtain ⟨m₂, hm₂, hlater⟩ := ih hm₁ hrest
    exact ⟨m₂, hm₂, hsame.trans hlater⟩

/-- A token that a client may send for a member of a group: that of the part it has for it, or any
without a comma if it has none. -/
def TokenFor (parts : List Multipart.Part) (id token : String) : Prop :=
  (∃ p ∈ parts, p.name = id ∧ token = p.version.token) ∨
    (∀ p ∈ parts, p.name ≠ id) ∧ ',' ∉ token.toList

/-- A client has a token for each member. -/
theorem exists_tokens (parts : List Multipart.Part) (ids : List String) :
    ∃ tokens, List.Forall₂ (TokenFor parts) ids tokens := by
  induction ids with
  | nil => exact ⟨[], .nil⟩
  | cons id ids ih =>
    obtain ⟨tokens, htokens⟩ := ih
    by_cases h : ∃ p ∈ parts, p.name = id
    · obtain ⟨p, hp, hname⟩ := h
      exact ⟨_, .cons (.inl ⟨p, hp, hname, rfl⟩) htokens⟩
    · have habsent : ∀ p ∈ parts, p.name ≠ id := fun p hp hname => h ⟨p, hp, hname⟩
      exact ⟨"" :: tokens, .cons (.inr ⟨habsent, by decide⟩) htokens⟩

section Tokens

variable {parts : List Multipart.Part}

/-- A member that is present has bytes that are addressable, and a token that was hashed. -/
theorem Represents.present (h : Represents s m) (hsendable : m.Sendable) {id : String}
    {doc : Resolved} (hdoc : (resolve mac id s).1 = .ok (some doc)) :
    doc.bytes.Addressable ∧ ∃ b, doc.version = Version.hashed b := by
  rw [h.resolve_eq] at hdoc
  split at hdoc
  · cases hdoc
  · exact hsendable.resolved (Except.ok.inj hdoc)

/-- The parts of a mirror have tokens that were hashed. -/
theorem Mirrors.exists_hashed (hmirrors : Mirrors mac ids s parts) (h : Represents s m)
    (hsendable : m.Sendable) {p : Multipart.Part} (hp : p ∈ parts) :
    ∃ b, p.version = Version.hashed b := by
  obtain ⟨id, -, doc, hdoc, rfl⟩ := (hmirrors.mem_iff p).1 hp
  exact (h.present hsendable hdoc).2

/-- A token for a member holds no comma when the versions of the parts are hashes. -/
theorem TokenFor.not_comma (hparts : ∀ p ∈ parts, ∃ b, p.version = Version.hashed b)
    {id token : String} (h : TokenFor parts id token) : ',' ∉ token.toList := by
  rcases h with ⟨p, hp, -, rfl⟩ | ⟨-, hcomma⟩
  · obtain ⟨b, hb⟩ := hparts p hp
    rw [hb]
    exact Version.not_mem_hashed (by decide) b
  · exact hcomma

/-- So the tokens of a client can be joined by commas and split again. -/
theorem forall_not_comma (hparts : ∀ p ∈ parts, ∃ b, p.version = Version.hashed b)
    {tokens : List String} (h : List.Forall₂ (TokenFor parts) ids tokens) :
    ∀ token ∈ tokens, ',' ∉ token.toList := by
  induction h with
  | nil => exact List.forall_mem_nil _
  | cons hfirst _ ih => exact List.forall_mem_cons.2 ⟨hfirst.not_comma hparts, ih⟩

/-- The token that a client sends for a present member is read as the version of that member. -/
theorem TokenFor.read (hmirrors : Mirrors mac ids s parts)
    (hparts : ∀ p ∈ parts, ∃ b, p.version = Version.hashed b) {id token : String} (hid : id ∈ ids)
    {doc : Resolved} (hdoc : (resolve mac id s).1 = .ok (some doc)) (h : TokenFor parts id token) :
    (⟨Text.trim token⟩ : Version) = doc.version := by
  rcases h with ⟨p, hp, rfl, rfl⟩ | ⟨habsent, -⟩
  · obtain ⟨b, hb⟩ := hparts p hp
    have hversion : p.version = doc.version := by rw [hmirrors.eq_toPart hp hdoc]; rfl
    rw [← hversion, hb, (Version.plain_hashed b).trimmed]
  · have hpart : doc.toPart ∈ parts := (hmirrors.mem_iff _).2 ⟨id, hid, doc, hdoc, rfl⟩
    exact absurd (id_eq_of_resolve hdoc) (habsent _ hpart)

end Tokens

/-- The root version of a group is a token that was hashed. -/
theorem exists_rootOf_eq (present : List (Resolved × Version)) :
    ∃ b, rootOf present = Version.hashed b :=
  ⟨_, rfl⟩

/-- What the encoder writes for the present members is decoded to parts that mirror them. -/
theorem Represents.exists_parts (h : Represents s m) (hsendable : m.Sendable)
    {members : List (String × Version)} (hplain : ∀ m ∈ members, Text.Plain m.1)
    {supply : UuidSupply} {message : Multipart.Message}
    (hencode : (Multipart.encode (partsOf (presentIn mac members s)) supply).1 = .ok message) :
    ∃ parts, Multipart.decode message.contentType message.body = .ok parts ∧
      Mirrors mac (members.map Prod.fst) s parts ∧
      ∀ p ∈ parts, ∃ b, p.version = Version.hashed b := by
  have hpresent : ∀ q ∈ presentIn mac members s,
      q.1.bytes.Addressable ∧ ∃ b, q.1.version = Version.hashed b := by
    intro q hq
    obtain ⟨member, -, hdoc, -⟩ := mem_presentIn_iff.1 hq
    exact h.present hsendable hdoc
  obtain ⟨parts, hdecode, hmirrors⟩ := exists_mirrors_of_hashed hplain hpresent hencode
  exact ⟨parts, hdecode, hmirrors, fun p hp => hmirrors.exists_hashed h hsendable hp⟩

section Again

variable {parts : List Multipart.Part} {members : List (String × Version)} {tokens : List String}

/-- A client that sends the tokens of its parts holds what is present, in any state in which the
group is what it was when it got them. -/
theorem holds_of_tokens (hids : members.map Prod.fst = ids) (hmirrors : Mirrors mac ids s parts)
    (hparts : ∀ p ∈ parts, ∃ b, p.version = Version.hashed b)
    (hsame : ∀ id ∈ ids, (resolve mac id t).1 = (resolve mac id s).1)
    (hne : presentIn mac members s ≠ []) (htokens : List.Forall₂ (TokenFor parts) ids tokens) :
    Holds (rootOf (presentIn mac members s))
      (presentIn mac (GroupRequest.pairs ids tokens) t) := by
  have hfst := GroupRequest.map_fst_pairs htokens.length_eq.symm
  have hversions := versionsIn_congr hsame
  refine ⟨fun hnil => hne ?_, ?_, fun p hp => ?_⟩
  · have hmap := map_presentIn mac members s
    rw [hids, ← hversions, ← hfst, ← map_presentIn, hnil] at hmap
    exact List.map_eq_nil_iff.1 hmap
  · rw [rootOf_presentIn, rootOf_presentIn, hfst, hids, hversions]
  · obtain ⟨m, hm, hdoc, hheld⟩ := mem_presentIn_iff.1 hp
    have hid : m.1 ∈ ids := (List.of_mem_zip hm).1
    rw [GroupRequest.pairs, List.zip_map_right] at hm
    obtain ⟨⟨id, token⟩, htoken, rfl⟩ := List.mem_map.1 hm
    have hread := List.forall₂_zip htokens htoken
    rw [← hheld]
    exact hread.read hmirrors hparts hid ((hsame _ hid).symm.trans hdoc)

/-- A fetch of a group with a member fails while the backend is failing. -/
theorem Represents.fetch_of_failing (h : Represents s m) (hf : s.backend.failing = true)
    {request : GroupRequest} (hne : request.members ≠ []) :
    (Store.fetch mac request s).1 = .error (.store .unavailable) := by
  obtain ⟨first, rest, hmembers⟩ := List.exists_cons_of_ne_nil hne
  have hfirst : (resolve mac first.1 s).1 = .error .unavailable := by
    rw [h.resolve_eq, ← h.failing, hf, if_pos rfl]
  refine (fetch_of_error (presentMembers_of_firstError ?_)).1
  exact ⟨[], first.1, first.2, rest, hmembers, List.forall_mem_nil _, hfirst⟩

/-- A backend from which a document was read answers. -/
theorem Represents.answers (h : Represents s m) {id : String} {found : Option Resolved}
    (hfound : (resolve mac id s).1 = .ok found) : s.backend.failing = false := by
  rw [h.resolve_eq] at hfound
  rw [h.failing]
  cases hf : m.failing with
  | false => rfl
  | true => rw [hf] at hfound; cases hfound

/-- A group that is the same has the same members, in backends that answer alike. -/
theorem SameGroup.resolve_eq (h : SameGroup mac ids m m') (hs : Represents s m)
    (ht : Represents t m') (hf : t.backend.failing = s.backend.failing) {id : String}
    (hid : id ∈ ids) : (resolve mac id t).1 = (resolve mac id s).1 := by
  rw [ht.resolve_eq, hs.resolve_eq, h.resolved hid, ← ht.failing, ← hs.failing, hf]

/-- A client that sends the tokens of its parts is told that nothing changed, as long as the group
is what it was, or that the backend is failing. -/
theorem SameGroup.fetch_again (h : SameGroup mac ids m m') (hs : Represents s m)
    (ht : Represents t m') (hids : members.map Prod.fst = ids) (hreadable : Readable mac members s)
    (hne : presentIn mac members s ≠ []) (hmirrors : Mirrors mac ids s parts)
    (hparts : ∀ p ∈ parts, ∃ b, p.version = Version.hashed b)
    (htokens : List.Forall₂ (TokenFor parts) ids tokens) :
    (fetch mac ⟨rootOf (presentIn mac members s), GroupRequest.pairs ids tokens⟩ t).1 =
      if t.backend.failing then .error (.store .unavailable)
      else .ok (.notModified (rootOf (presentIn mac members s))) := by
  have hfst := GroupRequest.map_fst_pairs htokens.length_eq.symm
  obtain ⟨q, hq⟩ := List.exists_mem_of_ne_nil _ hne
  obtain ⟨member, hmember, hfound, -⟩ := mem_presentIn_iff.1 hq
  cases hf : t.backend.failing with
  | true =>
    refine ht.fetch_of_failing hf fun hnil => ?_
    have hnone : ids = [] := hfst.symm.trans (congrArg (List.map Prod.fst) hnil)
    rw [List.map_eq_nil_iff.1 (hids.trans hnone)] at hmember
    cases hmember
  | false =>
    have hanswers := hf.trans (hs.answers hfound).symm
    have hresolve : ∀ id ∈ ids, (resolve mac id t).1 = (resolve mac id s).1 :=
      fun id hid => h.resolve_eq hs ht hanswers hid
    have hreadable' : Readable mac (GroupRequest.pairs ids tokens) t := by
      rw [readable_iff, hfst]
      intro id hid
      rw [hresolve id hid]
      exact readable_iff.1 hreadable id (hids ▸ hid)
    exact fetch_of_holds hreadable' (holds_of_tokens hids hmirrors hparts hresolve hne htokens)

end Again

/-- A client that is up to date is told so. It decodes an answer with at least one part and joins
the root version, which is a token like the others, and, for each member, the token of its part or
any token without a comma. The header is accepted, and after anything that spares its group the
fetch answers that nothing changed, or fails if the backend is failing by then. -/
theorem current_not_modified {registry : Registry} (hregistry : registry.Reachable)
    (hs : Reachable s) (mac : Mac) {group header : Option String} {request : GroupRequest}
    (hparse : GroupRequest.parse group header registry = .ok request)
    (hline : ∀ m ∈ request.members, Text.OneLine m.1) {root : Version}
    {message : Multipart.Message} {count : Nat}
    (hfetch : (fetch mac request s).1 = .ok (.modified root message count)) (hcount : 0 < count) :
    let ids := request.members.map Prod.fst
    let after := (fetch mac request s).2
    ∃ parts, Multipart.decode message.contentType message.body = .ok parts ∧
      ∀ tokens, List.Forall₂ (TokenFor parts) ids tokens →
        ∃ again, GroupRequest.parse group (some (Text.join ',' (root.token :: tokens))) registry =
            .ok again ∧
          ∀ later, SpareAll mac ids after later →
            let t := Activity.applyAll later after
            (fetch mac again t).1 =
              if t.backend.failing then .error (.store .unavailable)
              else .ok (.notModified root) := by
  intro ids after
  obtain ⟨m, hm, hsendable⟩ := hs.exists_represents
  obtain ⟨hreadable, ⟨heq, -⟩ | ⟨message', heq, hencode⟩⟩ := fetch_ok_cases hfetch
  · cases heq
  obtain ⟨rfl, rfl, rfl⟩ := Fetched.modified.inj heq
  have hne : presentIn mac request.members s ≠ [] := List.ne_nil_of_length_pos hcount
  have hplain : ∀ m ∈ request.members, Text.Plain m.1 := fun m hm =>
    ⟨hregistry.trim_eq (GroupRequest.contains_of_parse hparse m hm), hline m hm⟩
  obtain ⟨parts, hdecode, hmirrors, hparts⟩ := hm.exists_parts hsendable hplain hencode
  refine ⟨parts, hdecode, fun tokens htokens => ?_⟩
  obtain ⟨b, hb⟩ := exists_rootOf_eq (presentIn mac request.members s)
  have htrim := (Version.plain_hashed b).trimmed
  have hblank : Text.trim (Version.hashed b).token ≠ "" := by
    rw [htrim]
    exact Version.token_hashed_ne_empty b
  have hcomma : ∀ token ∈ (Version.hashed b).token :: tokens, ',' ∉ token.toList :=
    List.forall_mem_cons.2 ⟨Version.not_mem_hashed (by decide) b, forall_not_comma hparts htokens⟩
  have hlength : tokens.length = request.members.length := by
    rw [← htokens.length_eq, List.length_map]
  have hagain := GroupRequest.parse_join hparse hblank hcomma hlength
  rw [htrim, ← hb] at hagain
  refine ⟨_, hagain, fun later hspare => ?_⟩
  obtain ⟨m', ht, hlater⟩ := exists_sameGroup_applyAll (hm.fetch mac request) hspare
  have hsame : SameGroup mac ids m m' := ⟨hlater.links, hlater.references⟩
  exact hsame.fetch_again hm ht rfl hreadable hne hmirrors hparts htokens

/-- A device whose subdocument is linked to a reference. -/
def sharingMac : Mac := ⟨"00000000000A", by decide⟩

/-- The store with that link. -/
def sharing : State := Activity.applyAll (sharedHistory.map .operation) {}

/-- The sample store is reached by commands. -/
theorem reachable_sharing : Reachable sharing := by
  have hbytes : Bytes.Addressable [1] := by decide
  have hput : (Activity.operation (.putReference "a/b" [1])).Addressable := hbytes
  have hlink : (Activity.operation
      (.link "00000000000a" "lan" (.reference "a/b"))).Addressable := trivial
  exact ((Reachable.empty false [] {}).step hput).step hlink

/-- A fetch that asks for the subdocument and for another one, with tokens that are wrong. -/
def firstRequest : GroupRequest := ⟨⟨"0"⟩, [("lan", ⟨"0"⟩), ("wan", ⟨"0"⟩)]⟩

/-- What that fetch finds. -/
def firstPresent : List (Resolved × Version) :=
  presentIn sharingMac firstRequest.members sharing

/-- The reference is uploaded again, the subdocument is linked for another device, and the backend
fails for a while. -/
def sparing : List Activity :=
  [.operation (.putReference "a/b" [1]), .operation (.link "00000000000b" "lan" (.inline [2])),
    .operation (.setFailing true), .operation (.setFailing false)]

/-- The sample activities spare the group, although one of them links the same subdocument of
another device and the backend fails for a while. -/
theorem spareAll_sparing :
    SpareAll sharingMac ["lan", "wan"] (fetch sharingMac firstRequest sharing).2 sparing := by
  have hentries := (fetch_state sharingMac firstRequest sharing).1
  have hother : Mac.parse "00000000000b" ≠ .ok sharingMac := by decide
  refine ⟨fun _ => ?_, fun hparse => absurd hparse hother, trivial, trivial, trivial⟩
  rw [hentries]
  rfl

/-- The first fetch is answered with the one member that is present. After those activities the
client is told that this is what there is. -/
theorem current_not_modified_shared :
    ∃ root message parts tokens again,
      (fetch sharingMac firstRequest sharing).1 = .ok (.modified root message 1) ∧
      Multipart.decode message.contentType message.body = .ok parts ∧
      GroupRequest.parse (some "root,lan,wan") (some (Text.join ',' (root.token :: tokens)))
        .builtin = .ok again ∧
      (fetch sharingMac again
        (Activity.applyAll sparing (fetch sharingMac firstRequest sharing).2)).1 =
          .ok (.notModified root) := by
  have hparse : GroupRequest.parse (some "root,lan,wan") (some "0,0,0") .builtin =
      .ok firstRequest := by decide
  have hline : ∀ m ∈ firstRequest.members, Text.OneLine m.1 := by decide
  let boundary := Multipart.boundaryAt 1
  have hfetch : (fetch sharingMac firstRequest sharing).1 = .ok (.modified (rootOf firstPresent)
      ⟨boundary, Multipart.writeBody boundary (partsOf firstPresent)⟩ 1) := by decide +kernel
  obtain ⟨parts, hdecode, hagain⟩ := current_not_modified .builtin reachable_sharing sharingMac
    hparse hline hfetch (by decide)
  obtain ⟨tokens, htokens⟩ := exists_tokens parts (firstRequest.members.map Prod.fst)
  obtain ⟨again, hparsed, hlater⟩ := hagain tokens htokens
  exact ⟨_, _, parts, tokens, again, hfetch, hdecode, hparsed, hlater sparing spareAll_sparing⟩

end GatewayConfig.Store
