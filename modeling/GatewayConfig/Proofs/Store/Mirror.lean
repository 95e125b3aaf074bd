import GatewayConfig.Proofs.Store.Outcome
import GatewayConfig.Proofs.Store.Stamped

/-!
# A client that keeps a mirror

A client of one device fetches one group again and again, with the tokens of its last answer, while
the documents change in any order and the backend fails at any time. It replaces its mirror when
it gets parts and keeps it when it is told that nothing changed. `mirror_current` says that the
mirror is what the store holds after every fetch that succeeds.

The tokens are hashes, so this rests on the absence of collisions: no identifier is drawn twice,
and no two byte strings that the run hashes have one token.
-/

namespace GatewayConfig.Store

variable {issued : Nat → Payload} {start stop : Nat} {hashed : Set Bytes} {mac : Mac}
  {ids : List String} {s t : State}

/-- The members of a group that are present, each with its version. -/
def versionsIn (mac : Mac) (ids : List String) (s : State) : List (String × Version) :=
  ids.filterMap fun id => match (resolve mac id s).1 with
    | .ok (some doc) => some (id, doc.version)
    | _ => none

/-- A version is among those of a store exactly when its identifier is asked for and resolves to a
document of that version. Identifiers that resolve to nothing are passed over. -/
theorem mem_versionsIn_iff {m : String × Version} :
    m ∈ versionsIn mac ids s ↔
      m.1 ∈ ids ∧ ∃ doc, (resolve mac m.1 s).1 = .ok (some doc) ∧ doc.version = m.2 := by
  rw [versionsIn, List.mem_filterMap]
  constructor
  · rintro ⟨id, hid, h⟩
    cases hr : (resolve mac id s).1 with
    | error e => rw [hr] at h; cases h
    | ok found =>
      rw [hr] at h
      cases found with
      | none => cases h
      | some doc =>
        obtain rfl := Option.some.inj h
        exact ⟨hid, doc, hr, rfl⟩
  · rintro ⟨hid, doc, hr, hv⟩
    refine ⟨m.1, hid, ?_⟩
    rw [hr]
    exact congrArg some (Prod.ext rfl hv)

/-- The versions depend on the store only through what is resolved. -/
theorem versionsIn_congr (h : ∀ id ∈ ids, (resolve mac id t).1 = (resolve mac id s).1) :
    versionsIn mac ids t = versionsIn mac ids s := by
  rw [versionsIn, versionsIn]
  refine List.filterMap_congr fun id hid => ?_
  rw [h id hid]

/-- What is present does not depend on the tokens that the client sends. -/
theorem map_presentIn (mac : Mac) (members : List (String × Version)) (s : State) :
    (presentIn mac members s).map (fun p => (p.1.id, p.1.version)) =
      versionsIn mac (members.map Prod.fst) s := by
  rw [presentIn, versionsIn, List.map_filterMap, List.filterMap_map]
  refine List.filterMap_congr fun m _ => ?_
  cases hr : (resolve mac m.1 s).1 with
  | error e => simp [hr]
  | ok found =>
    cases found with
    | none => simp [hr]
    | some doc => simp [hr, id_eq_of_resolve hr]

/-- Neither does its root version. -/
theorem rootOf_presentIn (mac : Mac) (members : List (String × Version)) (s : State) :
    rootOf (presentIn mac members s) =
      Version.root (versionsIn mac (members.map Prod.fst) s) := by
  rw [rootOf, ← map_presentIn]

/-- What the encoder writes for members whose tokens were hashed is read back as those members. -/
theorem exists_mirrors_of_hashed {members : List (String × Version)} {supply : UuidSupply}
    {message : Multipart.Message} (hid : ∀ m ∈ members, Text.Plain m.1)
    (hpresent : ∀ q ∈ presentIn mac members s,
      q.1.bytes.Addressable ∧ ∃ b, q.1.version = Version.hashed b)
    (he : (Multipart.encode (partsOf (presentIn mac members s)) supply).1 = .ok message) :
    ∃ found, Multipart.decode message.contentType message.body = .ok found ∧
      Mirrors mac (members.map Prod.fst) s found := by
  refine exists_mirrors_of_encode hid (fun q hq => ?_) (fun q hq => (hpresent q hq).1) he
  obtain ⟨-, b, hb⟩ := hpresent q hq
  rw [hb]
  exact Version.plain_hashed b

/-- If the same members are present with the same versions in two states of one run, then the
group is the same in both, and so are the links to its present members. -/
theorem resolve_eq_of_versionsIn_eq
    (hs : Stamped issued start stop hashed s.backend.entries)
    (ht : Stamped issued start stop hashed t.backend.entries)
    (hdraws : Set.InjOn uuidAt (Set.Ico start stop)) (hhash : Set.InjOn Version.hashed hashed)
    (hsmem : ∀ id ∈ ids, ∀ b ∈ hashedFor mac s id, b ∈ hashed)
    (htmem : ∀ id ∈ ids, ∀ b ∈ hashedFor mac t id, b ∈ hashed)
    (hsread : ∀ id ∈ ids, ∃ found, (resolve mac id s).1 = .ok found)
    (htread : ∀ id ∈ ids, ∃ found, (resolve mac id t).1 = .ok found)
    (hv : versionsIn mac ids s = versionsIn mac ids t) {id : String} (hid : id ∈ ids) :
    (resolve mac id s).1 = (resolve mac id t).1 ∧
      ∀ doc, (resolve mac id t).1 = .ok (some doc) →
        (record mac id s).1 = (record mac id t).1 := by
  obtain ⟨found, hfound⟩ := hsread id hid
  cases found with
  | some doc =>
    have hmem : (id, doc.version) ∈ versionsIn mac ids s :=
      mem_versionsIn_iff.2 ⟨hid, doc, hfound, rfl⟩
    rw [hv] at hmem
    obtain ⟨-, doc', hfound', hversion⟩ := mem_versionsIn_iff.1 hmem
    obtain ⟨hdoc, hrecord⟩ := resolved_eq hs ht hdraws hhash (hsmem id hid) (htmem id hid) hfound
      hfound' hversion.symm
    rw [hfound, hfound', hdoc]
    exact ⟨rfl, fun _ _ => hrecord⟩
  | none =>
    obtain ⟨found', hfound'⟩ := htread id hid
    cases found' with
    | none =>
      rw [hfound, hfound']
      exact ⟨rfl, fun doc hdoc => by cases hdoc⟩
    | some doc =>
      have hmem : (id, doc.version) ∈ versionsIn mac ids t :=
        mem_versionsIn_iff.2 ⟨hid, doc, hfound', rfl⟩
      rw [← hv] at hmem
      obtain ⟨-, doc', hdoc', -⟩ := mem_versionsIn_iff.1 hmem
      rw [hfound] at hdoc'
      cases hdoc'

/-- A client with the store that it fetches from. -/
structure Session where
  /-- The store. -/
  store : State
  /-- The root version of the client's last answer. -/
  rootVersion : Version := ⟨"0"⟩
  /-- The parts that the client holds. -/
  mirror : List Multipart.Part := []
  /-- The store that the last answer with parts was about. The client does not see it. -/
  asOf : Option State := none

/-- What happens in a session. -/
inductive Event where
  /-- The store changes, for this device or another. -/
  | change (c : Change)
  /-- The client fetches its group. -/
  | fetch

/-- The changes of a session are addressable. -/
def Event.Addressable : Event → Prop
  | change c => c.Addressable
  | fetch => True

/-- The token that a client has for a member: the version of the part it holds, or zero. -/
def heldVersion (mirror : List Multipart.Part) (id : String) : Version :=
  ((mirror.find? fun p => p.name == id).map Multipart.Part.version).getD ⟨"0"⟩

namespace Session

/-- The group fetch that the client sends. -/
def request (ids : List String) (c : Session) : GroupRequest :=
  ⟨c.rootVersion, ids.map fun id => (id, heldVersion c.mirror id)⟩

/-- The answer to the fetch that the client sends. -/
def answer (mac : Mac) (ids : List String) (c : Session) : Except FetchError Fetched :=
  (Store.fetch mac (c.request ids) c.store).1

/-- The session after a fetch. A client that gets no readable answer keeps what it has. -/
def receive (mac : Mac) (ids : List String) (c : Session) : Session :=
  let after := (Store.fetch mac (c.request ids) c.store).2
  match c.answer mac ids with
  | .error _ => { c with store := after }
  | .ok (.notModified root) => { c with store := after, rootVersion := root }
  | .ok (.modified root message _) =>
    match Multipart.decode message.contentType message.body with
    | .error _ => { c with store := after }
    | .ok parts => ⟨after, root, parts, some c.store⟩

/-- The session after an event. -/
def step (mac : Mac) (ids : List String) (c : Session) : Event → Session
  | .change change => { c with store := change.apply c.store }
  | .fetch => c.receive mac ids

/-- The session after a run. -/
def run (mac : Mac) (ids : List String) (c : Session) (events : List Event) : Session :=
  events.foldl (step mac ids) c

/-- The byte strings that an event hashes: the identifier of a link, and what a fetch that succeeds
hashes for its members and for the group. Nothing is assumed of what else is hashed. -/
def texts (mac : Mac) (ids : List String) (c : Session) : Event → List Bytes
  | .change (.link ..) => [uuidAt c.store.uuids.next]
  | .change _ => []
  | .fetch =>
    match c.answer mac ids with
    | .error _ => []
    | .ok _ =>
      Version.rootText (versionsIn mac ids c.store) :: ids.flatMap (hashedFor mac c.store)

/-- The byte strings that a run hashes. -/
def allTexts (mac : Mac) (ids : List String) : Session → List Event → List Bytes
  | _, [] => []
  | c, e :: rest => c.texts mac ids e ++ (c.step mac ids e).allTexts mac ids rest

end Session

/-- What a client that holds a mirror of a state knows of it. -/
structure Snapshot (mac : Mac) (ids : List String) (hashed : Set Bytes) (s : State)
    (root : Version) (mirror : List Multipart.Part) : Prop where
  /-- Every member could be read. -/
  readable : ∀ id ∈ ids, ∃ found, (resolve mac id s).1 = .ok found
  /-- What was hashed for the members. -/
  members : ∀ id ∈ ids, ∀ b ∈ hashedFor mac s id, b ∈ hashed
  /-- What was hashed for the group. -/
  text : Version.rootText (versionsIn mac ids s) ∈ hashed
  /-- The token of the group. -/
  root : root = Version.root (versionsIn mac ids s)
  /-- The mirror is that of the state. -/
  mirrors : Mirrors mac ids s mirror

/-- The invariant of a session: the documents are accounted for, those that the client has a
mirror of by the same history, and a client without a mirror has no root version. -/
structure Session.Coherent (mac : Mac) (ids : List String) (hashed : Set Bytes) (start : Nat)
    (issued : Nat → Payload) (c : Session) : Prop where
  /-- The run started at a draw that is over. -/
  started : start ≤ c.store.uuids.next
  /-- The documents are accounted for. -/
  stamped : Stamped issued start c.store.uuids.next hashed c.store.backend.entries
  /-- Those that the mirror is of are accounted for by the same history. -/
  stampedThen : ∀ s ∈ c.asOf, Stamped issued start c.store.uuids.next hashed s.backend.entries
  /-- The client's root version and mirror are those of the state. -/
  snapshot : ∀ s ∈ c.asOf, Snapshot mac ids hashed s c.rootVersion c.mirror
  /-- A client without a mirror has no root version. -/
  unset : c.asOf = none → c.rootVersion = ⟨"0"⟩

namespace Session.Coherent

variable {c : Session}

/-- A change keeps a session coherent when what it stores is addressable and the texts it may hash
are among those told apart. -/
theorem change (h : c.Coherent mac ids hashed start issued) {ch : Change} (hc : ch.Addressable)
    (hmem : ∀ b ∈ c.texts mac ids (.change ch), b ∈ hashed) :
    ({ c with store := ch.apply c.store } : Session).Coherent mac ids hashed start
      (ch.issue c.store.uuids.next issued) := by
  obtain ⟨hentries, hnext⟩ := ch.apply_spec c.store
  have hissued : ∀ n < c.store.uuids.next, ch.issue c.store.uuids.next issued n = issued n :=
    fun n hn => ch.issue_of_lt issued hn
  have hle : c.store.uuids.next ≤ (ch.apply c.store).uuids.next := by omega
  constructor
  case started => exact h.started.trans hle
  case stamped =>
    rw [hentries]
    split
    · exact h.stamped.mono hle hissued
    · rw [hnext]
      refine h.stamped.effect h.started hc fun hdraws => hmem _ ?_
      cases ch with
      | link mac id payload => exact List.mem_singleton_self _
      | _ => cases hdraws
  case stampedThen => exact fun s hs => (h.stampedThen s hs).mono hle hissued
  case snapshot => exact h.snapshot
  case unset => exact h.unset

/-- Only the draws go on when the documents stay as they are. -/
theorem of_store (h : c.Coherent mac ids hashed start issued) {after : State}
    (hentries : after.backend.entries = c.store.backend.entries)
    (hnext : c.store.uuids.next ≤ after.uuids.next) :
    ({ c with store := after } : Session).Coherent mac ids hashed start issued := by
  constructor
  case started => exact h.started.trans hnext
  case stamped =>
    rw [hentries]
    exact h.stamped.mono hnext fun _ _ => rfl
  case stampedThen => exact fun s hs => (h.stampedThen s hs).mono hnext fun _ _ => rfl
  case snapshot => exact h.snapshot
  case unset => exact h.unset

end Session.Coherent

/-- A request asks for its identifiers in their order, with what the session holds or no version. -/
theorem Session.members_request (ids : List String) (c : Session) :
    (c.request ids).members.map Prod.fst = ids := by
  rw [Session.request, List.map_map]
  exact List.map_id ids

/-- In a readable group every identifier resolves without error, to a document or to nothing. -/
theorem Session.readable_request {c : Session} (h : Readable mac (c.request ids).members c.store) :
    ∀ id ∈ ids, ∃ found, (resolve mac id c.store).1 = .ok found :=
  fun id hid => h (id, heldVersion c.mirror id) (List.mem_map_of_mem hid)

/-- A fetch that succeeds leaves a client that has a mirror of the store with a snapshot of it. -/
theorem Session.snapshot_of_answer {c : Session} {a : Fetched} {mirror : List Multipart.Part}
    (ha : c.answer mac ids = .ok a) (hmem : ∀ b ∈ c.texts mac ids .fetch, b ∈ hashed)
    (hmirrors : Mirrors mac ids c.store mirror) :
    Snapshot mac ids hashed c.store (Version.root (versionsIn mac ids c.store)) mirror := by
  rw [Session.texts, ha] at hmem
  obtain ⟨hroot, hmembers⟩ := List.forall_mem_cons.1 hmem
  constructor
  case readable => exact readable_request (fetch_ok_cases ha).1
  case members => exact fun id hid b hb => hmembers b (List.mem_flatMap.2 ⟨id, hid, hb⟩)
  case text => exact hroot
  case root => rfl
  case mirrors => exact hmirrors

/-- A client is told that nothing changed when its root version is that of the store. -/
theorem Session.rootVersion_of_notModified {c : Session} {root : Version}
    (ha : c.answer mac ids = .ok (.notModified root)) :
    c.rootVersion = Version.root (versionsIn mac ids c.store) := by
  rcases (fetch_ok_cases ha).2 with ⟨-, hholds⟩ | ⟨message, hmessage, -⟩
  · have hroot : c.rootVersion = rootOf (presentIn mac (c.request ids).members c.store) :=
      hholds.2.1
    rw [hroot, rootOf_presentIn, members_request]
  · cases hmessage

namespace Session.Coherent

variable {c : Session}

/-- What a fetch sends is read back by the client. -/
theorem exists_mirrors (h : c.Coherent mac ids hashed start issued)
    (hids : ∀ id ∈ ids, Text.Plain id) {message : Multipart.Message}
    (he : (Multipart.encode (partsOf (presentIn mac (c.request ids).members c.store))
      c.store.uuids).1 = .ok message) :
    ∃ parts, Multipart.decode message.contentType message.body = .ok parts ∧
      Mirrors mac ids c.store parts := by
  have hplain : ∀ m ∈ (c.request ids).members, Text.Plain m.1 := by
    intro m hm
    refine hids m.1 ?_
    rw [← members_request ids c]
    exact List.mem_map_of_mem hm
  have hpresent : ∀ q ∈ presentIn mac (c.request ids).members c.store,
      q.1.bytes.Addressable ∧ ∃ b, q.1.version = Version.hashed b := by
    intro q hq
    obtain ⟨m, -, hdoc, -⟩ := mem_presentIn_iff.1 hq
    exact h.stamped.present hdoc
  have hdecode := exists_mirrors_of_hashed hplain hpresent he
  rw [members_request] at hdecode
  exact hdecode

/-- A fetch that succeeds leaves the client as it was, or with a mirror of the store. -/
theorem receive_cases (h : c.Coherent mac ids hashed start issued)
    (hids : ∀ id ∈ ids, Text.Plain id) {a : Fetched} (ha : c.answer mac ids = .ok a) :
    ((∃ root, a = .notModified root) ∧
      c.receive mac ids = { c with store := (fetch mac (c.request ids) c.store).2 }) ∨
    ∃ parts, Mirrors mac ids c.store parts ∧
      c.receive mac ids = ⟨(fetch mac (c.request ids) c.store).2,
        Version.root (versionsIn mac ids c.store), parts, some c.store⟩ := by
  obtain ⟨-, ⟨rfl, hholds⟩ | ⟨message, rfl, he⟩⟩ := fetch_ok_cases ha
  · refine .inl ⟨⟨_, rfl⟩, ?_⟩
    rw [Session.receive, ha]
    dsimp only
    rw [← hholds.2.1]
    rfl
  · obtain ⟨parts, hdecode, hmirrors⟩ := h.exists_mirrors hids he
    refine .inr ⟨parts, hmirrors, ?_⟩
    rw [Session.receive, ha]
    dsimp only
    rw [hdecode, rootOf_presentIn, members_request]

/-- A fetch keeps a session coherent, whether it changes the mirror, leaves it or fails. -/
theorem receive (h : c.Coherent mac ids hashed start issued) (hids : ∀ id ∈ ids, Text.Plain id)
    (hmem : ∀ b ∈ c.texts mac ids .fetch, b ∈ hashed) :
    (c.receive mac ids).Coherent mac ids hashed start issued := by
  obtain ⟨hentries, -, hnext, -⟩ := fetch_state mac (c.request ids) c.store
  have hstore := h.of_store hentries hnext
  cases ha : c.answer mac ids with
  | error e =>
    rw [Session.receive, ha]
    exact hstore
  | ok a =>
    rcases h.receive_cases hids ha with ⟨-, heq⟩ | ⟨parts, hmirrors, heq⟩
    · rw [heq]
      exact hstore
    · have hsnapshot := snapshot_of_answer ha hmem hmirrors
      rw [heq]
      constructor
      case started => exact hstore.started
      case stamped => exact hstore.stamped
      case stampedThen =>
        intro s hs
        obtain rfl := Option.some.inj hs
        exact h.stamped.mono hnext fun _ _ => rfl
      case snapshot =>
        intro s hs
        obtain rfl := Option.some.inj hs
        exact hsnapshot
      case unset => exact fun hs => by cases hs

/-- The members of a stamped store can be told apart in the text of a root: only an identifier with
a line end would hide where its line stops. -/
theorem separable_of_mem_versionsIn (h : Stamped issued start stop hashed s.backend.entries)
    (hids : ∀ id ∈ ids, '\n' ∉ id.toList) :
    ∀ m ∈ versionsIn mac ids s, Version.Separable m := by
  intro m hm
  obtain ⟨hid, doc, hdoc, hv⟩ := mem_versionsIn_iff.1 hm
  obtain ⟨-, b, hb⟩ := h.present hdoc
  rw [hb] at hv
  refine ⟨hids m.1 hid, ?_, ?_⟩
  · rw [← hv]
    exact Version.not_mem_hashed (by decide) b
  · rw [← hv]
    exact Version.not_mem_hashed (by decide) b

/-- A client is told that nothing changed only when nothing did: the group is what it was when
the client got its mirror, and no present member was linked again. -/
theorem unchanged (h : c.Coherent mac ids hashed start issued)
    (hids : ∀ id ∈ ids, '\n' ∉ id.toList)
    (hdraws : Set.InjOn uuidAt (Set.Ico start c.store.uuids.next))
    (hhash : Set.InjOn Version.hashed hashed)
    (hmem : ∀ b ∈ c.texts mac ids .fetch, b ∈ hashed) {root : Version}
    (ha : c.answer mac ids = .ok (.notModified root)) :
    ∃ s, c.asOf = some s ∧ ∀ id ∈ ids, (resolve mac id s).1 = (resolve mac id c.store).1 ∧
      ∀ doc, (resolve mac id c.store).1 = .ok (some doc) →
        (record mac id s).1 = (record mac id c.store).1 := by
  have hreadable := readable_request (fetch_ok_cases ha).1
  have hroot := rootVersion_of_notModified ha
  rw [Session.texts, ha] at hmem
  obtain ⟨htext, hmembers⟩ := List.forall_mem_cons.1 hmem
  cases hasOf : c.asOf with
  | none =>
    have hlength := congrArg (fun v => v.token.toList.length) ((h.unset hasOf).symm.trans hroot)
    rw [Version.root, Version.length_hashed] at hlength
    cases hlength
  | some s =>
    have hsnapshot := h.snapshot s hasOf
    have hs := h.stampedThen s hasOf
    have hhashed : Version.rootText (versionsIn mac ids s) =
        Version.rootText (versionsIn mac ids c.store) :=
      hhash hsnapshot.text htext (hsnapshot.root.symm.trans hroot)
    have hversions : versionsIn mac ids s = versionsIn mac ids c.store :=
      Version.rootText_inj (separable_of_mem_versionsIn hs hids)
        (separable_of_mem_versionsIn h.stamped hids) hhashed
    refine ⟨s, rfl, fun id hid => ?_⟩
    exact resolve_eq_of_versionsIn_eq hs h.stamped hdraws hhash hsnapshot.members
      (fun id hid b hb => hmembers b (List.mem_flatMap.2 ⟨id, hid, hb⟩)) hsnapshot.readable
      hreadable hversions hid

end Session.Coherent

namespace Session

/-- A fetch leaves the store as the plain fetch of its request does. -/
theorem store_receive (mac : Mac) (ids : List String) (c : Session) :
    (c.receive mac ids).store = (Store.fetch mac (c.request ids) c.store).2 := by
  rw [receive]
  cases c.answer mac ids with
  | error e => rfl
  | ok a =>
    cases a with
    | notModified root => rfl
    | modified root message count =>
      dsimp only
      cases Multipart.decode message.contentType message.body with
      | error e => rfl
      | ok parts => rfl

/-- No step takes a draw back. -/
theorem next_le_step (mac : Mac) (ids : List String) (c : Session) (e : Event) :
    c.store.uuids.next ≤ (c.step mac ids e).store.uuids.next := by
  cases e with
  | change ch =>
    rw [step, (ch.apply_spec c.store).2]
    exact Nat.le_add_right _ _
  | fetch =>
    rw [step, store_receive]
    exact (fetch_state mac (c.request ids) c.store).2.2.1

/-- No run takes a draw back. -/
theorem next_le_run (mac : Mac) (ids : List String) (c : Session) (events : List Event) :
    c.store.uuids.next ≤ (c.run mac ids events).store.uuids.next := by
  induction events generalizing c with
  | nil => exact Nat.le_refl _
  | cons e events ih => exact (next_le_step mac ids c e).trans (ih (c.step mac ids e))

/-- A step that fetches receives. -/
theorem step_fetch (mac : Mac) (ids : List String) (c : Session) :
    c.step mac ids .fetch = c.receive mac ids := rfl

/-- A run takes its first step first. -/
theorem run_cons (mac : Mac) (ids : List String) (c : Session) (e : Event) (events : List Event) :
    c.run mac ids (e :: events) = (c.step mac ids e).run mac ids events := rfl

/-- A run without events goes nowhere. -/
theorem run_nil (mac : Mac) (ids : List String) (c : Session) : c.run mac ids [] = c := rfl

/-- A run over earlier and later events goes through the session between them. -/
theorem run_append (mac : Mac) (ids : List String) (c : Session) (earlier later : List Event) :
    c.run mac ids (earlier ++ later) = (c.run mac ids earlier).run mac ids later :=
  List.foldl_append

/-- The texts hashed in a run are those of its first events and then those of the others, from the
session between them. -/
theorem allTexts_append (mac : Mac) (ids : List String) (c : Session)
    (earlier later : List Event) :
    c.allTexts mac ids (earlier ++ later) =
      c.allTexts mac ids earlier ++ (c.run mac ids earlier).allTexts mac ids later := by
  induction earlier generalizing c with
  | nil => rfl
  | cons e earlier ih =>
    rw [List.cons_append, allTexts, allTexts, ih, List.append_assoc]
    rfl

/-- Every event keeps a session coherent. -/
theorem Coherent.step {c : Session} (h : c.Coherent mac ids hashed start issued)
    (hids : ∀ id ∈ ids, Text.Plain id) {e : Event} (he : e.Addressable)
    (hmem : ∀ b ∈ c.texts mac ids e, b ∈ hashed) :
    ∃ issued', (c.step mac ids e).Coherent mac ids hashed start issued' := by
  cases e with
  | change ch => exact ⟨_, h.change he hmem⟩
  | fetch => exact ⟨issued, h.receive hids hmem⟩

/-- So does every run. -/
theorem Coherent.run {c : Session} (h : c.Coherent mac ids hashed start issued)
    (hids : ∀ id ∈ ids, Text.Plain id) {events : List Event} (he : ∀ e ∈ events, e.Addressable)
    (hmem : ∀ b ∈ c.allTexts mac ids events, b ∈ hashed) :
    ∃ issued', (c.run mac ids events).Coherent mac ids hashed start issued' := by
  induction events generalizing c issued with
  | nil => exact ⟨issued, h⟩
  | cons e events ih =>
    obtain ⟨hfirst, hrest⟩ := List.forall_mem_cons.1 he
    obtain ⟨htexts, hlater⟩ := List.forall_mem_append.1 hmem
    obtain ⟨issued', hstep⟩ := h.step hids hfirst htexts
    exact ih hstep hrest hlater

/-- A session that starts with an empty store is coherent. -/
theorem coherent_start (mac : Mac) (ids : List String) (hashed : Set Bytes) {s : State}
    (hs : s.backend.entries = []) (issued : Nat → Payload) :
    ({ store := s } : Session).Coherent mac ids hashed s.uuids.next issued := by
  constructor
  case started => exact Nat.le_refl _
  case stamped =>
    rw [hs]
    exact Stamped.nil _ _ _ _
  case stampedThen => exact fun s hs => by cases hs
  case snapshot => exact fun s hs => by cases hs
  case unset => exact fun _ => rfl

/-- The token that a client sends for a present member is its version, when the client has a mirror
of the store. -/
theorem heldVersion_of_mirrors {parts : List Multipart.Part} (h : Mirrors mac ids s parts)
    {id : String} (hid : id ∈ ids) {doc : Resolved}
    (hdoc : (resolve mac id s).1 = .ok (some doc)) : heldVersion parts id = doc.version := by
  have hmem : doc.toPart ∈ parts := (h.mem_iff _).2 ⟨id, hid, doc, hdoc, rfl⟩
  have hname : doc.toPart.name = id := id_eq_of_resolve hdoc
  have hsome : (parts.find? fun p => p.name == id).isSome = true := by
    rw [List.find?_isSome]
    exact ⟨doc.toPart, hmem, beq_iff_eq.2 hname⟩
  obtain ⟨p, hp⟩ := Option.isSome_iff_exists.1 hsome
  have hpname : p.name = id := by simpa using List.find?_some hp
  have hpart : p = doc.toPart := by
    rw [← hpname] at hdoc
    exact h.eq_toPart (List.mem_of_find?_eq_some hp) hdoc
  rw [heldVersion, hp, hpart]
  rfl

/-- A client that has a mirror of the store is told so, when any member is present. -/
theorem answer_of_snapshot {c : Session}
    (h : Snapshot mac ids hashed c.store c.rootVersion c.mirror)
    (hne : versionsIn mac ids c.store ≠ []) :
    c.answer mac ids = .ok (.notModified c.rootVersion) := by
  have hreadable : Readable mac (c.request ids).members c.store := by
    intro m hm
    obtain ⟨id, hid, rfl⟩ := List.mem_map.1 hm
    exact h.readable id hid
  have hroot : c.rootVersion = rootOf (presentIn mac (c.request ids).members c.store) := by
    rw [rootOf_presentIn, members_request, h.root]
  have hholds : Holds c.rootVersion (presentIn mac (c.request ids).members c.store) := by
    refine ⟨?_, hroot, fun p hp => ?_⟩
    · obtain ⟨m, hm⟩ := List.exists_mem_of_ne_nil _ hne
      obtain ⟨hid, doc, hdoc, -⟩ := mem_versionsIn_iff.1 hm
      have hpresent : (doc, heldVersion c.mirror m.1) ∈
          presentIn mac (c.request ids).members c.store :=
        mem_presentIn_iff.2 ⟨_, List.mem_map_of_mem hid, hdoc, rfl⟩
      exact List.ne_nil_of_mem hpresent
    · obtain ⟨m, hm, hdoc, hheld⟩ := mem_presentIn_iff.1 hp
      obtain ⟨id, hid, rfl⟩ := List.mem_map.1 hm
      rw [← hheld]
      exact heldVersion_of_mirrors h.mirrors hid hdoc
  exact fetch_of_holds hreadable hholds

/-- A fetch leaves every member as it was. -/
theorem same_after_receive (mac mac' : Mac) (ids : List String) (id : String) (c : Session) :
    (resolve mac' id c.store).1 = (resolve mac' id (c.receive mac ids).store).1 ∧
      (record mac' id c.store).1 = (record mac' id (c.receive mac ids).store).1 := by
  obtain ⟨hentries, hfailing, -⟩ := fetch_state mac (c.request ids) c.store
  rw [store_receive]
  exact ⟨resolve_congr hentries.symm hfailing.symm, record_congr hentries.symm hfailing.symm⟩

/-- After a fetch that succeeds the client has a mirror of the store. -/
theorem Coherent.mirrors {c : Session} (h : c.Coherent mac ids hashed start issued)
    (hids : ∀ id ∈ ids, Text.Plain id ∧ '\n' ∉ id.toList)
    (hdraws : Set.InjOn uuidAt (Set.Ico start c.store.uuids.next))
    (hhash : Set.InjOn Version.hashed hashed)
    (hmem : ∀ b ∈ c.texts mac ids .fetch, b ∈ hashed) {a : Fetched}
    (ha : c.answer mac ids = .ok a) : Mirrors mac ids c.store (c.receive mac ids).mirror := by
  rcases h.receive_cases (fun id hid => (hids id hid).1) ha with
    ⟨⟨root, rfl⟩, heq⟩ | ⟨parts, hmirrors, heq⟩
  · obtain ⟨s, hs, hsame⟩ := h.unchanged (fun id hid => (hids id hid).2) hdraws hhash hmem ha
    rw [heq]
    exact (h.snapshot s hs).mirrors.congr fun id hid => (hsame id hid).1
  · rw [heq]
    exact hmirrors

/-- A client that fetches again before anything changes is told that nothing did, when any member
is present. -/
theorem Coherent.answer_again {c : Session} (h : c.Coherent mac ids hashed start issued)
    (hids : ∀ id ∈ ids, Text.Plain id) {a : Fetched} (ha : c.answer mac ids = .ok a)
    (hmirrors : Mirrors mac ids (c.receive mac ids).store (c.receive mac ids).mirror)
    (hne : versionsIn mac ids c.store ≠ []) :
    (c.receive mac ids).answer mac ids = .ok (.notModified (c.receive mac ids).rootVersion) := by
  have hsame := fun id => (same_after_receive mac mac ids id c).1
  have hversions : versionsIn mac ids (c.receive mac ids).store = versionsIn mac ids c.store :=
    versionsIn_congr fun id _ => (hsame id).symm
  have hroot : (c.receive mac ids).rootVersion = Version.root (versionsIn mac ids c.store) := by
    rcases h.receive_cases hids ha with ⟨⟨root, rfl⟩, heq⟩ | ⟨parts, -, heq⟩
    · have hroot := rootVersion_of_notModified ha
      rw [heq]
      exact hroot
    · rw [heq]
  have hreadable : ∀ id ∈ ids, ∃ found,
      (resolve mac id (c.receive mac ids).store).1 = .ok found := by
    intro id hid
    rw [← hsame id]
    exact readable_request (fetch_ok_cases ha).1 id hid
  have hsnapshot : Snapshot mac ids Set.univ (c.receive mac ids).store
      (c.receive mac ids).rootVersion (c.receive mac ids).mirror := by
    rw [← hversions] at hroot
    exact ⟨hreadable, fun _ _ _ _ => trivial, trivial, hroot, hmirrors⟩
  rw [← hversions] at hne
  exact answer_of_snapshot hsnapshot hne

/-- A run from an empty store is coherent before each of its events. What the event hashes is
hashed in the run, and the identifiers drawn so far are drawn in the run. -/
theorem coherent_before (mac : Mac) {s : State} (hempty : s.backend.entries = [])
    (hids : ∀ id ∈ ids, Text.Plain id) {events earlier later : List Event} {e : Event}
    (hsize : ∀ e ∈ events, e.Addressable) (hevents : events = earlier ++ e :: later) :
    let before := run mac ids { store := s } earlier
    (∃ issued, before.Coherent mac ids {b | b ∈ allTexts mac ids { store := s } events}
      s.uuids.next issued) ∧
    (∀ b ∈ before.texts mac ids e, b ∈ {b | b ∈ allTexts mac ids { store := s } events}) ∧
    before.store.uuids.next ≤ (run mac ids { store := s } events).store.uuids.next := by
  intro before
  have htexts : allTexts mac ids { store := s } events = allTexts mac ids { store := s } earlier ++
      (before.texts mac ids e ++ (before.step mac ids e).allTexts mac ids later) := by
    rw [hevents, allTexts_append]
    rfl
  refine ⟨?_, fun b hb => ?_, ?_⟩
  · refine (coherent_start mac ids _ hempty fun _ => .inline []).run hids ?_ ?_
    · intro e he
      refine hsize e ?_
      rw [hevents]
      exact List.mem_append_left _ he
    · intro b hb
      change b ∈ allTexts mac ids { store := s } events
      rw [htexts]
      exact List.mem_append_left _ hb
  · change b ∈ allTexts mac ids { store := s } events
    rw [htexts]
    exact List.mem_append_right _ (List.mem_append_left _ hb)
  · rw [hevents, run_append]
    exact next_le_run mac ids before (e :: later)

/-- The mirror is current after every fetch that succeeds, whatever happened before it: it is
exactly what the store holds for the group at that moment. When the client is told that nothing
changed, the group is what it was at the last answer with parts: no member has appeared, vanished
or got other content, and no present member was linked again. -/
theorem mirror_current {registry : Registry} (hregistry : registry.Reachable) (mac : Mac)
    {ids : List String}
    (hids : ∀ id ∈ ids, registry.contains id = true ∧ '\r' ∉ id.toList ∧ '\n' ∉ id.toList)
    {s : State} (hempty : s.backend.entries = []) {events earlier later : List Event}
    (hsize : ∀ e ∈ events, e.Addressable)
    (hdraws : Set.InjOn uuidAt (Set.Ico s.uuids.next
      (run mac ids { store := s } events).store.uuids.next))
    (hhash : Set.InjOn Version.hashed {b | b ∈ allTexts mac ids { store := s } events})
    (hevents : events = earlier ++ .fetch :: later) :
    let before := run mac ids { store := s } earlier
    let after := before.step mac ids .fetch
    (∀ a, before.answer mac ids = .ok a →
      (∀ id ∈ ids, ∃ found, (resolve mac id after.store).1 = .ok found) ∧
        Mirrors mac ids after.store after.mirror) ∧
    (∀ root, before.answer mac ids = .ok (.notModified root) →
      ∃ last, before.asOf = some last ∧ ∀ id ∈ ids,
        (resolve mac id last).1 = (resolve mac id after.store).1 ∧
        ∀ doc, (resolve mac id after.store).1 = .ok (some doc) →
          (record mac id last).1 = (record mac id after.store).1) := by
  intro before after
  have hplain : ∀ id ∈ ids, Text.Plain id ∧ '\n' ∉ id.toList := by
    intro id hid
    obtain ⟨hcontains, hreturn, hfeed⟩ := hids id hid
    have hline : Text.OneLine id := fun hi => hreturn (hi.subset List.mem_cons_self)
    exact ⟨⟨hregistry.trim_eq hcontains, hline⟩, hfeed⟩
  obtain ⟨⟨issued, hcoherent⟩, hmem, hnext⟩ := coherent_before mac hempty
    (fun id hid => (hplain id hid).1) hsize hevents
  have hbefore : Set.InjOn uuidAt (Set.Ico s.uuids.next before.store.uuids.next) := by
    refine hdraws.mono ?_
    intro n hn
    exact ⟨hn.1, hn.2.trans_le hnext⟩
  have hsame := fun id => same_after_receive mac mac ids id before
  constructor
  · intro a ha
    have hmirrors := hcoherent.mirrors hplain hbefore hhash hmem ha
    have hafter : Mirrors mac ids after.store after.mirror :=
      hmirrors.congr fun id _ => (hsame id).1
    refine ⟨fun id hid => ?_, hafter⟩
    obtain ⟨found, hfound⟩ := readable_request (fetch_ok_cases ha).1 id hid
    exact ⟨found, (hsame id).1.symm.trans hfound⟩
  · intro root ha
    obtain ⟨last, hlast, hunchanged⟩ := hcoherent.unchanged
      (fun id hid => (hplain id hid).2) hbefore hhash hmem ha
    refine ⟨last, hlast, fun id hid => ?_⟩
    obtain ⟨hresolve, hrecord⟩ := hunchanged id hid
    refine ⟨hresolve.trans (hsame id).1, fun doc hdoc => ?_⟩
    exact (hrecord doc ((hsame id).1.trans hdoc)).trans (hsame id).2

/-- A session in which a subdocument was linked. -/
def linked : Session :=
  step sampleMac ["lan"] { store := {} } (.change (.link sampleMac "lan" (.inline [1])))

/-- That session after a fetch. -/
def fetched : Session := linked.receive sampleMac ["lan"]

/-- A store with that link and no other document. -/
structure HoldsLan (s : State) : Prop where
  /-- The documents. -/
  entries : s.backend.entries = linked.store.backend.entries
  /-- The backend answers. -/
  answers : s.backend.failing = false

/-- The subdocument is registered, and its name has no line end. -/
theorem registered_lan : ∀ id ∈ ["lan"], Registry.builtin.contains id = true ∧
    '\r' ∉ id.toList ∧ '\n' ∉ id.toList :=
  List.forall_mem_singleton.2 ⟨by decide, by decide, by decide⟩

/-- The name can be sent in a header. -/
theorem plain_lan : ∀ id ∈ ["lan"], Text.Plain id :=
  List.forall_mem_singleton.2 (Text.plain_of_all (by decide))

/-- The session is coherent, as one that starts from an empty store and makes one link. -/
theorem coherent_linked : ∃ issued, linked.Coherent sampleMac ["lan"] Set.univ 0 issued := by
  have hbytes : Bytes.Addressable [1] := by decide
  have hempty : ({ store := {} } : Session).store.backend.entries = [] := rfl
  have hstart := coherent_start sampleMac ["lan"] Set.univ hempty fun _ => .inline []
  exact hstart.step plain_lan hbytes fun _ _ => trivial

/-- The link is all that the sample session starts with. -/
theorem holdsLan_linked : HoldsLan linked.store := ⟨rfl, rfl⟩

/-- A fetch adds no document to the sample store. -/
theorem HoldsLan.receive {c : Session} (h : HoldsLan c.store) :
    HoldsLan (c.receive sampleMac ["lan"]).store := by
  obtain ⟨hentries, hfailing, -⟩ := fetch_state sampleMac (c.request ["lan"]) c.store
  rw [store_receive]
  exact ⟨hentries.trans h.entries, hfailing.trans h.answers⟩

/-- The linked subdocument is found in every such store, at the version of the first draw. -/
theorem HoldsLan.resolve {s : State} (h : HoldsLan s) :
    (record sampleMac "lan" s).1 = .ok (some ⟨Version.ofBytes (uuidAt 0), .inline [1]⟩) ∧
      (Store.resolve sampleMac "lan" s).1 =
        .ok (some ⟨"lan", Version.ofBytes (uuidAt 0), [1]⟩) := by
  have hlength : (Bytes.ofText (Version.ofBytes (uuidAt 0)).token).length ≤ 255 := by
    rw [Version.ofBytes, Version.length_ofText_hashed]
    decide
  refine resolve_of_inline hlength h.answers ?_
  rw [h.entries]
  rfl

/-- It is the one member of the group. -/
theorem HoldsLan.versionsIn {s : State} (h : HoldsLan s) :
    versionsIn sampleMac ["lan"] s = [("lan", Version.ofBytes (uuidAt 0))] := by
  rw [Store.versionsIn, List.filterMap_cons, h.resolve.2]
  rfl

/-- A fetch hashes no text but that of its root. -/
theorem HoldsLan.texts {c : Session} (h : HoldsLan c.store) :
    ∀ b ∈ c.texts sampleMac ["lan"] .fetch,
      b = Version.rootText [("lan", Version.ofBytes (uuidAt 0))] := by
  intro b hb
  rw [Session.texts, h.versionsIn, List.flatMap_singleton, hashedFor, h.resolve.1] at hb
  cases ha : c.answer sampleMac ["lan"] with
  | error e => rw [ha] at hb; cases hb
  | ok a =>
    rw [ha] at hb
    exact List.mem_singleton.1 hb

/-- The run that goes on with two fetches. -/
def lanEvents : List Event :=
  [.change (.link sampleMac "lan" (.inline [1])), .fetch, .fetch]

/-- The bytes that are linked in the run are short enough. -/
theorem addressable_lanEvents : ∀ e ∈ lanEvents, e.Addressable := by
  have hbytes : Bytes.Addressable [1] := by decide
  rw [lanEvents, List.forall_mem_cons, List.forall_mem_cons, List.forall_mem_singleton]
  exact ⟨hbytes, trivial, trivial⟩

/-- The first event of the run makes the link. -/
theorem run_linked : run sampleMac ["lan"] { store := {} }
    [.change (.link sampleMac "lan" (.inline [1]))] = linked := by
  rw [run_cons, run_nil, linked]

/-- The second one fetches it. -/
theorem run_fetched : run sampleMac ["lan"] { store := {} }
    [.change (.link sampleMac "lan" (.inline [1])), .fetch] = fetched := by
  rw [run_cons, run_cons, run_nil, ← linked, step_fetch, fetched]

/-- The last one fetches it again. -/
theorem run_lanEvents : run sampleMac ["lan"] { store := {} } lanEvents =
    fetched.receive sampleMac ["lan"] := by
  rw [lanEvents, run_cons, run_cons, run_cons, run_nil, ← linked, step_fetch, step_fetch,
    ← fetched]

/-- One identifier is drawn for the link. -/
theorem next_linked : linked.store.uuids.next = 1 := by
  rw [linked, step, (Change.apply_spec _ _).2]
  rfl

/-- A fetch draws one identifier for each boundary that it tries, so the run draws a few at most. -/
theorem next_lanEvents_le :
    (run sampleMac ["lan"] { store := {} } lanEvents).store.uuids.next ≤ 17 := by
  have hstart := next_linked
  have hfirst := (fetch_state sampleMac (linked.request ["lan"]) linked.store).2.2.2
  have hsecond := (fetch_state sampleMac (fetched.request ["lan"]) fetched.store).2.2.2
  have hattempts : Multipart.boundaryAttempts = 8 := rfl
  rw [run_lanEvents, store_receive]
  rw [← store_receive sampleMac ["lan"] linked, ← fetched] at hfirst
  omega

/-- The identifiers that the run draws are distinct. -/
theorem injOn_uuidAt_lanEvents : Set.InjOn uuidAt (Set.Ico 0
    (run sampleMac ["lan"] { store := {} } lanEvents).store.uuids.next) := by
  refine injOn_uuidAt.mono fun n hn => ?_
  exact (hn.2.trans_le next_lanEvents_le).trans (by decide)

/-- The run hashes the identifier of the link and the list of the group, and nothing else. -/
theorem allTexts_lanEvents : ∀ b ∈ allTexts sampleMac ["lan"] { store := {} } lanEvents,
    b = uuidAt 0 ∨ b = Version.rootText [("lan", Version.ofBytes (uuidAt 0))] := by
  intro b hb
  change b ∈ [uuidAt 0] ++ (linked.texts sampleMac ["lan"] .fetch ++
    (fetched.texts sampleMac ["lan"] .fetch ++ [])) at hb
  rw [List.mem_append, List.mem_append, List.append_nil, List.mem_singleton] at hb
  rcases hb with hb | hb | hb
  · exact .inl hb
  · exact .inr (holdsLan_linked.texts b hb)
  · exact .inr (holdsLan_linked.receive.texts b hb)

/-- The hashes of the run do not collide. -/
theorem injOn_hashed_lanEvents : Set.InjOn Version.hashed
    {b | b ∈ allTexts sampleMac ["lan"] { store := {} } lanEvents} := by
  have hdistinct : Version.hashed (uuidAt 0) ≠
      Version.hashed (Version.rootText [("lan", Version.ofBytes (uuidAt 0))]) := by
    decide +kernel
  intro b hb b' hb' h
  rcases allTexts_lanEvents b hb with rfl | rfl
  · rcases allTexts_lanEvents b' hb' with rfl | rfl
    · rfl
    · exact absurd h hdistinct
  · rcases allTexts_lanEvents b' hb' with rfl | rfl
    · exact absurd h.symm hdistinct
    · rfl

/-- The first fetch succeeds: the member is readable, and its byte does not have the boundary. -/
theorem exists_answer_linked : ∃ a, linked.answer sampleMac ["lan"] = .ok a := by
  have hpresent : presentIn sampleMac (linked.request ["lan"]).members linked.store =
      [(⟨"lan", Version.ofBytes (uuidAt 0), [1]⟩, ⟨"0"⟩)] := by
    rw [presentIn, Session.request, List.map_singleton, List.filterMap_cons,
      holdsLan_linked.resolve.2]
    rfl
  refine exists_answer (i := 0) ?_ (by decide) ?_
  · exact List.forall_mem_singleton.2 ⟨_, holdsLan_linked.resolve.2⟩
  · rw [hpresent, next_linked]
    decide

/-- A client that fetches a linked subdocument gets it, and is told the next time that it is
current. -/
theorem mirror_current_lan :
    (∃ a, linked.answer sampleMac ["lan"] = .ok a) ∧
      Mirrors sampleMac ["lan"] fetched.store fetched.mirror ∧
      ∃ root last, fetched.answer sampleMac ["lan"] = .ok (.notModified root) ∧
        fetched.asOf = some last ∧
        (Store.resolve sampleMac "lan" last).1 =
          (Store.resolve sampleMac "lan" fetched.store).1 := by
  have hfirst := @mirror_current _ .builtin sampleMac _ registered_lan _ rfl lanEvents
    [.change (.link sampleMac "lan" (.inline [1]))] [.fetch] addressable_lanEvents
    injOn_uuidAt_lanEvents injOn_hashed_lanEvents rfl
  have hsecond := @mirror_current _ .builtin sampleMac _ registered_lan _ rfl lanEvents
    [.change (.link sampleMac "lan" (.inline [1])), .fetch] [] addressable_lanEvents
    injOn_uuidAt_lanEvents injOn_hashed_lanEvents rfl
  dsimp only at hfirst hsecond
  rw [run_linked, step_fetch, ← fetched] at hfirst
  rw [run_fetched, step_fetch] at hsecond
  obtain ⟨a, ha⟩ := exists_answer_linked
  obtain ⟨hreadable, hmirrors⟩ := hfirst.1 a ha
  have hne : Store.versionsIn sampleMac ["lan"] linked.store ≠ [] := by
    rw [holdsLan_linked.versionsIn]
    exact List.cons_ne_nil _ _
  obtain ⟨issued, hcoherent⟩ := coherent_linked
  have hanswer := hcoherent.answer_again plain_lan ha hmirrors hne
  obtain ⟨last, hlast, hsame⟩ := hsecond.2 _ hanswer
  have hlater := same_after_receive sampleMac sampleMac ["lan"] "lan" fetched
  exact ⟨⟨a, ha⟩, hmirrors, _, last, hanswer, hlast,
    (hsame "lan" List.mem_cons_self).1.trans hlater.1.symm⟩

end Session

end GatewayConfig.Store
