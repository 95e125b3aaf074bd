import GatewayConfig.Proofs.Group
import GatewayConfig.Proofs.Multipart.RoundTrip
import GatewayConfig.Proofs.Registry
import GatewayConfig.Proofs.Store.Reading
import GatewayConfig.Store.Fetch

/-!
# What a fetch answers

The members of a group are read one after the other, so the answer is decided by what each of
them yields on the state of the request. `presentIn` collects the members that are there, and
`fetch_outcome` states the answer in terms of it.
-/

namespace GatewayConfig.Store

variable {mac : Mac} {request : GroupRequest} {s : State}

/-- The members that are present in a state, in request order and with repetitions, each with the
client's token for it. -/
def presentIn (mac : Mac) (members : List (String × Version)) (s : State) :
    List (Resolved × Version) :=
  members.filterMap fun m => match (resolve mac m.1 s).1 with
    | .ok (some doc) => some (doc, m.2)
    | _ => none

/-- The root version of what is present. -/
def rootOf (present : List (Resolved × Version)) : Version :=
  Version.root (present.map fun (doc, _) => (doc.id, doc.version))

/-- A subdocument as a part of an answer. -/
def Resolved.toPart (doc : Resolved) : Multipart.Part :=
  { name := doc.id, version := doc.version, bytes := doc.bytes }

/-- The parts of an answer. -/
def partsOf (present : List (Resolved × Version)) : List Multipart.Part :=
  present.map fun (doc, _) => doc.toPart

/-- Every member can be read, whether or not it is there. -/
def Readable (mac : Mac) (members : List (String × Version)) (s : State) : Prop :=
  ∀ m ∈ members, ∃ found, (resolve mac m.1 s).1 = .ok found

/-- The tokens do not matter to that. -/
theorem readable_iff {members : List (String × Version)} :
    Readable mac members s ↔
      ∀ id ∈ members.map Prod.fst, ∃ found, (resolve mac id s).1 = .ok found := by
  rw [List.forall_mem_map]
  rfl

/-- The first member that cannot be read fails with the error. -/
def FirstError (mac : Mac) (members : List (String × Version)) (s : State) (e : Error) : Prop :=
  ∃ before id held after, members = before ++ (id, held) :: after ∧ Readable mac before s ∧
    (resolve mac id s).1 = .error e

/-- The members can all be read, or one of them is the first that cannot. -/
theorem readable_or_firstError (mac : Mac) (members : List (String × Version)) (s : State) :
    Readable mac members s ∨ ∃ e, FirstError mac members s e := by
  induction members with
  | nil => exact .inl (List.forall_mem_nil _)
  | cons m rest ih =>
    cases hm : (resolve mac m.1 s).1 with
    | error e => exact .inr ⟨e, [], m.1, m.2, rest, rfl, List.forall_mem_nil _, hm⟩
    | ok found =>
      rcases ih with hrest | ⟨e, before, id, held, after, rfl, hb, he⟩
      · exact .inl (List.forall_mem_cons.2 ⟨⟨found, hm⟩, hrest⟩)
      · exact .inr ⟨e, m :: before, id, held, after, rfl,
          List.forall_mem_cons.2 ⟨⟨found, hm⟩, hb⟩, he⟩

/-- Looking for the present members reads, and writes nothing. -/
theorem reads_presentMembers (mac : Mac) (members : List (String × Version)) :
    Reads (presentMembers mac members) := by
  induction members with
  | nil => exact reads_pure []
  | cons m rest ih =>
    refine (reads_resolve mac m.1).bind fun found => ?_
    cases found with
    | none => exact ih
    | some doc => exact ih.bind fun _ => reads_pure _

/-- A member that can be read comes before the others when it is there. -/
theorem presentMembers_cons_of_ok {id : String} {held : Version} {found : Option Resolved}
    (h : (resolve mac id s).1 = .ok found) (rest : List (String × Version)) :
    (presentMembers mac ((id, held) :: rest) s).1 = (presentMembers mac rest s).1.map
      fun tail => (found.map fun doc => (doc, held)).toList ++ tail := by
  obtain ⟨t, hrun, ht⟩ := (reads_resolve mac id).run_eq s
  have htail := (reads_presentMembers mac rest).blind ht
  obtain ⟨u, hrest, -⟩ := (reads_presentMembers mac rest).run_eq t
  rw [h] at hrun
  rw [htail] at hrest
  rw [presentMembers, run_bind_of_ok hrun]
  cases found with
  | none =>
    dsimp only
    rw [htail]
    cases (presentMembers mac rest s).1 <;> rfl
  | some doc =>
    dsimp only
    cases hp : (presentMembers mac rest s).1 with
    | error e => rw [run_bind_of_error (hrest.trans (by rw [hp]))]; rfl
    | ok tail => rw [run_bind_of_ok (hrest.trans (by rw [hp]))]; rfl

/-- A first member that cannot be read decides the result. The others are not looked at. -/
theorem presentMembers_cons_of_error {id : String} {held : Version} {e : Error}
    (h : (resolve mac id s).1 = .error e) (rest : List (String × Version)) :
    (presentMembers mac ((id, held) :: rest) s).1 = .error e := by
  obtain ⟨t, hrun, -⟩ := (reads_resolve mac id).run_eq s
  rw [h] at hrun
  rw [presentMembers, run_bind_of_error hrun]

/-- A first member that can be read is in front if it is there, and passed over if it is not. -/
theorem presentIn_cons {id : String} {held : Version} {found : Option Resolved}
    (h : (resolve mac id s).1 = .ok found) (rest : List (String × Version)) :
    presentIn mac ((id, held) :: rest) s =
      (found.map fun doc => (doc, held)).toList ++ presentIn mac rest s := by
  rw [presentIn, List.filterMap_cons, h]
  cases found <;> rfl

/-- When every member can be read, those that are present are collected. -/
theorem presentMembers_of_readable {members : List (String × Version)}
    (h : Readable mac members s) :
    (presentMembers mac members s).1 = .ok (presentIn mac members s) := by
  induction members with
  | nil => rfl
  | cons m rest ih =>
    obtain ⟨⟨found, hfound⟩, hrest⟩ := List.forall_mem_cons.1 h
    rw [presentMembers_cons_of_ok hfound, ih hrest, presentIn_cons hfound]
    rfl

/-- The first member that cannot be read decides. -/
theorem presentMembers_of_firstError {members : List (String × Version)} {e : Error}
    (h : FirstError mac members s e) : (presentMembers mac members s).1 = .error e := by
  obtain ⟨before, id, held, after, rfl, hb, he⟩ := h
  induction before with
  | nil => exact presentMembers_cons_of_error he after
  | cons m before ih =>
    obtain ⟨⟨found, hfound⟩, hrest⟩ := List.forall_mem_cons.1 hb
    rw [List.cons_append, presentMembers_cons_of_ok hfound, ih hrest]
    rfl

/-- The answer to a client about what is present. -/
def answer (request : GroupRequest) (present : List (Resolved × Version)) :
    Action FetchError Fetched :=
  if isCurrent request.rootVersion (rootOf present) present then
    return .notModified (rootOf present)
  else do
    let message ← (encodeParts (partsOf present)).adapt .codec
    return .modified (rootOf present) message (partsOf present).length

/-- A fetch looks for the present members and answers about them. -/
theorem fetch_eq_bind (mac : Mac) (request : GroupRequest) :
    fetch mac request =
      (presentMembers mac request.members).adapt .store >>= answer request := rfl

/-- A fetch that cannot read a member fails with the error of that member and draws nothing. -/
theorem fetch_of_error {e : Error} (h : (presentMembers mac request.members s).1 = .error e) :
    (fetch mac request s).1 = .error (.store e) ∧ (fetch mac request s).2.Alike s := by
  obtain ⟨t, hrun, ht⟩ := (reads_presentMembers mac request.members).run_eq s
  have hadapt : (presentMembers mac request.members).adapt FetchError.store s =
      (.error (.store e), t) := by
    rw [run_adapt, hrun, h]
    rfl
  rw [fetch_eq_bind, run_bind_of_error hadapt]
  exact ⟨rfl, ht⟩

/-- A fetch that can read every member answers about those that are present. -/
theorem fetch_of_ok {present : List (Resolved × Version)}
    (h : (presentMembers mac request.members s).1 = .ok present) :
    ∃ t, t.Alike s ∧ fetch mac request s = answer request present t := by
  obtain ⟨t, hrun, ht⟩ := (reads_presentMembers mac request.members).run_eq s
  have hadapt : (presentMembers mac request.members).adapt FetchError.store s =
      (.ok present, t) := by
    rw [run_adapt, hrun, h]
    rfl
  refine ⟨t, ht, ?_⟩
  rw [fetch_eq_bind, run_bind_of_ok hadapt]

/-- A client that holds what is present is told so, without a draw. -/
theorem answer_of_current {present : List (Resolved × Version)}
    (h : isCurrent request.rootVersion (rootOf present) present = true) (s : State) :
    answer request present s = (.ok (.notModified (rootOf present)), s) := by
  rw [answer, if_pos h, run_pure]

/-- An answer with parts draws a boundary, or finds none that is free. -/
theorem answer_of_stale {present : List (Resolved × Version)}
    (h : isCurrent request.rootVersion (rootOf present) present = false) (s : State) :
    answer request present s =
      (((Multipart.encode (partsOf present) s.uuids).1.mapError FetchError.codec).map
        fun message => .modified (rootOf present) message present.length,
        { s with uuids := (Multipart.encode (partsOf present) s.uuids).2 }) := by
  have hlength : (partsOf present).length = present.length := List.length_map _
  have hrun := run_adapt FetchError.codec (encodeParts (partsOf present)) s
  rw [answer, h, if_neg Bool.false_ne_true]
  cases he : (Multipart.encode (partsOf present) s.uuids).1 with
  | error e =>
    have herror : (encodeParts (partsOf present) s).1 = .error e := he
    rw [herror] at hrun
    rw [run_bind_of_error hrun]
    rfl
  | ok message =>
    have hok : (encodeParts (partsOf present) s).1 = .ok message := he
    rw [hok] at hrun
    rw [run_bind_of_ok hrun, run_pure, hlength]
    rfl

/-- A client holds what is present when something is present, its root token is the root version
of that, and each of its tokens for a present member is the version of that member. -/
def Holds (held : Version) (present : List (Resolved × Version)) : Prop :=
  present ≠ [] ∧ held = rootOf present ∧ ∀ p ∈ present, p.2 = p.1.version

/-- The check of a client's versions decides whether it holds what is present. -/
theorem isCurrent_eq_true_iff {held : Version} {present : List (Resolved × Version)} :
    isCurrent held (rootOf present) present = true ↔ Holds held present := by
  simp only [isCurrent, Holds, Bool.and_eq_true, Bool.not_eq_true', List.isEmpty_eq_false_iff,
    beq_iff_eq, List.all_eq_true, and_assoc, eq_comm (a := Prod.snd _)]

/-- A fetch that can read every member tells a client which holds what is present so. -/
theorem fetch_of_holds (h : Readable mac request.members s)
    (hholds : Holds request.rootVersion (presentIn mac request.members s)) :
    (fetch mac request s).1 = .ok (.notModified request.rootVersion) := by
  obtain ⟨t, -, hfetch⟩ := fetch_of_ok (presentMembers_of_readable h)
  rw [hfetch, answer_of_current (isCurrent_eq_true_iff.2 hholds), ← hholds.2.1]

/-- It sends any other client what is present, if that can be encoded. -/
theorem fetch_of_stale (h : Readable mac request.members s)
    (hstale : ¬ Holds request.rootVersion (presentIn mac request.members s)) :
    (fetch mac request s).1 =
      ((Multipart.encode (partsOf (presentIn mac request.members s)) s.uuids).1.mapError
        FetchError.codec).map fun message =>
          .modified (rootOf (presentIn mac request.members s)) message
            (presentIn mac request.members s).length := by
  obtain ⟨t, ht, hfetch⟩ := fetch_of_ok (presentMembers_of_readable h)
  have hc := Bool.eq_false_iff.2 fun hc => hstale (isCurrent_eq_true_iff.1 hc)
  rw [hfetch, answer_of_stale hc, ht.uuids]

/-- A fetch that succeeds has read every member. It answers that the client holds what is present,
or with what is present. -/
theorem fetch_ok_cases {a : Fetched} (h : (fetch mac request s).1 = .ok a) :
    Readable mac request.members s ∧
      ((a = .notModified (rootOf (presentIn mac request.members s)) ∧
          Holds request.rootVersion (presentIn mac request.members s)) ∨
        ∃ message, a = .modified (rootOf (presentIn mac request.members s)) message
            (presentIn mac request.members s).length ∧
          (Multipart.encode (partsOf (presentIn mac request.members s)) s.uuids).1 =
            .ok message) := by
  rcases readable_or_firstError mac request.members s with hreadable | ⟨e, he⟩
  · refine ⟨hreadable, ?_⟩
    by_cases hholds : Holds request.rootVersion (presentIn mac request.members s)
    · rw [fetch_of_holds hreadable hholds] at h
      exact .inl ⟨hholds.2.1 ▸ (Except.ok.inj h).symm, hholds⟩
    · rw [fetch_of_stale hreadable hholds] at h
      cases he : (Multipart.encode (partsOf (presentIn mac request.members s)) s.uuids).1 with
      | error e => rw [he] at h; cases h
      | ok message =>
        rw [he] at h
        exact .inr ⟨message, (Except.ok.inj h).symm, rfl⟩
  · rw [(fetch_of_error (presentMembers_of_firstError he)).1] at h
    cases h

/-- A fetch that can read every member succeeds when a boundary is free. -/
theorem exists_answer {i : Nat} (h : Readable mac request.members s)
    (hi : i < Multipart.boundaryAttempts)
    (hfree : Multipart.isFree (partsOf (presentIn mac request.members s))
      (Multipart.boundaryAt (s.uuids.next + i)) = true) :
    ∃ a, (fetch mac request s).1 = .ok a := by
  by_cases hholds : Holds request.rootVersion (presentIn mac request.members s)
  · exact ⟨_, fetch_of_holds h hholds⟩
  · obtain ⟨message, hmessage⟩ := Multipart.exists_encode_of_free hi hfree
    rw [fetch_of_stale h hholds, hmessage]
    exact ⟨_, rfl⟩

/-- Without a free boundary it has no answer for a client that does not hold what is present. -/
theorem fetch_of_taken (h : Readable mac request.members s)
    (hstale : ¬ Holds request.rootVersion (presentIn mac request.members s))
    (htaken : ∀ i < Multipart.boundaryAttempts,
      Multipart.isFree (partsOf (presentIn mac request.members s))
        (Multipart.boundaryAt (s.uuids.next + i)) = false) :
    (fetch mac request s).1 = .error (.codec .boundaryExhausted) := by
  rw [fetch_of_stale h hstale, Multipart.encode_of_taken htaken]
  rfl

/-- Encoding draws at most as many identifiers as boundaries may be tried. -/
theorem encode_next (parts : List Multipart.Part) (supply : UuidSupply) :
    supply.next ≤ (Multipart.encode parts supply).2.next ∧
      (Multipart.encode parts supply).2.next ≤ supply.next + Multipart.boundaryAttempts := by
  rcases Multipart.encode_cases parts supply with ⟨i, hi, -, -, heq⟩ | ⟨-, heq⟩
  · rw [heq]
    dsimp only
    omega
  · rw [heq]
    dsimp only
    omega

/-- A fetch changes no document, and it draws no more identifiers than boundaries may be tried. -/
theorem fetch_state (mac : Mac) (request : GroupRequest) (s : State) :
    (fetch mac request s).2.backend.entries = s.backend.entries ∧
      (fetch mac request s).2.backend.failing = s.backend.failing ∧
      s.uuids.next ≤ (fetch mac request s).2.uuids.next ∧
      (fetch mac request s).2.uuids.next ≤ s.uuids.next + Multipart.boundaryAttempts := by
  cases hm : (presentMembers mac request.members s).1 with
  | error e =>
    obtain ⟨-, halike⟩ := fetch_of_error hm
    have hnext := congrArg UuidSupply.next halike.uuids
    refine ⟨halike.entries, halike.failing, ?_⟩
    omega
  | ok present =>
    obtain ⟨t, ht, hfetch⟩ := fetch_of_ok hm
    have hnext : t.uuids.next = s.uuids.next := congrArg UuidSupply.next ht.uuids
    rw [hfetch]
    cases hc : isCurrent request.rootVersion (rootOf present) present with
    | true =>
      rw [answer_of_current hc]
      refine ⟨ht.entries, ht.failing, ?_⟩
      dsimp only
      omega
    | false =>
      rw [answer_of_stale hc]
      have hencode := encode_next (partsOf present) t.uuids
      refine ⟨ht.entries, ht.failing, ?_⟩
      dsimp only
      omega

/-- An answer is made without the backend. -/
theorem backend_answer (request : GroupRequest) (present : List (Resolved × Version)) (s : State) :
    (answer request present s).2.backend = s.backend := by
  cases hc : isCurrent request.rootVersion (rootOf present) present with
  | true => rw [answer_of_current hc]
  | false => rw [answer_of_stale hc]

/-- A fetch makes no access but to read. -/
theorem fetch_notes (mac : Mac) (request : GroupRequest) (s : State) :
    ∃ keys : List String,
      (fetch mac request s).2.backend.journal = keys.map .read ++ s.backend.journal := by
  obtain ⟨keys, hkeys⟩ := (reads_presentMembers mac request.members).notes s
  refine ⟨keys, ?_⟩
  rw [← hkeys, fetch_eq_bind, run_bind, run_adapt]
  cases presentMembers mac request.members s with
  | mk result t =>
    cases result with
    | error e => rfl
    | ok present => exact congrArg Backend.journal (backend_answer request present t)

/-- A resolved document has the identifier that was asked for. -/
theorem id_eq_of_resolve {id : String} {doc : Resolved}
    (h : (resolve mac id s).1 = .ok (some doc)) : doc.id = id := by
  rcases resolve_cases h with ⟨version, bytes, -, rfl⟩ | ⟨version, target, bytes, -, -, rfl⟩
  · rfl
  · rfl

/-- Present with a token is each member that is asked for with that token and found. -/
theorem mem_presentIn_iff {members : List (String × Version)} {p : Resolved × Version} :
    p ∈ presentIn mac members s ↔
      ∃ m ∈ members, (resolve mac m.1 s).1 = .ok (some p.1) ∧ m.2 = p.2 := by
  rw [presentIn, List.mem_filterMap]
  refine exists_congr fun m => and_congr_right fun _ => ?_
  match h : (resolve mac m.1 s).1 with
  | .error e => simp
  | .ok none => simp
  | .ok (some doc) => simp [Prod.ext_iff, eq_comm]

/-- The parts are exactly those members of a group that are present in a state, each once and as
it is there. -/
structure Mirrors (mac : Mac) (ids : List String) (s : State) (parts : List Multipart.Part) :
    Prop where
  /-- Names are keys. -/
  distinct : (parts.map Multipart.Part.name).Nodup
  /-- A part stands for a member that is present. -/
  mem_iff : ∀ p, p ∈ parts ↔
    ∃ id ∈ ids, ∃ doc, (resolve mac id s).1 = .ok (some doc) ∧ p = doc.toPart

/-- The part with the name of a present member is that member. -/
theorem Mirrors.eq_toPart {ids : List String} {parts : List Multipart.Part}
    (h : Mirrors mac ids s parts) {p : Multipart.Part} (hp : p ∈ parts) {doc : Resolved}
    (hdoc : (resolve mac p.name s).1 = .ok (some doc)) : p = doc.toPart := by
  obtain ⟨id, -, doc', hdoc', rfl⟩ := (h.mem_iff p).1 hp
  have hname : doc'.toPart.name = id := id_eq_of_resolve hdoc'
  rw [hname, hdoc'] at hdoc
  rw [Option.some.inj (Except.ok.inj hdoc)]

/-- A mirror of one state is a mirror of any state in which the group is the same. -/
theorem Mirrors.congr {ids : List String} {t : State} {parts : List Multipart.Part}
    (h : Mirrors mac ids s parts)
    (hst : ∀ id ∈ ids, (resolve mac id s).1 = (resolve mac id t).1) : Mirrors mac ids t parts := by
  refine ⟨h.distinct, fun p => ?_⟩
  rw [h.mem_iff]
  refine exists_congr fun id => and_congr_right fun hid => ?_
  rw [hst id hid]

/-- The parts of an answer are those of the members that are found. The tokens of the client have no
part in them. -/
theorem mem_partsOf_iff {members : List (String × Version)} {p : Multipart.Part} :
    p ∈ partsOf (presentIn mac members s) ↔
      ∃ id ∈ members.map Prod.fst, ∃ doc, (resolve mac id s).1 = .ok (some doc) ∧
        p = doc.toPart := by
  rw [partsOf, List.mem_map]
  constructor
  · rintro ⟨⟨doc, held⟩, hm, rfl⟩
    obtain ⟨m, hm, hdoc, -⟩ := mem_presentIn_iff.1 hm
    exact ⟨m.1, List.mem_map_of_mem hm, doc, hdoc, rfl⟩
  · rintro ⟨id, hid, doc, hdoc, rfl⟩
    obtain ⟨m, hm, rfl⟩ := List.mem_map.1 hid
    exact ⟨(doc, m.2), mem_presentIn_iff.2 ⟨m, hm, hdoc, rfl⟩, rfl⟩

/-- A member that is asked for twice yields the same part twice, so it does not matter which of
them is kept. -/
theorem mirrors_of_keepsLast {members : List (String × Version)} {found : List Multipart.Part}
    (h : Multipart.KeepsLast (partsOf (presentIn mac members s)) found) :
    Mirrors mac (members.map Prod.fst) s found := by
  refine ⟨h.distinct, fun p => ?_⟩
  rw [← mem_partsOf_iff, h.mem_iff]
  constructor
  · rintro ⟨earlier, later, he, -⟩
    rw [he]
    exact List.mem_append_right earlier List.mem_cons_self
  · intro hp
    obtain ⟨earlier, q, later, he, hname, hlast⟩ := Multipart.exists_last_named hp
    have hq : q ∈ partsOf (presentIn mac members s) := by
      rw [he]
      exact List.mem_append_right earlier List.mem_cons_self
    obtain ⟨id, -, doc, hdoc, rfl⟩ := mem_partsOf_iff.1 hp
    obtain ⟨id', -, doc', hdoc', rfl⟩ := mem_partsOf_iff.1 hq
    have hid : id' = id := by
      rw [← id_eq_of_resolve hdoc, ← id_eq_of_resolve hdoc']
      exact hname
    rw [hid, hdoc] at hdoc'
    obtain rfl := Option.some.inj (Except.ok.inj hdoc')
    exact ⟨earlier, later, he, hlast⟩

/-- The parts of an answer to a valid request are portable. -/
theorem portable_of_mem_partsOf {members : List (String × Version)} {p : Multipart.Part}
    (hid : ∀ m ∈ members, Text.Plain m.1)
    (hv : ∀ q ∈ presentIn mac members s, Text.Plain q.1.version.token)
    (hb : ∀ q ∈ presentIn mac members s, q.1.bytes.Addressable)
    (hp : p ∈ partsOf (presentIn mac members s)) : p.Portable := by
  obtain ⟨q, hq, rfl⟩ := List.mem_map.1 hp
  obtain ⟨m, hm, hdoc, -⟩ := mem_presentIn_iff.1 hq
  have hname : Text.Plain q.1.id := by
    rw [id_eq_of_resolve hdoc]
    exact hid m hm
  have hdefault : Text.Plain "application/msgpack" := Text.plain_of_all (by decide)
  exact ⟨hname, hdefault, hv q hq, hb q hq⟩

/-- What the encoder writes for the members that are present is read back as those members. -/
theorem exists_mirrors_of_encode {members : List (String × Version)} {supply : UuidSupply}
    {message : Multipart.Message} (hid : ∀ m ∈ members, Text.Plain m.1)
    (hv : ∀ q ∈ presentIn mac members s, Text.Plain q.1.version.token)
    (hb : ∀ q ∈ presentIn mac members s, q.1.bytes.Addressable)
    (he : (Multipart.encode (partsOf (presentIn mac members s)) supply).1 = .ok message) :
    ∃ found, Multipart.decode message.contentType message.body = .ok found ∧
      Mirrors mac (members.map Prod.fst) s found := by
  have hportable : ∀ p ∈ partsOf (presentIn mac members s), p.Portable :=
    fun p hp => portable_of_mem_partsOf hid hv hb hp
  exact ⟨_, Multipart.decode_of_encode hportable he,
    mirrors_of_keepsLast (Multipart.keepsLast_foldl_place _)⟩

/-- The answer to a valid request in any state. The first member that cannot be read makes the
fetch fail, and then no boundary is drawn. If all can be read, a client that holds what is present
is told so, and any other client gets what is present under the first free boundary. Without a
free boundary there is no answer. -/
theorem fetch_outcome {registry : Registry} {group header : Option String}
    (hr : registry.Reachable) (hp : GroupRequest.parse group header registry = .ok request)
    (hline : ∀ m ∈ request.members, Text.OneLine m.1) (mac : Mac) (s : State) :
    (Readable mac request.members s ∨ ∃ e, FirstError mac request.members s e) ∧
    (∀ e, FirstError mac request.members s e →
      (fetch mac request s).1 = .error (.store e) ∧ (fetch mac request s).2.uuids = s.uuids) ∧
    (Readable mac request.members s →
      let present := presentIn mac request.members s
      (∀ root, (fetch mac request s).1 = .ok (.notModified root) ↔
        root = rootOf present ∧ Holds request.rootVersion present) ∧
      (¬ Holds request.rootVersion present →
        ((∃ i < Multipart.boundaryAttempts,
            Multipart.isFree (partsOf present) (Multipart.boundaryAt (s.uuids.next + i)) = true) →
          ∃ message,
            (fetch mac request s).1 = .ok (.modified (rootOf present) message present.length) ∧
            ((∀ p ∈ present, Text.Plain p.1.version.token ∧ p.1.bytes.Addressable) →
              ∃ found, Multipart.decode message.contentType message.body = .ok found ∧
                Mirrors mac (request.members.map Prod.fst) s found)) ∧
        ((∀ i < Multipart.boundaryAttempts,
            Multipart.isFree (partsOf present) (Multipart.boundaryAt (s.uuids.next + i)) = false) →
          (fetch mac request s).1 = .error (.codec .boundaryExhausted)))) := by
  have hplain : ∀ m ∈ request.members, Text.Plain m.1 := fun m hm =>
    ⟨hr.trim_eq (GroupRequest.contains_of_parse hp m hm), hline m hm⟩
  refine ⟨readable_or_firstError mac request.members s, fun e he => ?_, ?_⟩
  · obtain ⟨hresult, halike⟩ := fetch_of_error (presentMembers_of_firstError he)
    exact ⟨hresult, halike.uuids⟩
  intro hreadable present
  refine ⟨fun root => ⟨fun h => ?_, ?_⟩, fun hstale => ⟨?_, fetch_of_taken hreadable hstale⟩⟩
  · rcases (fetch_ok_cases h).2 with ⟨heq, hholds⟩ | ⟨message, heq, -⟩
    · exact ⟨Fetched.notModified.inj heq, hholds⟩
    · cases heq
  · rintro ⟨rfl, hholds⟩
    rw [fetch_of_holds hreadable hholds, hholds.2.1]
  · rintro ⟨i, hi, hfree⟩
    obtain ⟨a, ha⟩ := exists_answer hreadable hi hfree
    rcases (fetch_ok_cases ha).2 with ⟨-, hholds⟩ | ⟨message, rfl, hencode⟩
    · exact absurd hholds hstale
    · refine ⟨message, ha, fun hpresent => ?_⟩
      exact exists_mirrors_of_encode hplain (fun p hp => (hpresent p hp).1)
        (fun p hp => (hpresent p hp).2) hencode

/-- A device. -/
def sampleMac : Mac := ⟨"0123456789AB", by decide⟩

/-- A store with one link of that device and the given value under the key of another. -/
def sampleState (wan : Bytes) : State :=
  { backend := { entries :=
      [(linkKey sampleMac "lan", [73, 1, 118, 1, 2]), (linkKey sampleMac "wan", wan)] } }

/-- With a damaged second member the fetch fails. With a dangling one it answers with the first,
for which the client has a wrong token. -/
theorem fetch_outcome_sample :
    ∃ request, GroupRequest.parse (some "root,lan,wan") (some "0,0,0") .builtin = .ok request ∧
      (fetch sampleMac request (sampleState [])).1 =
        .error (.store (.corrupt (linkKey sampleMac "wan") .emptyRecord)) ∧
      ∃ root message found,
        (fetch sampleMac request (sampleState [82, 1, 118, 97])).1 =
          .ok (.modified root message 1) ∧
        Multipart.decode message.contentType message.body = .ok found ∧
        Mirrors sampleMac ["lan", "wan"] (sampleState [82, 1, 118, 97]) found := by
  have hparse : GroupRequest.parse (some "root,lan,wan") (some "0,0,0") .builtin =
      .ok ⟨⟨"0"⟩, [("lan", ⟨"0"⟩), ("wan", ⟨"0"⟩)]⟩ := by decide
  have hline : ∀ m ∈ [("lan", (⟨"0"⟩ : Version)), ("wan", ⟨"0"⟩)], Text.OneLine m.1 := by decide
  have hlan : (resolve sampleMac "lan" (sampleState [])).1 =
      .ok (some ⟨"lan", ⟨"v"⟩, [1, 2]⟩) := by decide
  have hdamaged : (resolve sampleMac "wan" (sampleState [])).1 =
      .error (.corrupt (linkKey sampleMac "wan") .emptyRecord) := by decide
  have hlan' : (resolve sampleMac "lan" (sampleState [82, 1, 118, 97])).1 =
      .ok (some ⟨"lan", ⟨"v"⟩, [1, 2]⟩) := by decide
  have hdangling : (resolve sampleMac "wan" (sampleState [82, 1, 118, 97])).1 = .ok none := by
    decide
  have hpresent : presentIn sampleMac [("lan", ⟨"0"⟩), ("wan", ⟨"0"⟩)]
      (sampleState [82, 1, 118, 97]) = [(⟨"lan", ⟨"v"⟩, [1, 2]⟩, ⟨"0"⟩)] := by decide
  have hreadable : Readable sampleMac [("lan", ⟨"0"⟩), ("wan", ⟨"0"⟩)]
      (sampleState [82, 1, 118, 97]) :=
    List.forall_mem_cons.2 ⟨⟨_, hlan'⟩, List.forall_mem_singleton.2 ⟨_, hdangling⟩⟩
  have hfirst : FirstError sampleMac [("lan", ⟨"0"⟩), ("wan", ⟨"0"⟩)] (sampleState [])
      (.corrupt (linkKey sampleMac "wan") .emptyRecord) :=
    ⟨[("lan", ⟨"0"⟩)], "wan", ⟨"0"⟩, [], rfl, List.forall_mem_singleton.2 ⟨_, hlan⟩, hdamaged⟩
  have hfails := (fetch_outcome .builtin hparse hline sampleMac (sampleState [])).2.1 _ hfirst
  have hanswers := (fetch_outcome .builtin hparse hline sampleMac
    (sampleState [82, 1, 118, 97])).2.2 hreadable
  dsimp only at hanswers
  rw [hpresent] at hanswers
  have hstale : ¬ Holds ⟨"0"⟩ [(⟨"lan", ⟨"v"⟩, [1, 2]⟩, ⟨"0"⟩)] := by
    intro h
    have := h.2.2 _ List.mem_cons_self
    revert this
    decide
  obtain ⟨message, hresult, hdecode⟩ := (hanswers.2 hstale).1 ⟨0, by decide, by decide⟩
  obtain ⟨found, hfound, hmirrors⟩ := hdecode (by
    rw [List.forall_mem_singleton]
    exact ⟨Text.plain_of_all (by decide), by decide⟩)
  exact ⟨_, hparse, hfails.1, _, message, found, hresult, hfound, hmirrors⟩

end GatewayConfig.Store
