import GatewayConfig.Proofs.Multipart.RoundTrip
import GatewayConfig.Proofs.Store.Change
import GatewayConfig.Proofs.Store.Layout
import GatewayConfig.Proofs.Version
import Mathlib.Data.Set.Function
import Mathlib.Logic.Function.Basic
import Mathlib.Order.Interval.Set.Defs
import Mathlib.Tactic.Ring

/-!
# Links and the identifiers drawn for them

Every link stands in the store under the token of an identifier that was drawn for it, and for no
other link. So as long as identifiers are distinct and their tokens do not collide, a version
determines what was linked, also between two states of one run. `resolved_eq` extends this to the
versions of references, which are made from that of the link and that of the content.
-/

namespace GatewayConfig

/-- The highest of the bytes comes first. -/
theorem Bytes.bigEndian_succ (count n : Nat) :
    bigEndian (count + 1) n = UInt8.ofNat (n / 256 ^ count) :: bigEndian count n := by
  simp [bigEndian, List.range_succ]

/-- Numbers with the same lowest bytes agree up to multiples of the next place value. -/
theorem Bytes.mod_eq_of_bigEndian {count m n : Nat} (h : bigEndian count m = bigEndian count n) :
    m % 256 ^ count = n % 256 ^ count := by
  induction count with
  | zero => rw [pow_zero, Nat.mod_one, Nat.mod_one]
  | succ count ih =>
    rw [bigEndian_succ, bigEndian_succ] at h
    obtain ⟨hfirst, hrest⟩ := List.cons.inj h
    have hdigit : m / 256 ^ count % 256 = n / 256 ^ count % 256 := by
      simpa using congrArg UInt8.toNat hfirst
    rw [Nat.mod_pow_succ, Nat.mod_pow_succ, ih hrest, hdigit]

/-- An identifier shows the position at which it is drawn, as long as six bytes are enough for the
position. So the first 2^48 identifiers of a supply are distinct. -/
theorem injOn_uuidAt : Set.InjOn uuidAt (Set.Iio (256 ^ 6)) := by
  intro m hm n hn h
  have hmod := Bytes.mod_eq_of_bigEndian (List.append_cancel_left h)
  rwa [Nat.mod_eq_of_lt hm, Nat.mod_eq_of_lt hn] at hmod

namespace Store

/-- A payload whose bytes, if it has any, are addressable. -/
def Payload.Addressable : Payload → Prop
  | inline bytes => bytes.Addressable
  | reference _ => True

/-- A change whose bytes, if it brings any, are addressable. -/
def Change.Addressable : Change → Prop
  | putReference _ bytes => bytes.Addressable
  | link _ _ payload => payload.Addressable
  | _ => True

/-- The documents are accounted for by the draws from `start` to `stop`, when the payload linked
at each of them is the one that `issued` gives. The identifier of each link is among the byte
strings that were hashed. -/
structure Stamped (issued : Nat → Payload) (start stop : Nat) (hashed : Set Bytes)
    (es : Entries) : Prop where
  /-- A link has the token of the identifier drawn for it. -/
  link : ∀ {mac id raw}, es.get? (linkKey mac id) = some raw →
    ∃ n, n ∈ Set.Ico start stop ∧ uuidAt n ∈ hashed ∧ (issued n).Addressable ∧
      raw = Record.encode ⟨Version.ofBytes (uuidAt n), issued n⟩
  /-- A reference document is addressable. -/
  reference : ∀ {id raw}, es.get? (referenceKey id) = some raw → raw.Addressable

/-- The history after a change. -/
def Change.issue (next : Nat) (issued : Nat → Payload) : Change → Nat → Payload
  | .link _ _ payload => Function.update issued next payload
  | _ => issued

/-- A change leaves the payloads of earlier draws as they were issued. -/
theorem Change.issue_of_lt (c : Change) (issued : Nat → Payload) {n next : Nat} (h : n < next) :
    c.issue next issued n = issued n := by
  cases c with
  | link mac id payload => exact Function.update_of_ne (Nat.ne_of_lt h) payload issued
  | _ => rfl

namespace Stamped

variable {issued issued' : Nat → Payload} {start stop stop' : Nat} {hashed : Set Bytes}
  {es : Entries}

/-- An empty store is accounted for by any draws. -/
theorem nil (issued : Nat → Payload) (start stop : Nat) (hashed : Set Bytes) :
    Stamped issued start stop hashed [] := by
  constructor
  · intro mac id raw hget
    cases hget
  · intro id raw hget
    cases hget

/-- Later draws change nothing about the earlier ones. -/
theorem mono (h : Stamped issued start stop hashed es) (hstop : stop ≤ stop')
    (hissued : ∀ n < stop, issued' n = issued n) : Stamped issued' start stop' hashed es := by
  refine ⟨fun hget => ?_, h.reference⟩
  obtain ⟨n, ⟨hlow, hhigh⟩, hmem, hsize, rfl⟩ := h.link hget
  rw [← hissued n hhigh] at hsize ⊢
  exact ⟨n, ⟨hlow, hhigh.trans_le hstop⟩, hmem, hsize, rfl⟩

/-- Entries stay accounted for when one is removed. -/
theorem erase (h : Stamped issued start stop hashed es) (key : String) :
    Stamped issued start stop hashed (es.erase key) := by
  constructor
  · intro mac id raw hget
    rw [Entries.get?_erase] at hget
    split at hget
    · cases hget
    · exact h.link hget
  · intro id raw hget
    rw [Entries.get?_erase] at hget
    split at hget
    · cases hget
    · exact h.reference hget

/-- Entries stay accounted for when an addressable reference document is put in. -/
theorem insert_reference (h : Stamped issued start stop hashed es) (target : String)
    {bytes : Bytes} (hb : bytes.Addressable) :
    Stamped issued start stop hashed (es.insert (referenceKey target) bytes) := by
  constructor
  · intro mac id raw hget
    rw [Entries.get?_insert, if_neg (referenceKey_ne_linkKey target mac id).symm] at hget
    exact h.link hget
  · intro id raw hget
    rw [Entries.get?_insert] at hget
    split at hget
    · obtain rfl := Option.some.inj hget
      exact hb
    · exact h.reference hget

/-- Entries stay accounted for when a pair is linked at one of the draws, with the payload issued at
it. -/
theorem insert_link (h : Stamped issued start stop hashed es) (mac : Mac) (id : String) {n : Nat}
    (hn : n ∈ Set.Ico start stop) (hmem : uuidAt n ∈ hashed) (hsize : (issued n).Addressable) :
    Stamped issued start stop hashed
      (es.insert (linkKey mac id) (Record.encode ⟨Version.ofBytes (uuidAt n), issued n⟩)) := by
  constructor
  · intro mac' id' raw hget
    rw [Entries.get?_insert] at hget
    split at hget
    · exact ⟨n, hn, hmem, hsize, (Option.some.inj hget).symm⟩
    · exact h.link hget
  · intro target raw hget
    rw [Entries.get?_insert, if_neg (referenceKey_ne_linkKey target mac id)] at hget
    exact h.reference hget

/-- A change keeps the documents accounted for, with one more draw when it is a link. -/
theorem effect (h : Stamped issued start stop hashed es) {c : Change} (hstart : start ≤ stop)
    (hc : c.Addressable) (hmem : c.draws = 1 → uuidAt stop ∈ hashed) :
    Stamped (c.issue stop issued) start (stop + c.draws) hashed (c.effect stop es) := by
  have hmono := h.mono (Nat.le_add_right stop c.draws) fun n hn => c.issue_of_lt issued hn
  cases c with
  | putReference id bytes => exact hmono.insert_reference id hc
  | deleteReference id => exact hmono.erase _
  | link mac id payload =>
    have hissued : Change.issue stop issued (.link mac id payload) stop = payload := by
      rw [Change.issue, Function.update_self]
    have hn : stop ∈ Set.Ico start (stop + 1) := ⟨hstart, Nat.lt_succ_self stop⟩
    have hlink := hmono.insert_link mac id hn (hmem rfl) (hissued.symm ▸ hc)
    rw [hissued] at hlink
    exact hlink
  | unlink mac id => exact hmono.erase _
  | setFailing on => exact hmono

end Stamped

variable {issued : Nat → Payload} {start stop : Nat} {hashed : Set Bytes} {mac : Mac}
  {id : String} {s t : State}

/-- A link that is read has the token of an identifier and what was linked with it. -/
theorem Stamped.record {r : Record} (h : Stamped issued start stop hashed s.backend.entries)
    (hr : (Store.record mac id s).1 = .ok (some r)) :
    ∃ n ∈ Set.Ico start stop, uuidAt n ∈ hashed ∧ (issued n).Addressable ∧
      r = ⟨Version.ofBytes (uuidAt n), issued n⟩ := by
  obtain ⟨raw, hget, hdecode⟩ := record_cases hr
  obtain ⟨n, hn, hmem, hsize, rfl⟩ := h.link hget
  have hlength : (Bytes.ofText (Version.ofBytes (uuidAt n)).token).length ≤ 255 := by
    rw [Version.ofBytes, Version.length_ofText_hashed]
    decide
  have hrecord : Record.decode (Record.encode ⟨Version.ofBytes (uuidAt n), issued n⟩) =
      .ok ⟨Version.ofBytes (uuidAt n), issued n⟩ := decode_encode hlength
  rw [hrecord] at hdecode
  exact ⟨n, hn, hmem, hsize, (Except.ok.inj hdecode).symm⟩

/-- Two links of one run that have the same version are the same. -/
theorem Stamped.record_eq {mac' : Mac} {id' : String} {r r' : Record}
    (hs : Stamped issued start stop hashed s.backend.entries)
    (ht : Stamped issued start stop hashed t.backend.entries)
    (hdraws : Set.InjOn uuidAt (Set.Ico start stop)) (hhash : Set.InjOn Version.hashed hashed)
    (hr : (Store.record mac id s).1 = .ok (some r))
    (hr' : (Store.record mac' id' t).1 = .ok (some r')) (hv : r.version = r'.version) : r = r' := by
  obtain ⟨n, hn, hmem, -, rfl⟩ := hs.record hr
  obtain ⟨n', hn', hmem', -, rfl⟩ := ht.record hr'
  have huuid : uuidAt n = uuidAt n' := hhash hmem hmem' hv
  rw [hdraws hn hn' huuid]

/-- The byte strings hashed for a subdocument that holds a reference. -/
def hashedFor (mac : Mac) (s : State) (id : String) : List Bytes :=
  match (record mac id s).1 with
  | .ok (some ⟨version, .reference target⟩) =>
    match s.backend.entries.get? (referenceKey target) with
    | some bytes => [bytes, Version.combineText [version, Version.ofBytes bytes]]
    | none => []
  | _ => []

/-- For a link to a reference document its bytes are hashed, and the text that combines both
versions. -/
theorem mem_hashedFor {version : Version} {target : String} {bytes b : Bytes}
    (hr : (record mac id s).1 = .ok (some ⟨version, .reference target⟩))
    (hget : s.backend.entries.get? (referenceKey target) = some bytes) :
    b ∈ hashedFor mac s id ↔
      b = bytes ∨ b = Version.combineText [version, Version.ofBytes bytes] := by
  simp [hashedFor, hr, hget]

/-- An identifier is too short to be what is hashed for two tokens. -/
theorem uuidAt_ne_combineText (n : Nat) (a b : Bytes) :
    uuidAt n ≠ Version.combineText [Version.ofBytes a, Version.ofBytes b] := by
  intro h
  have hlength := congrArg List.length h
  rw [Version.combineText_cons, Version.combineText_cons] at hlength
  simp only [List.length_append, List.length_cons, Version.ofBytes, Version.length_ofText_hashed]
    at hlength
  have huuid : (uuidAt n).length = 16 := by simp [uuidAt, Bytes.bigEndian]
  omega

/-- The version of a link is not that of a reference with its content. -/
theorem Stamped.version_ne_combine {mac' : Mac} {id' : String} {v v' : Version}
    {p p' : Payload} {bytes : Bytes} (hs : Stamped issued start stop hashed s.backend.entries)
    (ht : Stamped issued start stop hashed t.backend.entries)
    (hhash : Set.InjOn Version.hashed hashed)
    (hr : (Store.record mac id s).1 = .ok (some ⟨v, p⟩))
    (hr' : (Store.record mac' id' t).1 = .ok (some ⟨v', p'⟩))
    (hmem : Version.combineText [v', Version.ofBytes bytes] ∈ hashed) :
    v ≠ Version.combine [v', Version.ofBytes bytes] := by
  obtain ⟨n, -, huuid, -, hrecord⟩ := hs.record hr
  obtain ⟨n', -, -, -, hrecord'⟩ := ht.record hr'
  obtain rfl := congrArg Record.version hrecord
  obtain rfl := congrArg Record.version hrecord'
  intro h
  exact uuidAt_ne_combineText n (uuidAt n') bytes (hhash huuid hmem h)

/-- The version of a reference with its content determines the versions it is made of. -/
theorem Stamped.combine_inj {mac' : Mac} {id' : String} {v v' : Version} {p p' : Payload}
    {bytes bytes' : Bytes} (hs : Stamped issued start stop hashed s.backend.entries)
    (ht : Stamped issued start stop hashed t.backend.entries)
    (hhash : Set.InjOn Version.hashed hashed)
    (hr : (Store.record mac id s).1 = .ok (some ⟨v, p⟩))
    (hr' : (Store.record mac' id' t).1 = .ok (some ⟨v', p'⟩))
    (hmem : Version.combineText [v, Version.ofBytes bytes] ∈ hashed)
    (hmem' : Version.combineText [v', Version.ofBytes bytes'] ∈ hashed)
    (h : Version.combine [v, Version.ofBytes bytes] =
      Version.combine [v', Version.ofBytes bytes']) :
    v = v' ∧ Version.ofBytes bytes = Version.ofBytes bytes' := by
  obtain ⟨n, -, -, -, hrecord⟩ := hs.record hr
  obtain ⟨n', -, -, -, hrecord'⟩ := ht.record hr'
  obtain rfl := congrArg Record.version hrecord
  obtain rfl := congrArg Record.version hrecord'
  have hzero : ∀ b, Char.ofNat 0 ∉ (Version.ofBytes b).token.toList :=
    Version.not_mem_hashed (by decide)
  have hlist := Version.combineText_inj (by simp [hzero]) (by simp [hzero])
    (hhash hmem hmem' h)
  exact ⟨(List.cons.inj hlist).1, (List.cons.inj (List.cons.inj hlist).2).1⟩

/-- Two present subdocuments of one run with the same version are the same, and so are the links
to them. -/
theorem resolved_eq {doc doc' : Resolved}
    (hs : Stamped issued start stop hashed s.backend.entries)
    (ht : Stamped issued start stop hashed t.backend.entries)
    (hdraws : Set.InjOn uuidAt (Set.Ico start stop)) (hhash : Set.InjOn Version.hashed hashed)
    (hsmem : ∀ b ∈ hashedFor mac s id, b ∈ hashed) (htmem : ∀ b ∈ hashedFor mac t id, b ∈ hashed)
    (hdoc : (resolve mac id s).1 = .ok (some doc))
    (hdoc' : (resolve mac id t).1 = .ok (some doc')) (hv : doc.version = doc'.version) :
    doc = doc' ∧ (record mac id s).1 = (record mac id t).1 := by
  rcases resolve_cases hdoc with ⟨v, bytes, hr, rfl⟩ | ⟨v, target, bytes, hr, hget, rfl⟩
  · rcases resolve_cases hdoc' with ⟨v', bytes', hr', rfl⟩ | ⟨v', target', bytes', hr', hget', rfl⟩
    · have hrecord := hs.record_eq ht hdraws hhash hr hr' hv
      have hversion : v = v' := congrArg Record.version hrecord
      have hbytes : bytes = bytes' := Payload.inline.inj (congrArg Record.payload hrecord)
      rw [hr, hr', hversion, hbytes]
      exact ⟨rfl, rfl⟩
    · have hmem := htmem _ ((mem_hashedFor hr' hget').2 (.inr rfl))
      have hne : v ≠ Version.combine [v', Version.ofBytes bytes'] :=
        hs.version_ne_combine ht hhash hr hr' hmem
      exact absurd hv hne
  · have hmem := fun b hb => hsmem b ((mem_hashedFor hr hget).2 hb)
    rcases resolve_cases hdoc' with ⟨v', bytes', hr', rfl⟩ | ⟨v', target', bytes', hr', hget', rfl⟩
    · have hne : v' ≠ Version.combine [v, Version.ofBytes bytes] :=
        ht.version_ne_combine hs hhash hr' hr (hmem _ (.inr rfl))
      exact absurd hv.symm hne
    · have hmem' := fun b hb => htmem b ((mem_hashedFor hr' hget').2 hb)
      obtain ⟨hversion, hcontent⟩ := hs.combine_inj ht hhash hr hr' (hmem _ (.inr rfl))
        (hmem' _ (.inr rfl)) hv
      have hrecord := hs.record_eq ht hdraws hhash hr hr' hversion
      have hbytes : bytes = bytes' := hhash (hmem _ (.inl rfl)) (hmem' _ (.inl rfl)) hcontent
      rw [hr, hr', hrecord, hversion, hbytes]
      exact ⟨rfl, rfl⟩

/-- A present subdocument is addressable, and its version is a token. -/
theorem Stamped.present {doc : Resolved} (h : Stamped issued start stop hashed s.backend.entries)
    (hdoc : (resolve mac id s).1 = .ok (some doc)) :
    doc.bytes.Addressable ∧ ∃ b, doc.version = Version.hashed b := by
  rcases resolve_cases hdoc with ⟨v, bytes, hr, rfl⟩ | ⟨v, target, bytes, hr, hget, rfl⟩
  · obtain ⟨n, -, -, hsize, hrecord⟩ := h.record hr
    have hpayload : .inline bytes = issued n := congrArg Record.payload hrecord
    rw [← hpayload] at hsize
    exact ⟨hsize, uuidAt n, congrArg Record.version hrecord⟩
  · exact ⟨h.reference hget, Version.combineText [v, Version.ofBytes bytes], rfl⟩

end Store

end GatewayConfig
