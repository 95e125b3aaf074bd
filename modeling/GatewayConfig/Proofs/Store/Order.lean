import GatewayConfig.Proofs.Reorder
import GatewayConfig.Proofs.Store.Agreement

/-!
# The order of provisioning

Reference documents, links and query params come from several sources that do not wait for each
other. Two operations can affect each other only when they write one document, or when both are
links, which take their versions from one supply. `provisioning_order` says that nothing else of
the order shows: every operation gets the same reply, and the stores go on to answer alike. So it
does not matter whether a subdocument is linked to a reference before or after the reference is
created.

`run_run_swap` is the step, for two operations in a row that have no line in common.
-/

namespace GatewayConfig.Store

/-- An operation that provisions the store: it writes or removes a document. -/
def Operation.Provisions : Operation → Prop
  | putReference _ _ | deleteReference _ | link _ _ _ | unlink _ _ | setParams _ _ => True
  | _ => False

/-- What an operation does to a backend that answers. -/
structure Effect where
  /-- What the caller is told. -/
  reply : Reply
  /-- The document that is written, or removed, if any. -/
  change : Option (DocumentName × Option Bytes)
  /-- How many identifiers are drawn. -/
  draws : Nat

namespace Effect

/-- What becomes of the documents. -/
def apply (e : Effect) (es : Entries) : Entries :=
  match e.change with
  | none => es
  | some (d, value) => es.set d.key value

/-- An effect changes the document that it names, and no other key. -/
theorem get?_apply (e : Effect) (es : Entries) (k : String) :
    (e.apply es).get? k = (e.change.bind fun c => if k = c.1.key then some c.2 else none).getD
      (es.get? k) := by
  rw [apply]
  cases e.change with
  | none => rfl
  | some c =>
    obtain ⟨d, value⟩ := c
    rw [Entries.get?_set, Option.bind_some]
    split <;> rfl

/-- An effect on a device, whose address is read first. -/
def onDevice (address : String) (act : Mac → Effect) : Effect :=
  match Mac.parse address with
  | .ok mac => act mac
  | .error reason => ⟨.invalid reason, none, 0⟩

/-- An effect on a device draws nothing when it does so for no device. An address that is no MAC
draws nothing anyway. -/
theorem draws_onDevice (address : String) {act : Mac → Effect} (h : ∀ mac, (act mac).draws = 0) :
    (onDevice address act).draws = 0 := by
  rw [onDevice]
  cases Mac.parse address with
  | ok mac => exact h mac
  | error reason => rfl

/-- The document that is changed is one of the device that is named. -/
theorem change_onDevice (address : String) {act : Mac → Effect} {name : Mac → DocumentName}
    (h : ∀ mac, (act mac).change.map Prod.fst = some (name mac)) :
    (onDevice address act).change.map Prod.fst = (Mac.parse address).toOption.map name := by
  rw [onDevice]
  cases Mac.parse address with
  | ok mac => exact h mac
  | error reason => rfl

/-- Writes of different documents can change places. -/
theorem apply_apply_swap {e f : Effect}
    (h : ∀ d ∈ e.change.map Prod.fst, d ∉ f.change.map Prod.fst) (es : Entries) (k : String) :
    (f.apply (e.apply es)).get? k = (e.apply (f.apply es)).get? k := by
  simp only [get?_apply]
  cases he : e.change with
  | none => rfl
  | some c =>
    cases hf : f.change with
    | none => rfl
    | some c' =>
      have hne : c.1.key ≠ c'.1.key := by
        intro hkey
        refine h c.1 (by rw [he]; rfl) ?_
        rw [hf, DocumentName.key_inj.1 hkey]
        rfl
      by_cases hk : k = c.1.key
      · have hk' : k ≠ c'.1.key := fun h' => hne (hk.symm.trans h')
        simp [hk, hne]
      · simp [hk]

end Effect

/-- What an operation does when the given identifier is the next one. -/
def Operation.effect (next : Nat) : Operation → Effect
  | putReference id bytes =>
    ⟨.version (Version.ofBytes bytes), some (.reference id, some bytes), 0⟩
  | deleteReference id => ⟨.done, some (.reference id, none), 0⟩
  | link address id payload => Effect.onDevice address fun mac =>
    let version := Version.ofBytes (uuidAt next)
    ⟨.version version, some (.link mac id, some (Record.encode ⟨version, payload⟩)), 1⟩
  | unlink address id => Effect.onDevice address fun mac => ⟨.done, some (.link mac id, none), 0⟩
  | setParams address params => Effect.onDevice address fun mac =>
    ⟨.done, some (.params mac, some (Bytes.ofText params)), 0⟩
  | _ => ⟨.done, none, 0⟩

/-- A step of a run: what it replies and leaves behind is what an effect says. -/
structure Realizes (e : Effect) (s : State) (step : Reply × State) : Prop where
  /-- The caller is told so. -/
  reply : step.1 = e.reply
  /-- The documents change so. -/
  entries : step.2.backend.entries = e.apply s.backend.entries
  /-- The backend still answers. -/
  failing : step.2.backend.failing = false
  /-- So many identifiers are drawn. -/
  next : step.2.uuids.next = s.uuids.next + e.draws

variable {s t : State} {a b op : Operation}

/-- An action that writes the value of a document realizes the effect with that change, without a
draw, while the backend answers. -/
theorem realizes_of_writes {α : Type} {d : DocumentName} {value : Option Bytes}
    {act : Action Error α} {x : α} (h : Writes d.key value act x)
    (hs : s.backend.failing = false) (shown : α → Reply) :
    Realizes ⟨shown x, some (d, value), 0⟩ s (replying shown act s) := by
  constructor
  case reply => rw [replying, h.result, hs]; rfl
  case entries => exact (h.entries s).trans (by rw [hs]; rfl)
  case failing => exact (h.failing s).trans hs
  case next => exact congrArg UuidSupply.next (h.uuids s)

/-- A step for a device has the effect that it has for the device that is named. An address that
is none is refused, which has no effect. -/
theorem Realizes.onDevice {act : Mac → Effect} {step : Mac → State → Reply × State}
    (h : ∀ mac, Realizes (act mac) s (step mac s)) (hs : s.backend.failing = false)
    (address : String) :
    Realizes (Effect.onDevice address act) s (Store.onDevice address step s) := by
  rw [Effect.onDevice, Store.onDevice]
  cases Mac.parse address with
  | ok mac => exact h mac
  | error reason => exact ⟨rfl, rfl, hs, rfl⟩

/-- A provisioning operation has its effect when the backend answers. A link draws its version
first, so its write happens to a state with one fewer to come. -/
theorem realizes_effect (hop : op.Provisions) (hs : s.backend.failing = false) :
    Realizes (op.effect s.uuids.next) s (op.run s) := by
  cases op with
  | putReference id bytes =>
    exact realizes_of_writes (d := .reference id) (Writes.putReference id bytes) hs .version
  | deleteReference id =>
    exact realizes_of_writes (d := .reference id) (Writes.deleteReference id) hs fun _ => .done
  | link address id payload =>
    refine Realizes.onDevice (fun mac => ?_) hs address
    have hwrite := realizes_of_writes (s := { s with uuids := ⟨s.uuids.next + 1⟩ })
      (d := .link mac id)
      (Writes.link mac id payload (Version.ofBytes (uuidAt s.uuids.next))) hs .version
    rw [replying, run_link]
    exact ⟨hwrite.reply, hwrite.entries, hwrite.failing, hwrite.next⟩
  | unlink address id =>
    exact .onDevice (fun mac => realizes_of_writes (d := .link mac id) (Writes.unlink mac id) hs
      fun _ => .done) hs address
  | setParams address params =>
    exact .onDevice (fun mac => realizes_of_writes (d := .params mac) (Writes.setParams mac params)
      hs fun _ => .done) hs address
  | getReference id => cases hop
  | record address id => cases hop
  | resolve address id => cases hop
  | getParams address => cases hop
  | setFailing on => cases hop

/-- Where one operation can be felt by another. -/
inductive Line where
  /-- The supply from which links take their versions. -/
  | versions
  /-- A document. -/
  | document (d : DocumentName)

/-- Whether an operation goes along a line: a link of a device takes a version, and each operation
writes its document. -/
def Line.holds : Line → Operation → Bool
  | versions, .link address _ _ => (Mac.parse address).toOption.isSome
  | versions, _ => false
  | document d, op => decide (op.target? = some d)

/-- The document of an effect is that of the operation. -/
theorem change_effect (hop : op.Provisions) (next : Nat) :
    (op.effect next).change.map Prod.fst = op.target? := by
  cases op with
  | putReference id bytes => rfl
  | deleteReference id => rfl
  | link address id payload => exact Effect.change_onDevice address fun mac => rfl
  | unlink address id => exact Effect.change_onDevice address fun mac => rfl
  | setParams address params => exact Effect.change_onDevice address fun mac => rfl
  | _ => cases hop

/-- Only a link draws, and has an effect that depends on what is drawn. -/
theorem effect_of_not_versions (h : Line.versions.holds op = false) (next : Nat) :
    (op.effect next).draws = 0 ∧ ∀ next', op.effect next' = op.effect next := by
  cases op with
  | link address id payload =>
    rw [Line.holds] at h
    cases hparse : Mac.parse address with
    | ok mac =>
      rw [hparse] at h
      cases h
    | error reason =>
      simp only [Operation.effect, Effect.onDevice, hparse]
      exact ⟨trivial, fun _ => trivial⟩
  | unlink address id => exact ⟨Effect.draws_onDevice address fun _ => rfl, fun _ => rfl⟩
  | setParams address params => exact ⟨Effect.draws_onDevice address fun _ => rfl, fun _ => rfl⟩
  | _ => exact ⟨rfl, fun _ => rfl⟩

/-- Of two operations that have no line in common, the first makes no difference to the effect of
the second. -/
theorem effect_after (h : Disjoined Line.holds a b) (next : Nat) :
    b.effect (next + (a.effect next).draws) = b.effect next := by
  cases ha : Line.versions.holds a with
  | false => rw [(effect_of_not_versions ha next).1, Nat.add_zero]
  | true =>
    have hb : Line.versions.holds b = false := Bool.eq_false_iff.2 fun hb => h .versions ⟨ha, hb⟩
    exact (effect_of_not_versions hb next).2 _

/-- Two operations in a row. -/
theorem realizes_realizes (ha : a.Provisions) (hb : b.Provisions)
    (h : Disjoined Line.holds a b) (hs : s.backend.failing = false) :
    Realizes (a.effect s.uuids.next) s (a.run s) ∧
      Realizes (b.effect s.uuids.next) (a.run s).2 (b.run (a.run s).2) := by
  have hfirst := realizes_effect ha hs
  have hsecond := realizes_effect hb hfirst.failing
  rw [hfirst.next, effect_after h] at hsecond
  exact ⟨hfirst, hsecond⟩

/-- Two operations in a row that have no line in common can change places: both get the replies
that they got, and the documents are the same. -/
theorem run_run_swap (ha : a.Provisions) (hb : b.Provisions) (h : Disjoined Line.holds a b)
    (hs : s.backend.failing = false) :
    (a.run (b.run s).2).1 = (a.run s).1 ∧ (b.run (a.run s).2).1 = (b.run s).1 ∧
      (b.run (a.run s).2).2.Agrees (a.run (b.run s).2).2 := by
  have hdifferent : ∀ d ∈ (a.effect s.uuids.next).change.map Prod.fst,
      d ∉ (b.effect s.uuids.next).change.map Prod.fst := by
    intro d hd hd'
    rw [change_effect ha] at hd
    rw [change_effect hb] at hd'
    exact h (.document d) ⟨decide_eq_true hd, decide_eq_true hd'⟩
  obtain ⟨hafirst, hbsecond⟩ := realizes_realizes ha hb h hs
  obtain ⟨hbfirst, hasecond⟩ := realizes_realizes hb ha h.symm hs
  refine ⟨hasecond.reply.trans hafirst.reply.symm, hbsecond.reply.trans hbfirst.reply.symm, ?_⟩
  constructor
  case get? =>
    intro key
    rw [hbsecond.entries, hafirst.entries, hasecond.entries, hbfirst.entries,
      Effect.apply_apply_swap hdifferent]
  case failing => rw [hbsecond.failing, hasecond.failing]
  case uuids =>
    have hnext : (b.run (a.run s).2).2.uuids.next = (a.run (b.run s).2).2.uuids.next := by
      rw [hbsecond.next, hafirst.next, hasecond.next, hbfirst.next, Nat.add_right_comm]
    exact congrArg UuidSupply.mk hnext

/-- The operations of a run, each with its reply. -/
def Operation.transcript (ops : List Operation) (s : State) : List (Operation × Reply) :=
  ops.zip (replies ops s)

/-- A transcript begins with the reply to the first operation. -/
theorem transcript_cons (op : Operation) (rest : List Operation) (s : State) :
    Operation.transcript (op :: rest) s =
      (op, (op.run s).1) :: Operation.transcript rest (op.run s).2 := rfl

/-- Two transcripts with the same replies to the same operations: as a whole but for the order, and
along each line in order. -/
structure SameReplies (p q : List (Operation × Reply)) : Prop where
  /-- The operations got the same replies. -/
  perm : p.Perm q
  /-- Along a line these came in the same order. -/
  lines : ∀ line : Line, p.filter (fun r => line.holds r.1) = q.filter fun r => line.holds r.1

namespace SameReplies

/-- A transcript has the replies that it has. -/
theorem refl (p : List (Operation × Reply)) : SameReplies p p := ⟨.refl p, fun _ => rfl⟩

/-- The same replies as a second transcript are the same as a third, if the second has those. -/
theorem trans {p q r : List (Operation × Reply)} (h : SameReplies p q) (h' : SameReplies q r) :
    SameReplies p r :=
  ⟨h.perm.trans h'.perm, fun line => (h.lines line).trans (h'.lines line)⟩

/-- The same operation and reply may stand in front of both transcripts. -/
theorem cons (x : Operation × Reply) {p q : List (Operation × Reply)} (h : SameReplies p q) :
    SameReplies (x :: p) (x :: q) := by
  refine ⟨h.perm.cons x, fun line => ?_⟩
  rw [List.filter_cons, List.filter_cons, h.lines]

/-- Two operations in front may change places when they share no line. -/
theorem swap {x y : Operation × Reply} (h : Disjoined Line.holds x.1 y.1)
    (p : List (Operation × Reply)) : SameReplies (x :: y :: p) (y :: x :: p) := by
  have hdisjoined : Disjoined (fun (line : Line) (r : Operation × Reply) => line.holds r.1) x y := h
  exact ⟨.swap y x p, hdisjoined.filter_eq p⟩

end SameReplies

/-- Runs from agreeing states get the same replies and leave agreeing states. -/
theorem State.Agrees.runAll (h : s.Agrees t) (ops : List Operation) :
    (Operation.runAll ops s).Agrees (Operation.runAll ops t) ∧
      Operation.transcript ops s = Operation.transcript ops t := by
  induction ops generalizing s t with
  | nil => exact ⟨h, rfl⟩
  | cons op rest ih =>
    obtain ⟨hreply, hafter⟩ := h.run op
    obtain ⟨hend, hrest⟩ := ih hafter
    exact ⟨hend, by rw [transcript_cons, transcript_cons, hreply, hrest]⟩

/-- A run of provisioning operations whose neighbours change places. -/
theorem runAll_of_reordered {xs ys : List Operation} (h : Reordered (Disjoined Line.holds) xs ys)
    (hops : ∀ op ∈ xs, op.Provisions) (hs : s.backend.failing = false) :
    (Operation.runAll xs s).Agrees (Operation.runAll ys s) ∧
      SameReplies (Operation.transcript xs s) (Operation.transcript ys s) := by
  induction h generalizing s with
  | nil => exact ⟨.refl s, .refl _⟩
  | cons op h ih =>
    obtain ⟨hop, hrest⟩ := List.forall_mem_cons.1 hops
    obtain ⟨hend, hreplies⟩ := ih hrest (realizes_effect hop hs).failing
    exact ⟨hend, hreplies.cons _⟩
  | @swap a b h rest =>
    obtain ⟨ha, hb, -⟩ := List.forall_mem_cons.1 hops |>.imp_right List.forall_mem_cons.1
    obtain ⟨hareply, hbreply, hagree⟩ := run_run_swap ha hb h hs
    obtain ⟨hend, hrest⟩ := hagree.runAll rest
    refine ⟨hend, ?_⟩
    rw [transcript_cons, transcript_cons, transcript_cons, transcript_cons, hareply, hbreply,
      hrest]
    exact .swap h _
  | trans h h' ih ih' =>
    obtain ⟨hmiddle, hreplies⟩ := ih hops hs
    have hops' := fun op hop => hops op (h.perm.mem_iff.2 hop)
    obtain ⟨hend, hreplies'⟩ := ih' hops' hs
    exact ⟨hmiddle.trans hend, hreplies.trans hreplies'⟩

/-- Two arrangements of the same provisioning operations, in which the links come in one order and
so do the operations on each document, have the same effect. The documents are the same, every
operation gets the same reply, and whatever happens afterwards, the subdocuments that are read and
the groups that are fetched are the same. -/
theorem provisioning_order {xs ys : List Operation} (hs : s.backend.failing = false)
    (hops : ∀ op ∈ xs, op.Provisions) (hperm : xs.Perm ys)
    (hlines : ∀ line : Line, xs.filter line.holds = ys.filter line.holds) :
    let u := Operation.runAll xs s
    let v := Operation.runAll ys s
    (∀ key, u.backend.entries.get? key = v.backend.entries.get? key) ∧ u.uuids = v.uuids ∧
      SameReplies (Operation.transcript xs s) (Operation.transcript ys s) ∧
      ∀ (later : List Activity) (mac : Mac),
        (∀ id, (resolve mac id (Activity.applyAll later u)).1 =
          (resolve mac id (Activity.applyAll later v)).1) ∧
        ∀ request, (fetch mac request (Activity.applyAll later u)).1 =
          (fetch mac request (Activity.applyAll later v)).1 := by
  intro u v
  obtain ⟨hagree, hreplies⟩ := runAll_of_reordered (.of_lines hperm hlines) hops hs
  refine ⟨hagree.get?, hagree.uuids, hreplies, fun later mac => ?_⟩
  have hlater := hagree.applyAll later
  exact ⟨fun id => hlater.resolve_eq mac id, fun request => (hlater.fetch mac request).1⟩

/-- A link shares no line with a put of a reference document, whether or not it names that
document. -/
theorem disjoined_link_putReference (address id : String) (payload : Payload) (target : String)
    (bytes : Bytes) :
    Disjoined Line.holds (.link address id payload) (.putReference target bytes) := by
  rintro (_ | d) ⟨hlink, hput⟩
  · cases hput
  · have hlink := of_decide_eq_true hlink
    obtain rfl := Option.some.inj (of_decide_eq_true hput)
    obtain ⟨mac, -, heq⟩ := Option.map_eq_some_iff.1 hlink
    cases heq

/-- The operations of `sharedHistory` in the other order: the link comes first and is dangling for
a while. -/
def danglingHistory : List Operation :=
  [.link "00000000000a" "lan" (.reference "a/b"), .putReference "a/b" [1]]

/-- In either order the subdocument is found afterwards, and a fetch of it has the same answer. -/
theorem provisioning_order_dangling :
    SameReplies (Operation.transcript danglingHistory {}) (Operation.transcript sharedHistory {}) ∧
      (resolve sharingMac "lan" (Operation.runAll danglingHistory {})).1 =
        (resolve sharingMac "lan" (Operation.runAll sharedHistory {})).1 ∧
      (fetch sharingMac firstRequest (Operation.runAll danglingHistory {})).1 =
        (fetch sharingMac firstRequest (Operation.runAll sharedHistory {})).1 := by
  have hops : ∀ op ∈ danglingHistory, op.Provisions :=
    List.forall_mem_cons.2 ⟨trivial, List.forall_mem_singleton.2 trivial⟩
  have hlines : ∀ line : Line,
      danglingHistory.filter line.holds = sharedHistory.filter line.holds :=
    (disjoined_link_putReference _ _ _ _ _).filter_eq []
  obtain ⟨-, -, hreplies, hlater⟩ :=
    provisioning_order (s := {}) rfl hops (.swap _ _ []) hlines
  obtain ⟨hresolve, hfetch⟩ := hlater [] sharingMac
  exact ⟨hreplies, hresolve "lan", hfetch firstRequest⟩

end GatewayConfig.Store
