import GatewayConfig.Telemetry.Bundle
import Mathlib.Data.Nat.Find

/-!
# What a source gives

The attempts of a call end with the first final outcome, or with the last one allowed. `Obtains`
lists the ways in which asking a source can end, by its reply to the last attempt. `exists_obtains`
says that the list is complete, and `orIfNotFound_of_obtains` that each of its entries leads to the
one result that it names.
-/

namespace GatewayConfig.Telemetry

namespace RetryPolicy

variable {p : RetryPolicy} {outcomes : Nat → Outcome} {n : Nat}

/-- The attempts of a call end with the given one. They are counted from zero. -/
structure EndsAt (p : RetryPolicy) (outcomes : Nat → Outcome) (n : Nat) : Prop where
  /-- The policy allows it. -/
  allowed : n ≤ p.maxRetries
  /-- Each attempt before it was worth another one. -/
  earlier : ∀ i < n, (outcomes i).isFinal = false
  /-- It is the last one allowed, or its outcome is final. -/
  last : n = p.maxRetries ∨ (outcomes n).isFinal = true

/-- Every call ends, since the retries are limited. -/
theorem exists_endsAt (p : RetryPolicy) (outcomes : Nat → Outcome) : ∃ n, p.EndsAt outcomes n := by
  have hends : ∃ n, n = p.maxRetries ∨ (outcomes n).isFinal = true := ⟨p.maxRetries, .inl rfl⟩
  refine ⟨Nat.find hends, Nat.find_min' hends (.inl rfl), fun i hi => ?_, Nat.find_spec hends⟩
  have hnot := Nat.find_min hends hi
  rw [not_or] at hnot
  exact Bool.eq_false_iff.2 hnot.2

/-- Attempts from any number on end with the first that settles the call. -/
theorem runFrom_eq {left k : Nat} (hk : k ≤ left)
    (hearlier : ∀ i < k, (outcomes (n + i)).isFinal = false)
    (hlast : k = left ∨ (outcomes (n + k)).isFinal = true) :
    p.runFrom outcomes left n = ⟨outcomes (n + k), n + k + 1, (List.range' n k).map p.delay⟩ := by
  induction left generalizing n k with
  | zero =>
    obtain rfl : k = 0 := Nat.le_zero.1 hk
    rfl
  | succ left ih =>
    rw [runFrom]
    cases k with
    | zero =>
      have hfinal : (outcomes n).isFinal = true := hlast.resolve_left (Nat.succ_ne_zero left).symm
      rw [if_pos hfinal]
      rfl
    | succ k =>
      have hshift : ∀ i, n + 1 + i = n + (i + 1) := by omega
      have hfirst : (outcomes n).isFinal = false := hearlier 0 (Nat.succ_pos k)
      have hrest := ih (n := n + 1) (k := k) (Nat.le_of_succ_le_succ hk)
        (fun i hi => hshift i ▸ hearlier (i + 1) (Nat.succ_lt_succ hi))
        (hshift k ▸ hlast.imp_left Nat.succ.inj)
      rw [hfirst, if_neg Bool.false_ne_true, hrest, hshift]
      rfl

/-- A call comes to the outcome of its last attempt, with the policy's waits before it. -/
theorem run_of_endsAt (h : p.EndsAt outcomes n) :
    p.run outcomes = ⟨outcomes n, n + 1, (List.range n).map p.delay⟩ := by
  have hearlier : ∀ i < n, (outcomes (0 + i)).isFinal = false := by
    intro i hi
    rw [Nat.zero_add]
    exact h.earlier i hi
  have hlast : n = p.maxRetries ∨ (outcomes (0 + n)).isFinal = true := by
    rw [Nat.zero_add]
    exact h.last
  rw [run, runFrom_eq h.allowed hearlier hlast, Nat.zero_add, List.range_eq_range']

end RetryPolicy

namespace World

variable (w : World) (s : Settings) (name : SourceName) (url : Url)
  (headers : List (String × String))

/-- Whether a source hears the requests of a call. -/
def hears : Bool :=
  (w.source name).reachable && pointsTo url (s.host name) &&
    headers.all fun h => Text.isHeaderValue h.2

/-- The reply to an attempt of a call. -/
def reply (n : Nat) : Reply :=
  if w.hears s name url headers then (w.source name).script ((w.source name).served + n)
  else .closed

/-- When the attempts of a call start that ends with the given one, and when it ends. -/
def schedule (n : Nat) : List Nat × Nat :=
  timeline (fun i => attemptCost s (w.reply s name url headers i))
    ((List.range n).map s.retry.delay) 0 w.clock

/-- What the source receives of a call that ends with the given attempt. -/
def sent (n : Nat) : List Received :=
  if w.hears s name url headers then
    (w.schedule s name url headers n).1.map (⟨name, url.target, headers, ·⟩)
  else []

/-- The world after a call that ends with the given attempt. -/
def afterCall (n : Nat) : World :=
  { (w.sent s name url headers n).foldl receive w with
    clock := (w.schedule s name url headers n).2 }

/-- A call leaves the store alone. -/
@[simp] theorem store_afterCall (n : Nat) : (w.afterCall s name url headers n).store = w.store :=
  store_foldl_receive _ w

/-- The sources have received what they had, and the attempts of the call behind that. -/
@[simp] theorem received_afterCall (n : Nat) :
    (w.afterCall s name url headers n).received = w.received ++ w.sent s name url headers n :=
  received_foldl_receive _ w

variable {w s name url headers}

/-- A source that hears a call receives one request for each attempt. -/
theorem length_sent {n : Nat} :
    (w.sent s name url headers n).length = if w.hears s name url headers then n + 1 else 0 := by
  unfold sent
  split
  · rw [List.length_map, schedule, length_timeline, List.length_map, List.length_range]
  · rfl

/-- All attempts of a call are the same request. -/
theorem of_mem_sent {n : Nat} {x : Received} (h : x ∈ w.sent s name url headers n) :
    x.source = name ∧ x.target = url.target ∧ x.headers = headers := by
  unfold sent at h
  split at h
  · obtain ⟨time, -, rfl⟩ := List.mem_map.1 h
    exact ⟨rfl, rfl, rfl⟩
  · cases h

end World

/-- A call yields what the reply to its last attempt stands for. -/
theorem call_of_endsAt {s : Settings} {name : SourceName} {url : Url}
    {headers : List (String × String)} {w : World} {n : Nat}
    (h : s.retry.EndsAt (fun i => (w.reply s name url headers i).outcome) n) (endpoint : String) :
    call s name endpoint url headers w =
      (readBody endpoint (w.reply s name url headers n).outcome,
        w.afterCall s name url headers n) := by
  have hcall : call s name endpoint url headers w =
      let run := s.retry.run fun i => (w.reply s name url headers i).outcome
      let times :=
        timeline (fun i => attemptCost s (w.reply s name url headers i)) run.waits 0 w.clock
      let requests :=
        if w.hears s name url headers then times.1.map (⟨name, url.target, headers, ·⟩) else []
      (readBody endpoint run.outcome,
        { requests.foldl World.receive w with clock := times.2 }) := rfl
  rw [hcall, RetryPolicy.run_of_endsAt h]
  rfl

/-- A call that is made of a source: its URL and its last attempt. -/
structure Called (s : Settings) (name : SourceName) (service path query : String)
    (c : RequestContext) (w : World) (url : Url) (n : Nat) : Prop where
  /-- The path and the query name the URL. -/
  url_eq : sourceUrl (service ++ " GET " ++ path) (s.host name) path query = .ok url
  /-- The policy gives up or is content. -/
  endsAt : s.retry.EndsAt (fun i => (w.reply s name url c.outboundHeaders i).outcome) n

/-- A request that asks a source for a path. -/
structure IsRequest (s : Settings) (name : SourceName) (service path query : String)
    (c : RequestContext) (x : Received) : Prop where
  /-- It goes to the source. -/
  source : x.source = name
  /-- It carries the context of the client's request. -/
  headers : x.headers = c.outboundHeaders
  /-- It names the path and the query. -/
  target : ∃ url, sourceUrl (service ++ " GET " ++ path) (s.host name) path query = .ok url ∧
    x.target = url.target

/-- How asking a source ends, with a stand-in for the body where the source knows nothing. -/
inductive Obtains (s : Settings) (name : SourceName) (service path query : String)
    (c : RequestContext) (standIn : Option Bytes) (w : World) :
    Except SourceError Bytes → World → Prop
  /-- The path names no URL, and nothing is sent. -/
  | invalid {e : SourceError}
    (hurl : sourceUrl (service ++ " GET " ++ path) (s.host name) path query = .error e) :
    Obtains s name service path query c standIn w (.error e) w
  /-- The last answer is a success. -/
  | body {url : Url} {n status : Nat} {bytes : Bytes}
    (hcalled : Called s name service path query c w url n)
    (hlast : w.reply s name url c.outboundHeaders n = .answer status bytes true)
    (hstatus : 200 ≤ status ∧ status ≤ 299) :
    Obtains s name service path query c standIn w (.ok bytes)
      (w.afterCall s name url c.outboundHeaders n)
  /-- The last answer is that the source knows nothing, and there is a stand-in. -/
  | absent {url : Url} {n : Nat} {bytes other : Bytes} {complete : Bool}
    (hcalled : Called s name service path query c w url n)
    (hlast : w.reply s name url c.outboundHeaders n = .answer 404 bytes complete)
    (hother : standIn = some other) :
    Obtains s name service path query c standIn w (.ok other)
      (w.afterCall s name url c.outboundHeaders n)
  /-- The last answer is no success, and nothing stands in for it. -/
  | refused {url : Url} {n status : Nat} {bytes : Bytes} {complete : Bool}
    (hcalled : Called s name service path query c w url n)
    (hlast : w.reply s name url c.outboundHeaders n = .answer status bytes complete)
    (hstatus : ¬ (200 ≤ status ∧ status ≤ 299)) (hnone : status = 404 → standIn = none) :
    Obtains s name service path query c standIn w
      (.error (.remote (service ++ " GET " ++ path) status
        (if complete then Bytes.lenientText bytes else "")))
      (w.afterCall s name url c.outboundHeaders n)
  /-- The last answer is a success that breaks off. -/
  | broken {url : Url} {n status : Nat} {bytes : Bytes}
    (hcalled : Called s name service path query c w url n)
    (hlast : w.reply s name url c.outboundHeaders n = .answer status bytes false)
    (hstatus : 200 ≤ status ∧ status ≤ 299) :
    Obtains s name service path query c standIn w (.error (.transport (service ++ " GET " ++ path)))
      (w.afterCall s name url c.outboundHeaders n)
  /-- The last attempt is not answered. -/
  | unanswered {url : Url} {n : Nat}
    (hcalled : Called s name service path query c w url n)
    (hlast : (w.reply s name url c.outboundHeaders n).outcome = .transportError) :
    Obtains s name service path query c standIn w (.error (.transport (service ++ " GET " ++ path)))
      (w.afterCall s name url c.outboundHeaders n)

section Ask

variable {s : Settings} {name : SourceName} {service path query : String} {c : RequestContext}
  {w : World}

/-- Nothing is sent when the path names no URL. -/
theorem ask_of_invalid {e : SourceError}
    (h : sourceUrl (service ++ " GET " ++ path) (s.host name) path query = .error e) :
    ask s name service path query c w = (.error e, w) := by
  simp only [ask, h]
  rfl

/-- A call that is made gives the body of its last reply, or the error that this reply stands
for. -/
theorem ask_of_called {url : Url} {n : Nat} (h : Called s name service path query c w url n) :
    ask s name service path query c w =
      (readBody (service ++ " GET " ++ path) (w.reply s name url c.outboundHeaders n).outcome,
        w.afterCall s name url c.outboundHeaders n) := by
  simp only [ask, h.url_eq]
  exact call_of_endsAt h.endsAt _

/-- Either the path names no URL, or a call is made. -/
theorem invalid_or_called (s : Settings) (name : SourceName) (service path query : String)
    (c : RequestContext) (w : World) :
    (∃ e, sourceUrl (service ++ " GET " ++ path) (s.host name) path query = .error e) ∨
      ∃ url n, Called s name service path query c w url n := by
  cases hurl : sourceUrl (service ++ " GET " ++ path) (s.host name) path query with
  | error e => exact .inl ⟨e, rfl⟩
  | ok url =>
    obtain ⟨n, hn⟩ := s.retry.exists_endsAt fun i =>
      (w.reply s name url c.outboundHeaders i).outcome
    exact .inr ⟨url, n, hurl, hn⟩

/-- Asking a source ends in some way. -/
theorem exists_obtains (s : Settings) (name : SourceName) (service path query : String)
    (c : RequestContext) (standIn : Option Bytes) (w : World) :
    ∃ result after, Obtains s name service path query c standIn w result after := by
  rcases invalid_or_called s name service path query c w with ⟨e, hurl⟩ | ⟨url, n, hcalled⟩
  · exact ⟨_, _, .invalid hurl⟩
  cases hlast : w.reply s name url c.outboundHeaders n with
  | closed => exact ⟨_, _, .unanswered hcalled (by rw [hlast]; rfl)⟩
  | silent => exact ⟨_, _, .unanswered hcalled (by rw [hlast]; rfl)⟩
  | answer status bytes complete =>
    by_cases hstatus : 200 ≤ status ∧ status ≤ 299
    · cases complete with
      | true => exact ⟨_, _, .body hcalled hlast hstatus⟩
      | false => exact ⟨_, _, .broken hcalled hlast hstatus⟩
    · cases hother : standIn with
      | none => exact ⟨_, _, .refused hcalled hlast hstatus fun _ => rfl⟩
      | some other =>
        by_cases hmissing : status = 404
        · subst hmissing
          exact ⟨_, _, .absent hcalled hlast rfl⟩
        · exact ⟨_, _, .refused hcalled hlast hstatus fun h => absurd h hmissing⟩

/-- A path that names no URL is not taken for a source that knows nothing. -/
theorem isNotFound_of_sourceUrl {endpoint : String} {host : Url} {e : SourceError}
    (h : sourceUrl endpoint host path query = .error e) : e.isNotFound = false := by
  unfold sourceUrl at h
  split at h
  · obtain rfl := Except.error.inj h
    rfl
  · cases h

/-- A body that was obtained needs no stand-in. -/
theorem orIfNotFound_of_ok {allowed : Bool} {other bytes : Bytes} {act : Action SourceError Bytes}
    {after : World} (h : act w = (.ok bytes, after)) :
    orIfNotFound allowed other act w = (.ok bytes, after) := by
  simp only [orIfNotFound, h]

/-- The stand-in takes the place of a body that the source does not know. -/
theorem orIfNotFound_of_absent {other : Bytes} {act : Action SourceError Bytes} {e : SourceError}
    {after : World} (h : act w = (.error e, after)) (he : e.isNotFound = true) :
    orIfNotFound true other act w = (.ok other, after) := by
  simp only [orIfNotFound, h, he, Bool.and_self, if_true]

/-- Any other error stays, and so does this one where no stand-in is allowed. -/
theorem orIfNotFound_of_error {allowed : Bool} {other : Bytes} {act : Action SourceError Bytes}
    {e : SourceError} {after : World} (h : act w = (.error e, after))
    (he : e.isNotFound = true → allowed = false) :
    orIfNotFound allowed other act w = (.error e, after) := by
  have hkept : (allowed && e.isNotFound) = false := by
    rw [Bool.and_eq_false_iff, or_comm]
    exact (Bool.eq_false_or_eq_true e.isNotFound).symm.imp id he
  simp only [orIfNotFound, h, hkept, Bool.false_eq_true, if_false]

/-- A source is asked as the list says. -/
theorem orIfNotFound_of_obtains (allowed : Bool) {other : Bytes}
    {result : Except SourceError Bytes} {after : World}
    (h : Obtains s name service path query c (if allowed then some other else none) w result
      after) :
    orIfNotFound allowed other (ask s name service path query c) w = (result, after) := by
  cases h with
  | invalid hurl =>
    refine orIfNotFound_of_error (ask_of_invalid hurl) fun he => ?_
    rw [isNotFound_of_sourceUrl hurl] at he
    cases he
  | body hcalled hlast hstatus =>
    have hask := ask_of_called hcalled
    rw [hlast, Reply.outcome, readBody, if_pos hstatus, if_pos rfl] at hask
    exact orIfNotFound_of_ok hask
  | absent hcalled hlast hother =>
    have hask := ask_of_called hcalled
    rw [hlast, Reply.outcome, readBody, if_neg (by decide)] at hask
    cases allowed with
    | false => cases hother
    | true =>
      obtain rfl := Option.some.inj hother
      exact orIfNotFound_of_absent hask rfl
  | refused hcalled hlast hstatus hnone =>
    have hask := ask_of_called hcalled
    rw [hlast, Reply.outcome, readBody, if_neg hstatus] at hask
    refine orIfNotFound_of_error hask fun he => ?_
    obtain ⟨_, _, heq⟩ := SourceError.isNotFound_eq_true_iff.1 he
    have hnothing := hnone (SourceError.remote.inj heq).2.1
    cases allowed with
    | false => rfl
    | true => cases hnothing
  | broken hcalled hlast hstatus =>
    have hask := ask_of_called hcalled
    rw [hlast, Reply.outcome, readBody, if_pos hstatus, if_neg Bool.false_ne_true] at hask
    exact orIfNotFound_of_error hask nofun
  | unanswered hcalled hlast =>
    have hask := ask_of_called hcalled
    rw [hlast, readBody] at hask
    exact orIfNotFound_of_error hask nofun

/-- A source is called, or the world stays as it is. -/
theorem Obtains.after_cases {standIn : Option Bytes} {result : Except SourceError Bytes}
    {after : World} (h : Obtains s name service path query c standIn w result after) :
    after = w ∨ ∃ url n, Called s name service path query c w url n ∧
      after = w.afterCall s name url c.outboundHeaders n := by
  cases h with
  | invalid hurl => exact .inl rfl
  | body hcalled hlast hstatus => exact .inr ⟨_, _, hcalled, rfl⟩
  | absent hcalled hlast hother => exact .inr ⟨_, _, hcalled, rfl⟩
  | refused hcalled hlast hstatus hnone => exact .inr ⟨_, _, hcalled, rfl⟩
  | broken hcalled hlast hstatus => exact .inr ⟨_, _, hcalled, rfl⟩
  | unanswered hcalled hlast => exact .inr ⟨_, _, hcalled, rfl⟩

/-- Asking a source leaves the store alone. -/
theorem Obtains.store {standIn : Option Bytes} {result : Except SourceError Bytes} {after : World}
    (h : Obtains s name service path query c standIn w result after) : after.store = w.store := by
  rcases h.after_cases with rfl | ⟨url, n, -, rfl⟩
  · rfl
  · exact World.store_afterCall w s name url c.outboundHeaders n

/-- What is received while a source is asked is received by that source, as one request that is
sent again with every attempt. -/
theorem Obtains.received {standIn : Option Bytes} {result : Except SourceError Bytes}
    {after : World} (h : Obtains s name service path query c standIn w result after) :
    ∃ sent, after.received = w.received ++ sent ∧
      ∀ x ∈ sent, IsRequest s name service path query c x := by
  rcases h.after_cases with rfl | ⟨url, n, hcalled, rfl⟩
  · exact ⟨[], (List.append_nil _).symm, List.forall_mem_nil _⟩
  · refine ⟨_, World.received_afterCall .., fun x hx => ?_⟩
    obtain ⟨hsource, htarget, hheaders⟩ := World.of_mem_sent hx
    exact ⟨hsource, hheaders, url, hcalled.url_eq, htarget⟩

end Ask

end GatewayConfig.Telemetry
