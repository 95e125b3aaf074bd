import GatewayConfig.Proofs.Telemetry.Transport
import Mathlib.Order.Bounds.Basic

/-!
# How many attempts a call makes

A call is over with the first attempt that is answered with a status outside 500 to 599, or with
the last one that is allowed. `attempts_isLeast` says that no attempt is made after that one, that
the policy's waits pass between the attempts and none behind the last, and what the outcome of the
last attempt is reported as.
-/

namespace GatewayConfig.Telemetry

/-- An answer arrived, with a status that another attempt would not change. -/
def Outcome.Settles (o : Outcome) : Prop :=
  ∃ status body complete, o = .response status body complete ∧ ¬ (500 ≤ status ∧ status ≤ 599)

/-- The test of the loop decides whether an outcome settles a call. -/
theorem Outcome.isFinal_eq_true_iff {o : Outcome} : o.isFinal = true ↔ o.Settles := by
  cases o with
  | transportError => simp [isFinal, Settles]
  | response status body complete =>
    simp only [isFinal, Bool.or_eq_true, decide_eq_true_eq, Settles, response.injEq]
    constructor
    · exact fun h => ⟨status, body, complete, ⟨rfl, rfl, rfl⟩, by omega⟩
    · rintro ⟨_, _, _, ⟨rfl, -, -⟩, h⟩
      omega

namespace RetryPolicy

/-- The attempts that a call may end with, when each ends as the outcomes say: those that settle it
while another one is allowed, and the last one allowed. -/
def stops (p : RetryPolicy) (outcomes : Nat → Outcome) : Set Nat :=
  {i | i < p.maxRetries ∧ (outcomes i).Settles ∨ i = p.maxRetries}

variable {p : RetryPolicy} {outcomes others : Nat → Outcome} {k : Nat}

/-- A call ends with the first attempt that it may end with. -/
theorem endsAt_iff_isLeast : p.EndsAt outcomes k ↔ IsLeast (p.stops outcomes) k := by
  constructor
  · intro h
    refine ⟨?_, ?_⟩
    · rcases h.last with hlast | hfinal
      · exact .inr hlast
      rcases Nat.lt_or_eq_of_le h.allowed with hlt | heq
      · exact .inl ⟨hlt, Outcome.isFinal_eq_true_iff.1 hfinal⟩
      · exact .inr heq
    · rintro i (⟨-, hsettles⟩ | rfl)
      · by_contra hless
        have hgoes := h.earlier i (Nat.lt_of_not_le hless)
        rw [Outcome.isFinal_eq_true_iff.2 hsettles] at hgoes
        cases hgoes
      · exact h.allowed
  · rintro ⟨hstop, hleast⟩
    have hallowed : k ≤ p.maxRetries := hleast (.inr rfl)
    refine ⟨hallowed, fun i hi => ?_, ?_⟩
    · rw [Bool.eq_false_iff]
      intro hfinal
      have hbefore : i < p.maxRetries := Nat.lt_of_lt_of_le hi hallowed
      have hle := hleast (.inl ⟨hbefore, Outcome.isFinal_eq_true_iff.1 hfinal⟩)
      exact absurd hi (Nat.not_lt.2 hle)
    · rcases hstop with ⟨-, hsettles⟩ | heq
      · exact .inr (Outcome.isFinal_eq_true_iff.2 hsettles)
      · exact .inl heq

/-- Whether a call is over with an attempt depends on no later one. -/
theorem EndsAt.congr (h : p.EndsAt outcomes k) (heq : ∀ i ≤ k, others i = outcomes i) :
    p.EndsAt others k := by
  refine ⟨h.allowed, fun i hi => ?_, ?_⟩
  · rw [heq i (Nat.le_of_lt hi)]
    exact h.earlier i hi
  · rw [heq k (Nat.le_refl k)]
    exact h.last

/-- So the outcomes behind the last attempt make no difference. -/
theorem run_congr (h : p.EndsAt outcomes k) (heq : ∀ i ≤ k, others i = outcomes i) :
    p.run others = p.run outcomes := by
  rw [run_of_endsAt h, run_of_endsAt (h.congr heq), heq k (Nat.le_refl k)]

end RetryPolicy

/-- When the attempts start whose first one starts at the given time, if each takes its cost and
the wait behind it passes before the next. -/
def startOf (cost : Nat → Nat) (delay : Nat → Duration) (time : Nat) : Nat → Nat
  | 0 => time
  | i + 1 => startOf cost delay time i + cost i + (delay i).toNanos

/-- A timeline has the start of each attempt, and ends when the last one is over. -/
theorem timeline_eq (cost : Nat → Nat) (delay : Nat → Duration) (time k n : Nat) :
    timeline cost ((List.range' n k).map delay) n (startOf cost delay time n) =
      ((List.range' n (k + 1)).map (startOf cost delay time),
        startOf cost delay time (n + k) + cost (n + k)) := by
  induction k generalizing n with
  | zero => rfl
  | succ k ih =>
    have hnext : startOf cost delay time n + cost n + (delay n).toNanos =
        startOf cost delay time (n + 1) := rfl
    have hshift : n + 1 + k = n + (k + 1) := by omega
    rw [List.range'_succ, List.map_cons, timeline, hnext, ih, List.range'_succ (n := k + 1),
      List.map_cons, hshift]

section Calls

variable {s : Settings} {name : SourceName} {endpoint : String} {url : Url}
  {headers : List (String × String)} {w : World} {k : Nat}

/-- When an attempt of a call starts. -/
def World.attemptStart (w : World) (s : Settings) (name : SourceName) (url : Url)
    (headers : List (String × String)) : Nat → Nat :=
  startOf (fun i => attemptCost s (w.reply s name url headers i)) s.retry.delay w.clock

/-- The times of a call are those at which its attempts start, and the end of the last attempt. -/
theorem schedule_eq :
    w.schedule s name url headers k =
      ((List.range (k + 1)).map (w.attemptStart s name url headers),
        w.attemptStart s name url headers k +
          attemptCost s (w.reply s name url headers k)) := by
  have htimeline := timeline_eq (fun i => attemptCost s (w.reply s name url headers i))
    s.retry.delay w.clock k 0
  rw [Nat.zero_add, ← List.range_eq_range', ← List.range_eq_range'] at htimeline
  exact htimeline

/-- What a call reports of the outcome of its last attempt. -/
structure Conveys (endpoint : String) (o : Outcome) (result : Except SourceError Bytes) :
    Prop where
  /-- The body of a success that arrived as a whole. -/
  body : ∀ b, result = .ok b ↔
    ∃ status, o = .response status b true ∧ 200 ≤ status ∧ status ≤ 299
  /-- The status of any other answer. -/
  status : ∀ status, (∃ text, result = .error (.remote endpoint status text)) ↔
    ∃ b complete, o = .response status b complete ∧ ¬ (200 ≤ status ∧ status ≤ 299)
  /-- The want of an answer, or of the whole of it. -/
  transport : result = .error (.transport endpoint) ↔ o = .transportError ∨ o.BreaksOff

/-- What is read of the last outcome conveys it: a body that broke off is reported as a transport
error. -/
theorem conveys_readBody (endpoint : String) (o : Outcome) :
    Conveys endpoint o (readBody endpoint o) := by
  refine ⟨fun b => ?_, fun status => ?_, readBody_eq_transport_iff⟩
  · cases o with
    | transportError => simp [readBody]
    | response status body complete =>
      by_cases hstatus : 200 ≤ status ∧ status ≤ 299
      · cases complete <;> simp [readBody, hstatus]
      · simp only [readBody, hstatus, if_false, reduceCtorEq, false_iff]
        rintro ⟨_, heq, hsuccess⟩
        exact hstatus ((Outcome.response.inj heq).1 ▸ hsuccess)
  · cases o with
    | transportError => simp [readBody]
    | response found body complete =>
      by_cases hfound : 200 ≤ found ∧ found ≤ 299
      · have hnone : ¬ ∃ b c, Outcome.response found body complete = .response status b c ∧
            ¬ (200 ≤ status ∧ status ≤ 299) := by
          rintro ⟨_, _, heq, hother⟩
          exact hother ((Outcome.response.inj heq).1 ▸ hfound)
        rw [iff_false_right hnone]
        cases complete <;> simp [readBody, hfound]
      · simp only [readBody, hfound, if_false]
        constructor
        · rintro ⟨_, heq⟩
          obtain ⟨-, rfl, -⟩ := SourceError.remote.inj (Except.error.inj heq)
          exact ⟨body, complete, rfl, hfound⟩
        · rintro ⟨_, _, heq, -⟩
          obtain ⟨rfl, -⟩ := Outcome.response.inj heq
          exact ⟨_, rfl⟩

/-- A call that ends with the given attempt: what it returns and what it leaves behind. -/
structure Concludes (s : Settings) (name : SourceName) (endpoint : String) (url : Url)
    (headers : List (String × String)) (w : World) (k : Nat)
    (run : Except SourceError Bytes × World) : Prop where
  /-- It reports the outcome of that attempt. -/
  result : Conveys endpoint (w.outcome s name url headers k) run.1
  /-- A source that hears the call receives each attempt up to that one, at its time. -/
  received : run.2.received = w.received ++ if w.hears s name url headers then
    (List.range (k + 1)).map fun i =>
      ⟨name, url.target, headers, w.attemptStart s name url headers i⟩ else []
  /-- It is over when that attempt is. -/
  clock : run.2.clock =
    w.attemptStart s name url headers k + attemptCost s (w.reply s name url headers k)

/-- A call concludes with the attempt that its outcomes end at, whatever comes after that one. -/
theorem concludes_call (h : s.retry.EndsAt (w.outcome s name url headers) k) :
    Concludes s name endpoint url headers w k (call s name endpoint url headers w) := by
  rw [call_of_endsAt h endpoint]
  refine ⟨conveys_readBody endpoint _, ?_, ?_⟩
  · rw [World.received_afterCall, World.sent, schedule_eq, List.map_map]
    rfl
  · rw [World.afterCall, schedule_eq]

end Calls

/-- Let `k` be the first attempt below the limit that is answered with a status outside 500 to 599,
or the limit if there is none. Then the attempts are `k + 1`, the waits between them are those of
the policy in order, with none behind the last attempt, and their outcome is that of attempt `k`.
Outcomes behind it make no difference, so an answer below 500 ends the attempts wherever it comes.
For a call of a source this says what the source receives and when, and which result is
returned. -/
theorem attempts_isLeast :
    (∀ (p : RetryPolicy) (outcomes : Nat → Outcome), ∃ k, IsLeast (p.stops outcomes) k ∧
      p.run outcomes = ⟨outcomes k, k + 1, (List.range k).map p.delay⟩ ∧
      (∀ i ≤ p.maxRetries, (outcomes i).Settles → k ≤ i) ∧
      ∀ others, (∀ i ≤ k, others i = outcomes i) → p.run others = p.run outcomes) ∧
    ∀ (s : Settings) (name : SourceName) (endpoint : String) (url : Url)
      (headers : List (String × String)) (w : World),
      ∃ k, IsLeast (s.retry.stops (w.outcome s name url headers)) k ∧
        Concludes s name endpoint url headers w k (call s name endpoint url headers w) := by
  constructor
  · intro p outcomes
    obtain ⟨k, hk⟩ := p.exists_endsAt outcomes
    have hleast := RetryPolicy.endsAt_iff_isLeast.1 hk
    refine ⟨k, hleast, RetryPolicy.run_of_endsAt hk, fun i hi hsettles => ?_,
      fun others => RetryPolicy.run_congr hk⟩
    rcases Nat.lt_or_eq_of_le hi with hlt | heq
    · exact hleast.2 (.inl ⟨hlt, hsettles⟩)
    · exact hleast.2 (.inr heq)
  · intro s name endpoint url headers w
    obtain ⟨k, hk⟩ := s.retry.exists_endsAt (w.outcome s name url headers)
    exact ⟨k, RetryPolicy.endsAt_iff_isLeast.1 hk, concludes_call hk⟩

/-- Outcomes of a source that does not answer, then is in trouble, and then knows nothing. -/
def faltering : Nat → Outcome
  | 0 => .transportError
  | 1 => .response 503 [] true
  | 2 => .response 404 [] true
  | _ => .response 200 [] true

/-- A call with three retries makes three attempts of them, whatever would come next. And where a
source closes the first connection and then knows nothing, it receives two requests. -/
theorem attempts_isLeast_faltering :
    (∀ others, (∀ i ≤ 2, others i = faltering i) →
      RetryPolicy.run {} others = ⟨.response 404 [] true, 3, [.ofMillis 200, .ofMillis 400]⟩) ∧
    (∃ text, (call oneHost .primary "xconf" baseUrl [] nothingKnown).1 =
      .error (.remote "xconf" 404 text)) ∧
    (call oneHost .primary "xconf" baseUrl [] nothingKnown).2.received.length = 2 := by
  obtain ⟨hruns, hcalls⟩ := attempts_isLeast
  constructor
  · intro others hsame
    obtain ⟨k, hleast, hrun, hfirst, hothers⟩ := hruns {} faltering
    have hsettles : (faltering 2).Settles := ⟨404, [], true, rfl, by decide⟩
    have hle : k ≤ 2 := hfirst 2 (by decide) hsettles
    obtain rfl : k = 2 := by
      rcases hleast.1 with ⟨-, status, body, complete, heq, hstatus⟩ | hlast
      · match k, hle with
        | 0, _ => cases heq
        | 1, _ =>
          obtain ⟨rfl, -⟩ := Outcome.response.inj heq
          exact absurd (by decide) hstatus
        | 2, _ => rfl
      · rw [hlast] at hle
        exact absurd hle (by decide)
    rw [hothers others hsame, hrun]
    decide
  · obtain ⟨k, hleast, hend⟩ := hcalls oneHost .primary "xconf" baseUrl [] nothingKnown
    obtain rfl : k = 1 := by
      rcases hleast.1 with ⟨hlt, status, body, complete, heq, -⟩ | hlast
      · obtain rfl : k = 0 := Nat.lt_one_iff.1 hlt
        have hclosed : nothingKnown.outcome oneHost .primary baseUrl [] 0 = .transportError := by
          decide +kernel
        rw [hclosed] at heq
        cases heq
      · exact hlast
    have hanswer : nothingKnown.outcome oneHost .primary baseUrl [] 1 = .response 404 [] true := by
      decide +kernel
    refine ⟨(hend.result.status 404).2 ⟨[], true, hanswer, by decide⟩, ?_⟩
    have hheard : nothingKnown.hears oneHost .primary baseUrl [] = true := by decide +kernel
    rw [hend.received, if_pos hheard, List.length_append, List.length_map, List.length_range]
    rfl

end GatewayConfig.Telemetry
