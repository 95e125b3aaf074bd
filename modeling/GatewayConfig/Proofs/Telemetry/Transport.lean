import GatewayConfig.Proofs.Telemetry.Pipeline

/-!
# Calls that fail for want of an answer

Whether an answer arrives is seen attempt by attempt, but its body is read only when the attempts
are over. So a success that breaks off inside its body ends the call at once, though it is reported
like an answer that never came. `spent_iff_of_transport` says that this is the one case in which
such a report comes before the attempts are used up.
-/

namespace GatewayConfig.Telemetry

namespace Outcome

/-- A success whose body breaks off. -/
def BreaksOff (o : Outcome) : Prop :=
  ∃ status body, o = .response status body false ∧ 200 ≤ status ∧ status ≤ 299

/-- A failure that another attempt may mend: no whole answer arrived, or the source was in
trouble. -/
def IsPassing (o : Outcome) : Prop :=
  o = .transportError ∨ o.BreaksOff ∨
    ∃ status body complete, o = .response status body complete ∧ 500 ≤ status ∧ status ≤ 599

/-- The attempts go on after a missing answer and after a status of the range 500 to 599. -/
theorem isFinal_eq_false_iff {o : Outcome} :
    o.isFinal = false ↔ o = .transportError ∨
      ∃ status body complete, o = .response status body complete ∧ 500 ≤ status ∧ status ≤ 599 := by
  cases o with
  | transportError => simp [isFinal]
  | response status body complete => simp [isFinal]

/-- An outcome that is not final is passing: a transport error or a status of a server in
trouble. -/
theorem isPassing_of_not_isFinal {o : Outcome} (h : o.isFinal = false) : o.IsPassing :=
  (isFinal_eq_false_iff.1 h).imp_right .inr

/-- A success that breaks off ends the attempts all the same. -/
theorem BreaksOff.isFinal {o : Outcome} (h : o.BreaksOff) : o.isFinal = true := by
  obtain ⟨status, body, rfl, -, hstatus⟩ := h
  exact Bool.or_eq_true_iff.2 (.inl (decide_eq_true (by omega)))

end Outcome

/-- What the last outcome must be for a call to fail for want of an answer. -/
theorem readBody_eq_transport_iff {endpoint : String} {o : Outcome} :
    readBody endpoint o = .error (.transport endpoint) ↔ o = .transportError ∨ o.BreaksOff := by
  cases o with
  | transportError => simp [readBody]
  | response status body complete =>
    by_cases hstatus : 200 ≤ status ∧ status ≤ 299
    · cases complete <;> simp [readBody, hstatus, Outcome.BreaksOff]
    · simp [readBody, hstatus, Outcome.BreaksOff]

section Calls

variable {s : Settings} {name : SourceName} {endpoint : String} {url : Url}
  {headers : List (String × String)} {w : World}

/-- How the attempts of a call would end, if all were made. -/
def World.outcome (w : World) (s : Settings) (name : SourceName) (url : Url)
    (headers : List (String × String)) (n : Nat) : Outcome :=
  (w.reply s name url headers n).outcome

/-- The attempts of a call. -/
def World.attempts (w : World) (s : Settings) (name : SourceName) (url : Url)
    (headers : List (String × String)) : Attempts :=
  s.retry.run (w.outcome s name url headers)

/-- A call has used up its attempts. -/
structure Spent (s : Settings) (name : SourceName) (url : Url) (headers : List (String × String))
    (w after : World) : Prop where
  /-- All that the policy allows were made. -/
  calls : (w.attempts s name url headers).calls = s.retry.maxRetries + 1
  /-- Each but the last was followed by the wait of the policy. -/
  waits : (w.attempts s name url headers).waits =
    (List.range s.retry.maxRetries).map s.retry.delay
  /-- Each but the last failed in a way that another attempt may mend. -/
  earlier : ∀ i < s.retry.maxRetries, (w.outcome s name url headers i).IsPassing
  /-- A source that hears the call has received one request for each. -/
  received : after.received = w.received ++ w.sent s name url headers s.retry.maxRetries

/-- The attempts of a call, when it is known which of them is the last. -/
theorem attempts_of_endsAt {n : Nat} (h : s.retry.EndsAt (w.outcome s name url headers) n) :
    w.attempts s name url headers =
      ⟨w.outcome s name url headers n, n + 1, (List.range n).map s.retry.delay⟩ :=
  RetryPolicy.run_of_endsAt h

/-- A call fails for want of an answer when none arrives at its last attempt, or a success that
breaks off. -/
theorem call_eq_transport_iff {n : Nat} (h : s.retry.EndsAt (w.outcome s name url headers) n) :
    (call s name endpoint url headers w).1 = .error (.transport endpoint) ↔
      w.outcome s name url headers n = .transportError ∨
        (w.outcome s name url headers n).BreaksOff := by
  rw [call_of_endsAt h]
  exact readBody_eq_transport_iff

/-- A call whose last attempt is the last one allowed is spent. -/
theorem spent_of_endsAt (h : s.retry.EndsAt (w.outcome s name url headers) s.retry.maxRetries) :
    Spent s name url headers w (call s name endpoint url headers w).2 := by
  constructor
  case calls => rw [attempts_of_endsAt h]
  case waits => rw [attempts_of_endsAt h]
  case earlier => exact fun i hi => Outcome.isPassing_of_not_isFinal (h.earlier i hi)
  case received => rw [call_of_endsAt h, World.received_afterCall]

/-- A call that fails for want of an answer ends with some attempt, after the policy's waits and
with only missing answers and troubled sources before it. Its attempts are used up exactly when
none of those before the last one allowed is met with a success that breaks off: with such a
success the call ends. -/
theorem spent_iff_of_transport (s : Settings) (name : SourceName) (endpoint : String) (url : Url)
    (headers : List (String × String)) (w : World)
    (h : (call s name endpoint url headers w).1 = .error (.transport endpoint)) :
    (Spent s name url headers w (call s name endpoint url headers w).2 ↔
      ∀ i < s.retry.maxRetries, ¬ (w.outcome s name url headers i).BreaksOff) ∧
    ∃ n, s.retry.EndsAt (w.outcome s name url headers) n ∧
      w.attempts s name url headers =
        ⟨w.outcome s name url headers n, n + 1, (List.range n).map s.retry.delay⟩ ∧
      (call s name endpoint url headers w).2 = w.afterCall s name url headers n ∧
      (n < s.retry.maxRetries → (w.outcome s name url headers n).BreaksOff) := by
  obtain ⟨n, hn⟩ := s.retry.exists_endsAt (w.outcome s name url headers)
  have hlast := (call_eq_transport_iff hn).1 h
  have hbroken : n < s.retry.maxRetries → (w.outcome s name url headers n).BreaksOff := by
    intro hlt
    have hfinal := hn.last.resolve_left (Nat.ne_of_lt hlt)
    refine hlast.resolve_left fun hnone => ?_
    rw [hnone] at hfinal
    cases hfinal
  refine ⟨⟨fun hspent i hi hi' => ?_, fun hwhole => ?_⟩, n, hn, attempts_of_endsAt hn, ?_, hbroken⟩
  · have hcalls := hspent.calls
    rw [attempts_of_endsAt hn] at hcalls
    obtain rfl : n = s.retry.maxRetries := Nat.succ.inj hcalls
    have hgoes := hn.earlier i hi
    rw [hi'.isFinal] at hgoes
    cases hgoes
  · have hmax : n = s.retry.maxRetries := by
      refine Nat.le_antisymm hn.allowed (Nat.le_of_not_lt fun hlt => ?_)
      exact hwhole n hlt (hbroken hlt)
    rw [hmax] at hn
    exact spent_of_endsAt hn
  · rw [call_of_endsAt hn]

end Calls

/-- A world in which the primary source is never heard of. -/
def quietWorld : World where
  primary := { script := fun _ => .closed }
  secondary := { script := fun _ => .closed }

/-- A source that closes every connection uses up both attempts of a call. -/
theorem spent_iff_of_transport_quiet :
    (call oneHost .primary "xconf" baseUrl [] quietWorld).1 = .error (.transport "xconf") ∧
      Spent oneHost .primary baseUrl [] quietWorld
        (call oneHost .primary "xconf" baseUrl [] quietWorld).2 := by
  have hcall : (call oneHost .primary "xconf" baseUrl [] quietWorld).1 =
      .error (.transport "xconf") := by decide +kernel
  obtain ⟨hspent, -⟩ := spent_iff_of_transport oneHost .primary "xconf" baseUrl [] quietWorld hcall
  refine ⟨hcall, hspent.2 fun i hi => ?_⟩
  obtain rfl : i = 0 := Nat.lt_one_iff.1 hi
  rintro ⟨status, body, hbroken, -⟩
  have hnone : quietWorld.outcome oneHost .primary baseUrl [] 0 = .transportError := by
    decide +kernel
  rw [hnone] at hbroken
  cases hbroken

/-- A world in which every success of the primary source breaks off. -/
def brokenWorld : World where
  primary := { script := fun _ => .answer 200 (Bytes.ofText "\x7b") false }
  secondary := { script := fun _ => .closed }

/-- A success that breaks off is reported like a missing answer after the first attempt, with
another one left. -/
theorem broken_not_spent :
    (call oneHost .primary "xconf" baseUrl [] brokenWorld).1 = .error (.transport "xconf") ∧
      (call oneHost .primary "xconf" baseUrl [] brokenWorld).2.received.length = 1 ∧
      ¬ Spent oneHost .primary baseUrl [] brokenWorld
        (call oneHost .primary "xconf" baseUrl [] brokenWorld).2 := by
  have hcall : (call oneHost .primary "xconf" baseUrl [] brokenWorld).1 =
      .error (.transport "xconf") := by decide +kernel
  refine ⟨hcall, by decide +kernel, fun hspent => ?_⟩
  have hcalls : (brokenWorld.attempts oneHost .primary baseUrl []).calls = 1 := by decide +kernel
  rw [hspent.calls] at hcalls
  cases hcalls

end GatewayConfig.Telemetry
