import Mathlib.Algebra.Group.Nat.Defs
import Mathlib.Order.Nat
import TaskDesk.Api.Flight

/-!
# Requests that are sent again

Which attempts a request makes can be said ahead from the policy and from what the backend answers:
attempts follow each other, each one a delay after the outcome of the one before, up to the first
outcome that ends the request. The policy counts the attempts that are left and the delays are
counted from the first attempt, so the world before an attempt is described by its number alone.

## Main definitions

- `IsRetryable` — the outcomes worth another attempt
- `World.outcome`, `World.sendTime` — what the backend answers to an attempt, and when it is made
- `World.beforeAttempt` — the world when all attempts before an attempt have failed
- `FlightNext.Lands` — a flight beside which nothing else happens
- `FlightNext.Sends` — what a flight sends, whatever happens beside it

## Main results

- `RetryPolicy.delay_eq` — the delay after an attempt, without a limit on the numbers
- `World.request_schedule` — how often and when a request is sent, and what the call answers
- `World.lands_launch` — a flight makes the same attempts as a request that is waited for
- `World.sends_launch` — all attempts of a flight carry the header that it took off with
-/

namespace TaskDesk

/-- An outcome worth another attempt. -/
def IsRetryable : Except ApiError ApiResponse → Prop
  | .ok r => r.status ∈ [429, 500, 502, 503, 504]
  | .error e => e.kind = .network ∨ e.kind = .timeout

instance : DecidablePred IsRetryable
  | .ok r => inferInstanceAs (Decidable (r.status ∈ [429, 500, 502, 503, 504]))
  | .error e => inferInstanceAs (Decidable (e.kind = .network ∨ e.kind = .timeout))

theorem isRetryable_ok {r : ApiResponse} : IsRetryable (.ok r) ↔ isRetryableStatus r.status :=
  List.contains_iff_mem.symm

theorem isRetryable_error {e : ApiError} : IsRetryable (.error e) ↔ e.isTransient := by
  simp [IsRetryable, ApiError.isTransient]

namespace RetryPolicy

/-! ## Delays -/

theorem toNat_factor (attempt : Nat) : (factor attempt).toNat = min (2 ^ attempt) (2 ^ 32 - 1) := by
  unfold factor
  split
  · next h =>
    have hlt : 2 ^ attempt < 2 ^ 32 := Nat.pow_lt_pow_right (by decide) h
    rw [Nat.one_shiftLeft, UInt32.toNat_ofNat_of_lt' hlt,
      Nat.min_eq_left (Nat.le_sub_one_of_lt hlt)]
  · next h =>
    have hle : 2 ^ 32 ≤ 2 ^ attempt := Nat.pow_le_pow_right (by decide) (Nat.le_of_not_lt h)
    rw [Nat.min_eq_right (Nat.le_trans (Nat.sub_le _ _) hle)]
    rfl

/-- A multiple that cannot be told is longer than every delay that can, so the greatest delay of
the policy stands for it rightly. -/
theorem delay_eq {p : RetryPolicy} (h : p.maxDelay ≤ longestDelay) (attempt : Nat) :
    p.delay attempt = min p.maxDelay (p.baseDelay * min (2 ^ attempt) (2 ^ 32 - 1)) := by
  rw [delay, multiple?, toNat_factor, Nat.min_comm]
  split
  · rfl
  · next hlong =>
    rw [Option.getD_none, Nat.min_self, Nat.min_eq_left]
    exact Nat.le_trans h (Nat.le_of_not_le hlong)

/-! ## Verdicts -/

/-- What a call answers whose last outcome is known. -/
def answer (p : RetryPolicy) : Except ApiError ApiResponse → Except ApiError ApiResponse
  | .ok r =>
    if r.status = 401 ∧ p.dropRejected then .error ⟨.authInvalid, r.errorMessage⟩ else .ok r
  | .error e => .error e

/-- What a last outcome leaves of the world. -/
def leave {κ : Type} [Vault κ] (p : RetryPolicy) (auth : Auth) (w : World κ) :
    Except ApiError ApiResponse → World κ
  | .ok r => if r.status = 401 ∧ p.dropRejected then w.reject auth else w
  | .error _ => w

theorem leave_attempts {κ : Type} [Vault κ] (p : RetryPolicy) (auth : Auth) (w : World κ)
    (o : Except ApiError ApiResponse) : (p.leave auth w o).attempts = w.attempts := by
  cases o with
  | error e => rfl
  | ok r =>
    simp only [leave]
    split
    · unfold World.reject
      split <;> rfl
    · rfl

section Ending

variable {κ : Type} [Vault κ] {p : RetryPolicy} {o : Except ApiError ApiResponse}

/-- A last outcome that costs no credential is what the call answers. -/
theorem answer_of_kept (h : ∀ r, o = .ok r → r.status = 401 → p.dropRejected = false) :
    p.answer o = o := by
  cases o with
  | error e => rfl
  | ok r => exact if_neg fun ⟨h401, hdrop⟩ => by simp [h r rfl h401] at hdrop

theorem leave_of_kept (h : ∀ r, o = .ok r → r.status = 401 → p.dropRejected = false)
    (auth : Auth) (w : World κ) : p.leave auth w o = w := by
  cases o with
  | error e => rfl
  | ok r => exact if_neg fun ⟨h401, hdrop⟩ => by simp [h r rfl h401] at hdrop

theorem answer_of_rejected {r : ApiResponse} (h401 : r.status = 401)
    (hdrop : p.dropRejected = true) : p.answer (.ok r) = .error ⟨.authInvalid, r.errorMessage⟩ :=
  if_pos ⟨h401, hdrop⟩

theorem leave_of_rejected {r : ApiResponse} (h401 : r.status = 401)
    (hdrop : p.dropRejected = true) (auth : Auth) (w : World κ) :
    p.leave auth w (.ok r) = w.reject auth :=
  if_pos ⟨h401, hdrop⟩

end Ending

/-- With attempts left, an outcome worth it is followed by another one. -/
theorem judge_of_isRetryable {p : RetryPolicy} {left : Nat} {o : Except ApiError ApiResponse}
    (ho : IsRetryable o) (hleft : 0 < left) :
    p.judge left o = .again (p.delay (p.retries - left)) := by
  cases o with
  | error e => exact if_pos ⟨isRetryable_error.mp ho, hleft⟩
  | ok r =>
    -- A rejected credential is looked for first, and is never worth another attempt.
    have hne : r.status ≠ 401 := by
      rintro h
      rw [isRetryable_ok, h] at ho
      exact absurd ho (by decide)
    simp only [judge, if_neg hne]
    exact if_pos ⟨isRetryable_ok.mp ho, hleft⟩

/-- Every other outcome ends the call, and so does the one without attempts left: it is accepted,
it fails, or the credential is rejected. -/
theorem judge_of_not {κ : Type} [Vault κ] {p : RetryPolicy} {left : Nat}
    {o : Except ApiError ApiResponse} (h : ¬ IsRetryable o ∨ left = 0) (auth : Auth)
    (w : World κ) :
    (∃ r, p.judge left o = .accept r ∧ o = .ok r ∧ p.answer o = .ok r ∧ p.leave auth w o = w) ∨
      (∃ e, p.judge left o = .fail e ∧ o = .error e ∧ p.answer o = .error e ∧
        p.leave auth w o = w) ∨
      (∃ e, p.judge left o = .reject e ∧ p.answer o = .error e ∧
        p.leave auth w o = w.reject auth) := by
  have hnot : ¬ (IsRetryable o ∧ 0 < left) := fun ⟨ho, hleft⟩ =>
    h.elim (fun hno => hno ho) hleft.ne'
  cases o with
  | error e =>
    rw [isRetryable_error] at hnot
    exact .inr (.inl ⟨e, if_neg hnot, rfl, rfl, rfl⟩)
  | ok r =>
    rw [isRetryable_ok] at hnot
    by_cases hreject : r.status = 401 ∧ p.dropRejected
    · exact .inr (.inr ⟨_, (if_pos hreject.1).trans (if_pos hreject.2), if_pos hreject,
        if_pos hreject⟩)
    · refine .inl ⟨r, ?_, rfl, if_neg hreject, if_neg hreject⟩
      by_cases h401 : r.status = 401
      · have hkeep : ¬ p.dropRejected := fun hdrop => hreject ⟨h401, hdrop⟩
        exact (if_pos h401).trans (if_neg hkeep)
      · exact (if_neg h401).trans (if_neg hnot)

end RetryPolicy

namespace World

variable {κ : Type}

section

variable [Vault κ] {p : RetryPolicy} {request : ApiRequest} {header : Option AuthHeader}
  {left : Nat} {w : World κ}

/-- An outcome worth another attempt is followed by one, after the delay. -/
theorem exchange_of_isRetryable (h : IsRetryable (w.send request header).1) :
    exchange p request header (left + 1) w =
      exchange p request header left
        ((w.send request header).2.wait (p.delay (p.retries - (left + 1)))) := by
  rw [exchange]
  simp only [RetryPolicy.judge_of_isRetryable h left.succ_pos]

/-- The last outcome is what the call answers with. -/
theorem exchange_of_not (h : ¬ IsRetryable (w.send request header).1 ∨ left = 0) :
    exchange p request header left w =
      (p.answer (w.send request header).1,
        p.leave request.auth (w.send request header).2 (w.send request header).1) := by
  rcases RetryPolicy.judge_of_not (p := p) h request.auth (w.send request header).2 with
    ⟨r, hjudge, ho, hanswer, hleave⟩ | ⟨e, hjudge, ho, hanswer, hleave⟩ |
      ⟨e, hjudge, hanswer, hleave⟩ <;>
    rw [hanswer, hleave]
  -- Without attempts left the outcome itself is handed on, whichever of the two it is.
  · cases left with
    | zero => simp only [exchange, hjudge]; rw [ho]
    | succ left => simp only [exchange, hjudge]
  · cases left with
    | zero => simp only [exchange, hjudge]; rw [ho]
    | succ left => simp only [exchange, hjudge]
  · cases left <;> simp only [exchange, hjudge]

end

/-! ## Attempts by their numbers -/

/-- What the backend replies to an attempt, counted from zero. -/
def reply (w : World κ) (i : Nat) : Reply :=
  (w.script[i]?).getD .exhausted

/-- What comes of an attempt. -/
def outcome (w : World κ) (i : Nat) : Except ApiError ApiResponse :=
  (w.reply i).content.outcome

/-- Some attempt is the last one. -/
theorem exists_last_attempt (w : World κ) (p : RetryPolicy) :
    ∃ n, IsLeast {i | ¬ IsRetryable (w.outcome i) ∨ i = p.retries} n :=
  ⟨_, Nat.isLeast_find (p := fun i => ¬ IsRetryable (w.outcome i) ∨ i = p.retries)
    ⟨p.retries, .inr rfl⟩⟩

/-- When an attempt is made: a delay after the outcome of the attempt before it. -/
def sendTime (w : World κ) (p : RetryPolicy) : Nat → Nat
  | 0 => w.now
  | i + 1 => w.sendTime p i + (w.reply i).delay + p.delay i

/-- The world when the attempts before an attempt have come and gone. -/
def beforeAttempt (w : World κ) (p : RetryPolicy) (request : ApiRequest)
    (header : Option AuthHeader) (i : Nat) : World κ :=
  { w with
    now := w.sendTime p i
    script := w.script.drop i
    attempts := w.attempts ++
      (List.range i).map fun j => ⟨w.sendTime p j, false, request, header⟩ }

/-- The world when an attempt has its outcome. -/
def afterAttempt (w : World κ) (p : RetryPolicy) (request : ApiRequest)
    (header : Option AuthHeader) (i : Nat) : World κ :=
  { w.beforeAttempt p request header (i + 1) with now := w.sendTime p i + (w.reply i).delay }

section

variable {w : World κ} {p : RetryPolicy} {request : ApiRequest} {header : Option AuthHeader}

theorem beforeAttempt_zero : w.beforeAttempt p request header 0 = w := by
  simp [beforeAttempt, sendTime]

theorem post_eq (w : World κ) (stream : Bool) (request : ApiRequest)
    (header : Option AuthHeader) :
    w.post stream request header =
      (w.reply 0, { w with
        attempts := w.attempts ++ [⟨w.now, stream, request, header⟩]
        script := w.script.tail }) := by
  obtain ⟨now, script, attempts, vault, events⟩ := w
  cases script <;> rfl

theorem send_beforeAttempt (i : Nat) :
    (w.beforeAttempt p request header i).send request header =
      (w.outcome i, w.afterAttempt p request header i) := by
  have hreply : (w.beforeAttempt p request header i).reply 0 = w.reply i := by
    simp [reply, beforeAttempt]
  rw [send, post_eq, hreply]
  simp only [outcome, afterAttempt, beforeAttempt, wait, List.tail_drop, List.range_succ,
    List.map_append, List.map_singleton, List.append_assoc]

theorem wait_afterAttempt (i : Nat) :
    (w.afterAttempt p request header i).wait (p.delay i) =
      w.beforeAttempt p request header (i + 1) :=
  rfl

variable [Vault κ]

/-- The attempts go on up to the first outcome that ends the call. The attempts that are left say
which attempt comes next, so the induction is on them. -/
theorem exchange_beforeAttempt {n i left : Nat}
    (hn : IsLeast {i | ¬ IsRetryable (w.outcome i) ∨ i = p.retries} n) (hi : i ≤ n)
    (hleft : i + left = p.retries) :
    exchange p request header left (w.beforeAttempt p request header i) =
      (p.answer (w.outcome n),
        p.leave request.auth (w.afterAttempt p request header n) (w.outcome n)) := by
  induction left generalizing i with
  | zero =>
    have hlast : n = i := Nat.le_antisymm (hn.2 (.inr hleft)) hi
    rw [hlast, exchange_of_not (.inr rfl), send_beforeAttempt]
  | succ left ih =>
    by_cases ho : IsRetryable (w.outcome i)
    -- With attempts left, this one is not the last.
    · have hne : n ≠ i := by
        rintro rfl
        rcases hn.1 with hno | hlast
        · exact hno ho
        · omega
      have hnumber : p.retries - (left + 1) = i := by omega
      rw [exchange_of_isRetryable (by rwa [send_beforeAttempt]), send_beforeAttempt, hnumber,
        wait_afterAttempt]
      exact ih (by omega) (by omega)
    · have hfirst : n = i := Nat.le_antisymm (hn.2 (.inl ho)) hi
      rw [hfirst, exchange_of_not (.inl (by rwa [send_beforeAttempt])), send_beforeAttempt]

end

/-! ## A whole request -/

variable [Vault κ]

theorem header?_eq_error {w : World κ} {auth : Auth} {scope : Scope} (h : auth.scope? = some scope)
    (hget : Vault.get w.vault scope = none) :
    w.header? auth = .error (.missingCredential scope) := by
  cases auth with
  | none => cases h
  | explicit token => cases h
  | bearer scope' =>
    cases h
    simp only [header?, hget]
  | key scope' =>
    cases h
    simp only [header?, hget]

theorem exists_header?_eq_ok {w : World κ} {auth : Auth}
    (h : ∀ scope, auth.scope? = some scope → Vault.get w.vault scope ≠ none) :
    ∃ header, w.header? auth = .ok header := by
  cases auth with
  | none => exact ⟨_, rfl⟩
  | explicit token => exact ⟨_, rfl⟩
  | bearer scope =>
    obtain ⟨secret, hsecret⟩ := Option.ne_none_iff_exists'.mp (h scope rfl)
    exact ⟨some (.bearer secret), by simp only [header?, hsecret]⟩
  | key scope =>
    obtain ⟨secret, hsecret⟩ := Option.ne_none_iff_exists'.mp (h scope rfl)
    exact ⟨some (.key secret), by simp only [header?, hsecret]⟩

/-- The answer to a request and the world behind it, said by the number of the last attempt. -/
theorem request_eq {w : World κ} {p : RetryPolicy} {request : ApiRequest}
    {header : Option AuthHeader} {n : Nat} (hheader : w.header? request.auth = .ok header)
    (hn : IsLeast {i | ¬ IsRetryable (w.outcome i) ∨ i = p.retries} n) :
    w.request p request =
      (p.answer (w.outcome n),
        p.leave request.auth (w.afterAttempt p request header n) (w.outcome n)) := by
  have hexchange : exchange p request header p.retries (w.beforeAttempt p request header 0) = _ :=
    exchange_beforeAttempt hn n.zero_le (Nat.zero_add p.retries)
  rw [beforeAttempt_zero] at hexchange
  simp only [World.request, hheader]
  exact hexchange

/-- A request whose credential is missing fails and is not sent. Any other one is sent up to the
first outcome that is not worth another attempt, or as often as the policy allows; all attempts are
the same but for their times, where each one follows the outcome of the one before after the delay
of its number. The call answers with the last outcome, unless that rejects the credential and the
policy drops it. Every policy has delays that can be told, whatever they are. -/
theorem request_schedule (w : World κ) (p : RetryPolicy) (request : ApiRequest)
    (hmax : p.maxDelay ≤ RetryPolicy.longestDelay) :
    (∀ scope, request.auth.scope? = some scope → Vault.get w.vault scope = none →
        w.request p request =
          (.error ⟨.validation, "no " ++ scope.label ++ " configured"⟩, w)) ∧
      ((∀ scope, request.auth.scope? = some scope → Vault.get w.vault scope ≠ none) →
        ∃ (header : Option AuthHeader) (n : Nat) (time : Nat → Nat),
          w.header? request.auth = .ok header ∧
          IsLeast {i | ¬ IsRetryable (w.outcome i) ∨ i = p.retries} n ∧
          time 0 = w.now ∧
          (∀ i, time (i + 1) = time i + (w.reply i).delay +
            min p.maxDelay (p.baseDelay * min (2 ^ i) (2 ^ 32 - 1))) ∧
          (w.request p request).1 = p.answer (w.outcome n) ∧
          (w.request p request).2.attempts = w.attempts ++
            (List.range (n + 1)).map fun i => ⟨time i, false, request, header⟩) := by
  refine ⟨fun scope hscope hget => ?_, fun havailable => ?_⟩
  · simp only [World.request, header?_eq_error hscope hget]
    rfl
  · obtain ⟨header, hheader⟩ := exists_header?_eq_ok havailable
    have hn := Nat.isLeast_find
      (p := fun i => ¬ IsRetryable (w.outcome i) ∨ i = p.retries) ⟨p.retries, .inr rfl⟩
    refine ⟨header, _, w.sendTime p, hheader, hn, rfl, fun i => ?_, ?_, ?_⟩
    · rw [← RetryPolicy.delay_eq hmax]
      rfl
    · rw [request_eq hheader hn]
    · rw [request_eq hheader hn, RetryPolicy.leave_attempts]
      rfl

/-- A status and a failure of the connection share the attempts, and the third one succeeds; a
request with the other credential is not sent. -/
theorem request_schedule_two_failures :
    let w : World MemoryVault :=
      { vault := ⟨{ token := some "t" }⟩
        script := [⟨.response ⟨503, []⟩, 20⟩, ⟨.failure ⟨.network, "reset"⟩, 5⟩,
          ⟨.response ⟨200, []⟩, 7⟩] }
    let create : ApiRequest := { method := .post, path := "/v1", auth := .bearer .token }
    let purge : ApiRequest := { method := .delete, path := "/v1", auth := .key .admin }
    (w.request {} create).1 = .ok ⟨200, []⟩ ∧
      (w.request {} create).2.attempts.map (·.time) = [0, 320, 925] ∧
      (w.request {} purge).1 = .error ⟨.validation, "no admin key configured"⟩ := by
  intro w create purge
  have hmax : ({} : RetryPolicy).maxDelay ≤ RetryPolicy.longestDelay := by decide
  obtain ⟨header, n, time, -, hn, hzero, hstep, hanswer, hattempts⟩ :=
    (request_schedule w {} create hmax).2 (by decide)
  have hend : ¬ IsRetryable (w.outcome n) ∨ n = 2 := hn.1
  have hle : n ≤ 2 := hn.2 (.inr rfl)
  obtain rfl : n = 2 := by
    match n, hle with
    | 0, _ => exact absurd hend (by decide)
    | 1, _ => exact absurd hend (by decide)
    | 2, _ => rfl
  refine ⟨hanswer, ?_, ?_⟩
  · have hone : time 1 = 320 := by rw [hstep, hzero]; rfl
    have htwice : time 2 = 925 := by rw [hstep, hone]; rfl
    rw [hattempts, List.map_append, List.map_map]
    exact congr_arg₂ List.cons hzero (congr_arg₂ List.cons hone (congr_arg₂ List.cons htwice rfl))
  · rw [(request_schedule w {} purge hmax).1 .admin rfl rfl]
    rfl

end World

/-! ## Flights -/

section

variable {π κ : Type} [Vault κ]

/-- The flight lands with an outcome, and nothing else happens on the way. -/
inductive FlightNext.Lands : FlightNext π → World κ → Except ApiError ApiResponse → World κ → Prop
  | landed (purpose : π) (o : Except ApiError ApiResponse) (w : World κ) :
      Lands (.landed purpose o) w o w
  | go {delay : Nat} {step : FlightStep π} {w w' : World κ} {o : Except ApiError ApiResponse}
      (h : Lands (step.run (w.wait delay)).1 (step.run (w.wait delay)).2 o w') :
      Lands (.go delay step) w o w'

theorem FlightStep.run_receive_of_isRetryable {f : Flight π} {o : Except ApiError ApiResponse}
    (ho : IsRetryable o) (hleft : 0 < f.left) (w : World κ) :
    (FlightStep.receive f o).run w =
      (.go (f.policy.delay (f.policy.retries - f.left)) (.send { f with left := f.left - 1 }),
        w) := by
  simp only [FlightStep.run, RetryPolicy.judge_of_isRetryable ho hleft]

theorem FlightStep.run_receive_of_not {f : Flight π} {o : Except ApiError ApiResponse}
    (h : ¬ IsRetryable o ∨ f.left = 0) (w : World κ) :
    (FlightStep.receive f o).run w =
      (.landed f.purpose (f.policy.answer o), f.policy.leave f.request.auth w o) := by
  rcases RetryPolicy.judge_of_not (p := f.policy) h f.request.auth w with
    ⟨r, hjudge, -, hanswer, hleave⟩ | ⟨e, hjudge, -, hanswer, hleave⟩ |
      ⟨e, hjudge, hanswer, hleave⟩ <;>
    simp only [FlightStep.run, hjudge, hanswer, hleave]

/-- A flight that is about to send gets its reply and waits for it. -/
theorem FlightNext.lands_of_send {f : Flight π} {delay : Nat} {w w' : World κ}
    {o : Except ApiError ApiResponse}
    (h : Lands
      ((FlightStep.receive f ((w.wait delay).send f.request f.header).1).run
        ((w.wait delay).send f.request f.header).2).1
      ((FlightStep.receive f ((w.wait delay).send f.request f.header).1).run
        ((w.wait delay).send f.request f.header).2).2 o w') :
    Lands (.go delay (.send f)) w o w' :=
  .go (.go h)

/-- A flight that is about to send goes on as a request that is waited for. -/
theorem FlightNext.lands_send {left : Nat} {f : Flight π} (hleft : f.left = left) (delay : Nat)
    (w : World κ) :
    Lands (.go delay (.send f)) w
      (World.exchange f.policy f.request f.header left (w.wait delay)).1
      (World.exchange f.policy f.request f.header left (w.wait delay)).2 := by
  -- The flight carries the number of its attempts left, and each round takes one away.
  induction left generalizing f delay w with
  | zero =>
    apply lands_of_send
    rw [World.exchange_of_not (.inr rfl), FlightStep.run_receive_of_not (.inr hleft)]
    exact .landed _ _ _
  | succ left ih =>
    apply lands_of_send
    by_cases ho : IsRetryable ((w.wait delay).send f.request f.header).1
    · have hrest : { f with left := f.left - 1 }.left = left := Nat.sub_eq_of_eq_add hleft
      rw [World.exchange_of_isRetryable ho,
        FlightStep.run_receive_of_isRetryable ho (hleft ▸ left.succ_pos), ← hleft]
      exact ih hrest _ _
    · rw [World.exchange_of_not (.inl ho), FlightStep.run_receive_of_not (.inl ho)]
      exact .landed _ _ _

/-- A flight makes the same attempts as a request that is waited for, at the same times, and lands
with what the request answers. -/
theorem World.lands_launch (w : World κ) (p : RetryPolicy) (c : ApiCall) (purpose : π) :
    (w.launch p c purpose).Lands w (w.request (p.forCall c) c.request).1
      (w.request (p.forCall c) c.request).2 := by
  unfold World.launch World.request
  cases w.header? c.request.auth with
  | error e => exact .landed purpose _ w
  | ok header => exact FlightNext.lands_send rfl 0 w

/-! ### Flights beside which anything happens -/

/-- The most attempts that a flight still makes. -/
def FlightStep.most : FlightStep π → Nat
  | .send f => f.left + 1
  | .receive f _ => f.left

/-- All that the flight still sends is this request with this header, and no more often than
that. -/
def FlightNext.Carries (request : ApiRequest) (header : Option AuthHeader) (most : Nat) :
    FlightNext π → Prop
  | .go _ step => step.flight.request = request ∧ step.flight.header = header ∧ step.most ≤ most
  | .landed _ _ => True

/-- The flight makes these attempts from here on, up to its landing or not so far. Each step of it
may find any world at all. -/
inductive FlightNext.Sends (κ : Type) [Vault κ] : FlightNext π → List Attempt → Prop
  | start (next : FlightNext π) : Sends κ next []
  | go {delay : Nat} {step : FlightStep π} {sent rest : List Attempt} (w : World κ)
      (hsent : (step.run w).2.attempts = w.attempts ++ sent)
      (h : Sends κ (step.run w).1 rest) : Sends κ (.go delay step) (sent ++ rest)

variable {request : ApiRequest} {header : Option AuthHeader} {most : Nat}

theorem FlightStep.carries_self (step : FlightStep π) (delay : Nat) :
    (FlightNext.go delay step).Carries step.flight.request step.flight.header step.most :=
  ⟨rfl, rfl, Nat.le_refl _⟩

/-- A step makes an attempt or none. The world it finds says neither what is sent nor with which
header. -/
theorem FlightStep.exists_sent_run (w : World κ) {step : FlightStep π} {delay : Nat}
    (h : (FlightNext.go delay step).Carries request header most) :
    ∃ sent rest, (step.run w).2.attempts = w.attempts ++ sent ∧
      (∀ x ∈ sent, ∃ time, x = ⟨time, false, request, header⟩) ∧
      (step.run w).1.Carries request header rest ∧ sent.length + rest ≤ most := by
  obtain ⟨rfl, rfl, hmost⟩ := h
  have hnothing : w.attempts = w.attempts ++ [] := (List.append_nil _).symm
  cases step with
  | send f =>
    simp only [run, World.post_eq]
    exact ⟨[_], f.left, rfl, List.forall_mem_singleton.mpr ⟨w.now, rfl⟩,
      ⟨rfl, rfl, Nat.le_refl _⟩, Nat.add_comm f.left 1 ▸ hmost⟩
  | receive f outcome =>
    by_cases hagain : IsRetryable outcome ∧ 0 < f.left
    · rw [run_receive_of_isRetryable hagain.1 hagain.2]
      have hleft : f.left - 1 + 1 = f.left := Nat.sub_add_cancel hagain.2
      exact ⟨[], f.left, hnothing, List.forall_mem_nil _, ⟨rfl, rfl, hleft.le⟩,
        (Nat.zero_add f.left).trans_le hmost⟩
    · have hlast : ¬ IsRetryable outcome ∨ f.left = 0 :=
        (not_and_or.mp hagain).imp_right Nat.eq_zero_of_not_pos
      rw [run_receive_of_not hlast, RetryPolicy.leave_attempts]
      exact ⟨[], 0, hnothing, List.forall_mem_nil _, trivial, most.zero_le⟩

/-- Whatever becomes of the world, all attempts of a flight are for its request and with its
header. -/
theorem FlightNext.Carries.of_sends {next : FlightNext π} {sent : List Attempt}
    (h : next.Carries request header most) (hsends : next.Sends κ sent) :
    sent.length ≤ most ∧ ∀ x ∈ sent, ∃ time, x = ⟨time, false, request, header⟩ := by
  -- No world is handed from step to step; what is kept is the flight, with fewer attempts left.
  induction hsends generalizing most with
  | start => exact ⟨most.zero_le, List.forall_mem_nil _⟩
  | go w hsent _ ih =>
    obtain ⟨first, most', hfirst, hsame, hrest, hmost⟩ := FlightStep.exists_sent_run w h
    obtain rfl := List.append_cancel_left (hsent.symm.trans hfirst)
    obtain ⟨hlength, hall⟩ := ih hrest
    refine ⟨?_, List.forall_mem_append.mpr ⟨hsame, hall⟩⟩
    rw [List.length_append]
    omega

/-- A flight beside which nothing else happens is one of these. -/
theorem FlightNext.Lands.exists_sends {next : FlightNext π} {w w' : World κ}
    {o : Except ApiError ApiResponse} (h : next.Lands w o w') :
    ∃ sent, next.Sends κ sent ∧ w'.attempts = w.attempts ++ sent := by
  induction h with
  | landed => exact ⟨[], .start _, (List.append_nil _).symm⟩
  | @go delay step w _ _ _ ih =>
    obtain ⟨rest, hrest, hattempts⟩ := ih
    obtain ⟨sent, -, hsent, -⟩ :=
      FlightStep.exists_sent_run (w.wait delay) (step.carries_self delay)
    exact ⟨sent ++ rest, .go _ hsent hrest, by rw [hattempts, hsent, List.append_assoc]; rfl⟩

/-- The credential of a call is looked up when it takes off. If it is there, every attempt carries
it, at most one more than the retries of the policy, also if the vault has lost it or has another
one by then. If it is missing, nothing is ever sent. -/
theorem World.sends_launch (w : World κ) (p : RetryPolicy) (c : ApiCall) (purpose : π)
    {sent : List Attempt} (h : (w.launch p c purpose).Sends κ sent) :
    (∀ e, w.header? c.request.auth = .error e → sent = []) ∧
      ∀ header, w.header? c.request.auth = .ok header →
        sent.length ≤ p.retries + 1 ∧
          ∀ x ∈ sent, ∃ time, x = ⟨time, false, c.request, header⟩ := by
  unfold World.launch at h
  refine ⟨fun e hmissing => ?_, fun header hheader => ?_⟩
  · rw [hmissing] at h
    cases h
    rfl
  · rw [hheader] at h
    exact (FlightStep.carries_self _ 0).of_sends h

end

end TaskDesk
