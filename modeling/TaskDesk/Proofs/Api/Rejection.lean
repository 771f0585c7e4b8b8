import Mathlib.Order.Nat
import TaskDesk.Proofs.Api.Retrying
import TaskDesk.Proofs.Task.Flat

/-!
# Rejected credentials

A call puts at most one stored credential at stake, and loses it only to a response that rejects
it. Which one that is follows from what the call is for, however the call authenticates and however
often it is sent.

## Main definitions

- `ApiCall.stake?` — the stored credential that a call puts at stake
- `World.EndsOn` — the response to the last thing that was sent
- `World.Drops`, `World.Spares` — what became of the credentials

## Main results

- `ApiCall.kind_of_answer_eq_error` — no readable response is a rejected credential
- `World.call_eq` — a call is not sent at all or ends with one of its attempts
- `World.rejection_drops_stake` — what a rejected credential does to every call and to a stream
-/

namespace TaskDesk

/-! ## What a response can be read as -/

namespace ApiResponse

/-- A response that is read is a value or fails, but does not fail as a rejected credential. -/
theorem kind_of_read_eq_error {α : Type} {read : Json.Nested → Option α} {r : ApiResponse}
    {e : ApiError} (h : r.read read = .error e) : e.kind ≠ .authInvalid := by
  unfold ApiResponse.read at h
  split at h
  · unfold body? at h
    split at h
    · cases h
    · obtain rfl := Except.error.inj h
      exact nofun
  · obtain rfl := Except.error.inj h
    exact nofun

end ApiResponse

namespace TaskRecord

theorem kind_of_ofFlat_eq_error {kind : TaskKind} {record : Json} {e : ApiError}
    (h : ofFlat kind record = .error e) : e.kind ≠ .authInvalid := by
  unfold ofFlat at h
  split at h
  · split at h
    · cases h
    · obtain rfl := Except.error.inj h
      exact nofun
  · obtain rfl := Except.error.inj h
    exact nofun

/-- The first record that cannot be read decides why a list cannot be read. -/
theorem kind_of_mapM_ofFlat_eq_error {kind : TaskKind} {records : List Json} {e : ApiError}
    (h : records.mapM (ofFlat kind) = .error e) : e.kind ≠ .authInvalid := by
  obtain ⟨before, record, after, -, -, hrecord⟩ := mapM_eq_error_iff.mp h
  exact kind_of_ofFlat_eq_error hrecord

end TaskRecord

namespace ApiCall

/-- The stored credential that a call puts at stake: admin and cache calls the admin key, the calls
that submit, list, cancel and delete generation tasks the task token. Asking for one generation
task and checking a token put nothing at stake. -/
def stake? : ApiCall → Option Scope
  | listTasks _ | taskDetail _ | batchDelete _ | clearTasks _ _ => some .admin
  | cacheStats | cacheList _ _ _ | onlineStats | deleteCacheItem _ _ | clearCache _
  | loadOnline | clearOnline => some .admin
  | submit _ | listVideoTasks _ | cancelVideoTask _ | deleteVideoTasks _
  | deleteVideoTasksByStatus _ | clearVideoTasks => some .token
  | generationTask _ _ | verifyToken _ => none

theorem dropsRejected_eq (c : ApiCall) : c.dropsRejected = c.stake?.isSome := by
  cases c <;> rfl

theorem scope?_of_stake? {c : ApiCall} {scope : Scope} (h : c.stake? = some scope) :
    c.request.auth.scope? = some scope := by
  cases c with
  | generationTask | verifyToken => cases h
  | _ => cases h; rfl

/-- What a response to a call with a credential at stake says is never that it was rejected: that
is for the status to say. -/
theorem kind_of_answer_eq_error {c : ApiCall} {scope : Scope} (h : c.stake? = some scope)
    {r : ApiResponse} {e : ApiError} (he : c.answer r = .error e) : e.kind ≠ .authInvalid := by
  cases c with
  | generationTask | verifyToken => cases h
  | taskDetail id =>
    change readDetail r = .error e at he
    unfold readDetail at he
    cases hbody : r.read Json.Read.any with
    | error e' =>
      rw [hbody] at he
      obtain rfl := Except.error.inj he
      exact ApiResponse.kind_of_read_eq_error hbody
    | ok body =>
      simp only [hbody, bind, Except.bind] at he
      split at he
      · cases he
      · obtain rfl := Except.error.inj he
        exact nofun
  | listVideoTasks status =>
    change readVideoTasks r = .error e at he
    unfold readVideoTasks at he
    cases hbody : r.read readVideoList? with
    | error e' =>
      rw [hbody] at he
      obtain rfl := Except.error.inj he
      exact ApiResponse.kind_of_read_eq_error hbody
    | ok records =>
      rw [hbody] at he
      exact TaskRecord.kind_of_mapM_ofFlat_eq_error he
  | _ => exact ApiResponse.kind_of_read_eq_error he

end ApiCall

namespace RetryPolicy

theorem dropRejected_forCall (p : RetryPolicy) (c : ApiCall) :
    (p.forCall c).dropRejected = (p.dropRejected && c.stake?.isSome) := by
  rw [← c.dropsRejected_eq]
  rfl

end RetryPolicy

namespace World

variable {κ : Type}

/-! ## What became of the credentials -/

/-- From a world to a later one something was sent, and the last thing that was sent got this
response. -/
def EndsOn (w after : World κ) (r : ApiResponse) : Prop :=
  ∃ n, after.attempts.length = w.attempts.length + (n + 1) ∧ w.outcome n = .ok r

/-- From a world to a later one the credential of a scope was dropped, once, and the front end was
told so, once. The other credential is as it was. -/
structure Drops [Vault κ] (w after : World κ) (scope : Scope) : Prop where
  vault_eq : after.vault = Vault.clear w.vault scope
  events_eq : after.events = w.events ++ [.authInvalid scope]
  get_self : Vault.get after.vault scope = none
  get_of_ne (other : Scope) (h : other ≠ scope) :
    Vault.get after.vault other = Vault.get w.vault other

/-- From a world to a later one no credential was dropped, and the front end was told nothing. -/
structure Spares (w after : World κ) : Prop where
  vault_eq : after.vault = w.vault
  events_eq : after.events = w.events

theorem Spares.refl (w : World κ) : w.Spares w :=
  ⟨rfl, rfl⟩

theorem not_endsOn_self (w : World κ) (r : ApiResponse) : ¬ w.EndsOn w r := by
  rintro ⟨n, hlength, -⟩
  omega

/-- The last attempt is known by its number. -/
theorem endsOn_iff {w after : World κ} {n : Nat}
    (h : after.attempts.length = w.attempts.length + (n + 1)) {r : ApiResponse} :
    w.EndsOn after r ↔ w.outcome n = .ok r := by
  refine ⟨fun ⟨i, hi, hr⟩ => ?_, fun hr => ⟨n, h, hr⟩⟩
  have hni : n = i := by omega
  rw [hni]
  exact hr

theorem spares_afterAttempt (w : World κ) (p : RetryPolicy) (request : ApiRequest)
    (header : Option AuthHeader) (n : Nat) : w.Spares (w.afterAttempt p request header n) :=
  ⟨rfl, rfl⟩

theorem length_attempts_afterAttempt (w : World κ) (p : RetryPolicy) (request : ApiRequest)
    (header : Option AuthHeader) (n : Nat) :
    (w.afterAttempt p request header n).attempts.length = w.attempts.length + (n + 1) := by
  simp [afterAttempt, beforeAttempt]

variable [Vault κ]

theorem attempts_reject (w : World κ) (auth : Auth) : (w.reject auth).attempts = w.attempts := by
  unfold reject
  split <;> rfl

/-- What a rejection leaves is judged by the world before the call, since sending touches neither
the credentials nor the events. -/
theorem Spares.drops_reject [LawfulVault κ] {w t : World κ} (h : w.Spares t) {auth : Auth}
    {scope : Scope}
    (hscope : auth.scope? = some scope) : w.Drops (t.reject auth) scope := by
  have hvault : (t.reject auth).vault = Vault.clear w.vault scope := by
    simp only [reject, hscope, emit, h.vault_eq]
  refine ⟨hvault, ?_, ?_, fun other hother => ?_⟩
  · simp only [reject, hscope, emit, h.events_eq]
  · rw [hvault, LawfulVault.get_clear_self]
  · rw [hvault, LawfulVault.get_clear_of_ne _ hother]

/-! ## Calls -/

/-- A call that is not sent changes nothing. Any other call ends with the first outcome that is not
worth another attempt, or with the last attempt that it has. -/
theorem call_eq (w : World κ) (p : RetryPolicy) (c : ApiCall) :
    (w.call p c).2 = w ∨
      ∃ (header : Option AuthHeader) (n : Nat),
        IsLeast {i | ¬ IsRetryable (w.outcome i) ∨ i = p.retries} n ∧
          w.call p c =
            (((p.forCall c).answer (w.outcome n)).bind c.answer,
              (p.forCall c).leave c.request.auth
                (w.afterAttempt (p.forCall c) c.request header n) (w.outcome n)) := by
  unfold call
  cases c.fault? with
  | some fault => exact .inl rfl
  | none =>
    cases hheader : w.header? c.request.auth with
    | error e =>
      left
      simp only [World.request, hheader]
    | ok header =>
      obtain ⟨n, hn⟩ := w.exists_last_attempt (p.forCall c)
      refine .inr ⟨header, n, hn, ?_⟩
      simp only [request_eq hheader hn]

/-- What a call answers is what the response that it ends on is read as, unless that one rejects a
credential. -/
theorem call_of_endsOn {w : World κ} {p : RetryPolicy} {c : ApiCall} {r : ApiResponse}
    (hends : w.EndsOn (w.call p c).2 r) (h401 : r.status ≠ 401) :
    (w.call p c).1 = c.answer r := by
  rcases w.call_eq p c with hunsent | ⟨header, n, -, hsent⟩
  · rw [hunsent] at hends
    exact absurd hends (w.not_endsOn_self r)
  · have hlength : (w.call p c).2.attempts.length = w.attempts.length + (n + 1) := by
      rw [hsent, RetryPolicy.leave_attempts, length_attempts_afterAttempt]
    have hlast : w.outcome n = .ok r := (endsOn_iff hlength).mp hends
    have hkept : ∀ r', w.outcome n = .ok r' → r'.status = 401 →
        (p.forCall c).dropRejected = false := by
      intro r' hr' h
      obtain rfl := Except.ok.inj (hlast.symm.trans hr')
      exact absurd h h401
    rw [hsent, RetryPolicy.answer_of_kept hkept, hlast]
    rfl

/-- After a rejected credential nothing more is sent. -/
theorem length_attempts_call_le {w : World κ} (p : RetryPolicy) (c : ApiCall) {i : Nat}
    {r : ApiResponse} (hr : w.outcome i = .ok r) (h401 : r.status = 401) :
    (w.call p c).2.attempts.length ≤ w.attempts.length + (i + 1) := by
  rcases w.call_eq p c with hunsent | ⟨header, n, hn, hsent⟩
  · rw [hunsent]
    omega
  · have hstop : ¬ IsRetryable (w.outcome i) := by
      rw [hr, isRetryable_ok, h401]
      decide
    have hle : n ≤ i := hn.2 (.inl hstop)
    rw [hsent, RetryPolicy.leave_attempts, length_attempts_afterAttempt]
    omega

/-- A call drops a credential only if it has one at stake, and if the policy drops credentials at
all. -/
theorem spares_call {w : World κ} {p : RetryPolicy} {c : ApiCall}
    (h : c.stake? = none ∨ p.dropRejected = false) : w.Spares (w.call p c).2 := by
  rcases w.call_eq p c with hunsent | ⟨header, n, -, hsent⟩
  · rw [hunsent]
    exact .refl w
  · have hkeeps : (p.forCall c).dropRejected = false := by
      rw [RetryPolicy.dropRejected_forCall]
      rcases h with h | h <;> simp [h]
    rw [hsent, RetryPolicy.leave_of_kept fun _ _ _ => hkeeps]
    exact w.spares_afterAttempt _ _ _ _

/-- A call with a credential at stake drops it if and only if it ends on a response that rejects
it, and only then it fails with that rejection. -/
theorem call_with_stake [LawfulVault κ] {w : World κ} {p : RetryPolicy} {c : ApiCall}
    {scope : Scope}
    (hstake : c.stake? = some scope) (hp : p.dropRejected = true) :
    ((∃ r, w.EndsOn (w.call p c).2 r ∧ r.status = 401) ↔
        ∃ r, w.EndsOn (w.call p c).2 r ∧
          (w.call p c).1 = .error ⟨.authInvalid, r.errorMessage⟩) ∧
      ((∃ r, w.EndsOn (w.call p c).2 r ∧ r.status = 401) → w.Drops (w.call p c).2 scope) ∧
      ((¬ ∃ r, w.EndsOn (w.call p c).2 r ∧ r.status = 401) → w.Spares (w.call p c).2) := by
  rcases w.call_eq p c with hunsent | ⟨header, n, -, hsent⟩
  · rw [hunsent]
    refine ⟨⟨?_, ?_⟩, ?_, fun _ => .refl w⟩ <;>
      exact fun ⟨r, hends, _⟩ => absurd hends (w.not_endsOn_self r)
  · have hdrops : (p.forCall c).dropRejected = true := by
      rw [RetryPolicy.dropRejected_forCall, hp, hstake]
      rfl
    have hspares := w.spares_afterAttempt (p.forCall c) c.request header n
    have hlength : (w.call p c).2.attempts.length = w.attempts.length + (n + 1) := by
      rw [hsent, RetryPolicy.leave_attempts, length_attempts_afterAttempt]
    simp only [endsOn_iff hlength]
    rw [hsent]
    by_cases hrejected : ∃ r, w.outcome n = .ok r ∧ r.status = 401
    · obtain ⟨r, hlast, h401⟩ := hrejected
      rw [hlast, RetryPolicy.answer_of_rejected h401 hdrops,
        RetryPolicy.leave_of_rejected h401 hdrops]
      refine ⟨⟨fun _ => ⟨r, rfl, rfl⟩, fun _ => ⟨r, rfl, h401⟩⟩, fun _ => ?_, ?_⟩
      · exact hspares.drops_reject (ApiCall.scope?_of_stake? hstake)
      · exact fun hnot => absurd ⟨r, rfl, h401⟩ hnot
    · have hkept : ∀ r, w.outcome n = .ok r → r.status = 401 →
          (p.forCall c).dropRejected = false :=
        fun r hr h401 => absurd ⟨r, hr, h401⟩ hrejected
      rw [RetryPolicy.answer_of_kept hkept, RetryPolicy.leave_of_kept hkept]
      refine ⟨⟨fun h => absurd h hrejected, ?_⟩, fun h => absurd h hrejected, fun _ => hspares⟩
      -- The response is read, and nothing that is read fails as a rejected credential.
      rintro ⟨r, hr, hfails⟩
      rw [hr] at hfails
      exact absurd rfl (ApiCall.kind_of_answer_eq_error hstake hfails)

/-! ## Streams -/

theorem kind_of_header?_eq_error {w : World κ} {auth : Auth} {e : ApiError}
    (h : w.header? auth = .error e) : e.kind = .validation := by
  cases auth with
  | none | explicit => cases h
  | bearer scope | key scope =>
    simp only [header?] at h
    split at h
    · cases h
    · obtain rfl := Except.error.inj h
      rfl

theorem streamOutcome_of_rejected {content : ReplyContent} {r : ApiResponse}
    (hr : content.outcome = .ok r) (h401 : r.status = 401) :
    content.streamOutcome = .error ⟨.authInvalid, r.errorMessage⟩ := by
  have hfails : r.isSuccess = false := by simp [ApiResponse.isSuccess, h401]
  have hrefused : ReplyContent.refusal r = ⟨.authInvalid, r.errorMessage⟩ := if_pos h401
  cases content with
  | failure e => cases hr
  | response r' =>
    obtain rfl := Except.ok.inj hr
    simp [ReplyContent.streamOutcome, hfails, hrefused]
  | chunks status cs =>
    obtain rfl := Except.ok.inj hr
    simp [ReplyContent.streamOutcome, hfails, hrefused]

/-- A stream without a credential is not opened. Any other one is asked for once. -/
theorem openStream_eq (w : World κ) (request : ApiRequest) :
    (∃ e, w.openStream request = (.error e, w) ∧ e.isAuthInvalid = false) ∨
      ∃ t, w.Spares t ∧ t.attempts.length = w.attempts.length + (0 + 1) ∧
        w.openStream request =
          match (w.reply 0).content.streamOutcome with
          | .error e => (.error e, if e.isAuthInvalid then t.reject request.auth else t)
          | .ok chunks => (.ok chunks, t) := by
  unfold openStream
  cases hheader : w.header? request.auth with
  | error e =>
    refine .inl ⟨e, rfl, ?_⟩
    simp [ApiError.isAuthInvalid, kind_of_header?_eq_error hheader]
  | ok header =>
    refine .inr ⟨(w.sendForStream request header).2, ⟨?_, ?_⟩, ?_, ?_⟩
    · simp only [sendForStream, post_eq, wait]
    · simp only [sendForStream, post_eq, wait]
    · simp only [sendForStream, post_eq, wait]
      exact List.length_append
    · cases houtcome : (w.reply 0).content.streamOutcome <;>
        simp only [sendForStream, post_eq, wait, houtcome]

variable [LawfulVault κ]

/-- A stream is asked for once, and its credential is dropped if and only if the opening fails as
a rejected one. -/
theorem openStream_with_stake (w : World κ) {request : ApiRequest} {scope : Scope}
    (hscope : request.auth.scope? = some scope) :
    (∀ r, w.EndsOn (w.openStream request).2 r → r.status = 401 →
        (w.openStream request).1 = .error ⟨.authInvalid, r.errorMessage⟩) ∧
      ((∃ e, (w.openStream request).1 = .error e ∧ e.isAuthInvalid = true) →
        w.Drops (w.openStream request).2 scope) ∧
      ((¬ ∃ e, (w.openStream request).1 = .error e ∧ e.isAuthInvalid = true) →
        w.Spares (w.openStream request).2) ∧
      (w.openStream request).2.attempts.length ≤ w.attempts.length + 1 := by
  rcases w.openStream_eq request with ⟨e, hopen, he⟩ | ⟨t, hspares, hlength, hopen⟩
  · rw [hopen]
    refine ⟨fun r hends => absurd hends (w.not_endsOn_self r), ?_, fun _ => .refl w, Nat.le_succ _⟩
    rintro ⟨e', he', hinvalid⟩
    obtain rfl := Except.error.inj he'
    rw [he] at hinvalid
    cases hinvalid
  · have hafter : (w.openStream request).2.attempts = t.attempts := by
      rw [hopen]
      split
      · dsimp only
        split
        · exact t.attempts_reject _
        · rfl
      · rfl
    have hends (r : ApiResponse) :
        w.EndsOn (w.openStream request).2 r ↔ w.outcome 0 = .ok r := by
      refine endsOn_iff ?_
      rw [hafter, hlength]
    refine ⟨fun r hr h401 => ?_, ?_, ?_, by rw [hafter]; omega⟩
    · rw [hopen, streamOutcome_of_rejected ((hends r).mp hr) h401]
    · rintro ⟨e, he, hinvalid⟩
      rw [hopen] at he ⊢
      split at he
      · obtain rfl := Except.error.inj he
        simp only [hinvalid, if_true]
        exact hspares.drops_reject hscope
      · cases he
    · intro hnot
      rw [hopen] at hnot ⊢
      split
      · next e he =>
        have hvalid : e.isAuthInvalid = false := by
          simpa [he] using hnot
        simp only [hvalid, Bool.false_eq_true, if_false]
        exact hspares
      · exact hspares

/-! ## The whole interface -/

/-- A call that puts a credential at stake ends on a response that rejects it if and only if it
fails with that rejection. Then the credential is dropped, once, and the front end is told so, once,
and else nothing happens to the credentials; so it is with a stream whose opening fails as a
rejected one. A call that puts no credential at stake leaves all of them alone whatever the backend
answers, and so does every call under a policy that hands rejections on. After a rejected
credential nothing more is sent. -/
theorem rejection_drops_stake (w : World κ) (p : RetryPolicy) :
    (∀ c : ApiCall,
      (∀ scope, c.stake? = some scope → p.dropRejected = true →
        ((∃ r, w.EndsOn (w.call p c).2 r ∧ r.status = 401) ↔
            ∃ r, w.EndsOn (w.call p c).2 r ∧
              (w.call p c).1 = .error ⟨.authInvalid, r.errorMessage⟩) ∧
          ((∃ r, w.EndsOn (w.call p c).2 r ∧ r.status = 401) → w.Drops (w.call p c).2 scope) ∧
          ((¬ ∃ r, w.EndsOn (w.call p c).2 r ∧ r.status = 401) → w.Spares (w.call p c).2)) ∧
      (c.stake? = none ∨ p.dropRejected = false → w.Spares (w.call p c).2) ∧
      ∀ i r, w.outcome i = .ok r → r.status = 401 →
        (w.call p c).2.attempts.length ≤ w.attempts.length + (i + 1)) ∧
    ∀ id : TaskId,
      (∀ r, w.EndsOn (w.openStream (streamRequest id)).2 r → r.status = 401 →
        (w.openStream (streamRequest id)).1 = .error ⟨.authInvalid, r.errorMessage⟩) ∧
      ((∃ e, (w.openStream (streamRequest id)).1 = .error e ∧ e.isAuthInvalid = true) →
        w.Drops (w.openStream (streamRequest id)).2 .token) ∧
      ((¬ ∃ e, (w.openStream (streamRequest id)).1 = .error e ∧ e.isAuthInvalid = true) →
        w.Spares (w.openStream (streamRequest id)).2) ∧
      (w.openStream (streamRequest id)).2.attempts.length ≤ w.attempts.length + 1 := by
  refine ⟨fun c => ⟨fun scope hstake hp => ?_, spares_call, fun i r hr h401 => ?_⟩, fun id => ?_⟩
  · exact call_with_stake hstake hp
  · exact length_attempts_call_le p c hr h401
  · exact w.openStream_with_stake rfl

/-- After a hiccup the admin key is rejected: the call that deletes tasks costs the key, and the
check of a task token costs nothing. -/
theorem rejection_drops_stake_after_hiccup :
    let w : World MemoryVault :=
      { vault := ⟨{ admin := some "k", token := some "t" }⟩
        script := [⟨.response ⟨503, []⟩, 0⟩, ⟨.response ⟨401, []⟩, 0⟩, ⟨.response ⟨200, []⟩, 0⟩] }
    (w.call {} (.batchDelete ["a"])).2.vault = ⟨{ token := some "t" }⟩ ∧
      (w.call {} (.batchDelete ["a"])).2.attempts.length ≤ 2 ∧
      (w.call {} (.verifyToken "t")).2.vault = w.vault := by
  intro w
  obtain ⟨hcalls, -⟩ := rejection_drops_stake w {}
  obtain ⟨hdelete, -, hlast⟩ := hcalls (.batchDelete ["a"])
  obtain ⟨-, hverify, -⟩ := hcalls (.verifyToken "t")
  obtain ⟨-, hdrops, -⟩ := hdelete .admin rfl rfl
  refine ⟨(hdrops ⟨⟨401, []⟩, ⟨1, by decide, rfl⟩, rfl⟩).vault_eq, ?_,
    (hverify (.inl rfl)).vault_eq⟩
  exact hlast 1 ⟨401, []⟩ rfl rfl

end World

end TaskDesk
