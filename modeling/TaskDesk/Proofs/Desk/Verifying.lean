import Mathlib.Order.Bounds.Basic
import TaskDesk.Desk.Run
import TaskDesk.Proofs.Api.Retrying
import TaskDesk.Proofs.Files.Forgetting

/-!
# A token is stored only if it was accepted

The check of a token sends the token that it was given, up to the first outcome that ends the
request, and the outcome of that last attempt decides. The request uses no credential of the vault,
so there is none to drop when the backend rejects it. A part of a command hands on what it leaves of
the desk whether it fails or not; hence the vault is as before unless the token was accepted, and
then a single secret of it is replaced, in memory and in the file.

## Main definitions

- `DeskAction.runFrom` — a part of a command from some desk
- `Accepts`, `objection` — what an outcome says about a token

## Main results

- `World.call_verifyToken` — which outcome decides about a token, and what is sent until then
- `DiskVault.openAt_store` — the file after a secret was stored
- `Desk.token_stored_only_if_accepted` — the whole command
-/

namespace TaskDesk

/-! ## Parts of commands -/

namespace DeskAction

variable {α β : Type}

/-- Runs a part of a command from some desk. -/
def runFrom (action : DeskAction α) (d : Desk) : Except CommandFailure α × Desk :=
  StateT.run (ExceptT.run action) d

variable {action : DeskAction α} {d d' : Desk}

/-- What comes after a part that was done goes on from where it ended. -/
theorem runFrom_bind_of_ok {a : α} (h : runFrom action d = (.ok a, d'))
    (next : α → DeskAction β) : runFrom (action >>= next) d = runFrom (next a) d' := by
  rw [runFrom, ExceptT.run_bind, StateT.run_bind, ← runFrom, h]
  rfl

/-- What comes after a part that failed is not done. -/
theorem runFrom_bind_of_error {e : CommandFailure} (h : runFrom action d = (.error e, d'))
    (next : α → DeskAction β) : runFrom (action >>= next) d = (.error e, d') := by
  rw [runFrom, ExceptT.run_bind, StateT.run_bind, ← runFrom, h]
  rfl

theorem runFrom_discard (action : DeskAction α) (d : Desk) :
    runFrom (discard action) d =
      ((runFrom action d).1.map fun _ => (), (runFrom action d).2) := by
  show StateT.run (ExceptT.run ((fun _ => ()) <$> action)) d = _
  rw [ExceptT.run_map, StateT.run_map]
  rfl

theorem runFrom_within (context : String) (action : DeskAction α) (d : Desk) :
    runFrom (within context action) d =
      ((runFrom action d).1.mapError (.within context), (runFrom action d).2) := by
  rw [within, runFrom, ExceptT.run_tryCatch, StateT.run_bind, ← runFrom]
  rcases runFrom action d with ⟨_ | _, d'⟩ <;> rfl

theorem runFrom_ofExcept {ε : Type} (asFailure : ε → CommandFailure) (o : Except ε α) (d : Desk) :
    runFrom (ofExcept asFailure o) d = (o.mapError asFailure, d) := by
  cases o <;> rfl

theorem runFrom_call (c : ApiCall) (d : Desk) :
    runFrom (call c) d =
      ((d.world.call d.settings.policy c).1.mapError .api,
        { d with world := (d.world.call d.settings.policy c).2 }) :=
  runFrom_ofExcept ..

theorem runFrom_changeVault (change : DiskVault → Except StoreError Unit × DiskVault) (d : Desk) :
    runFrom (changeVault change) d =
      ((change d.world.vault).1.mapError .store,
        { d with world := { d.world with vault := (change d.world.vault).2 } }) :=
  runFrom_ofExcept ..

end DeskAction

/-! ## Verdicts -/

/-- The outcomes that accept a token. -/
def Accepts : Except ApiError ApiResponse → Prop
  | .ok r => 200 ≤ r.status ∧ r.status ≤ 299
  | .error _ => False

/-- What an outcome that does not accept a token says against it. -/
def objection : Except ApiError ApiResponse → ApiError
  | .ok r =>
    ⟨if r.status = 401 ∨ r.status = 403 then .authInvalid else .httpStatus r.status,
      r.errorMessage⟩
  | .error e => e

theorem bind_readVerdict_of_accepts {o : Except ApiError ApiResponse} (h : Accepts o) :
    o.bind ApiCall.readVerdict = .ok () := by
  cases o with
  | error e => exact h.elim
  | ok r =>
    have hsuccess : r.isSuccess := by
      simp only [ApiResponse.isSuccess, Bool.and_eq_true, decide_eq_true_eq]
      exact ⟨h.1, Nat.lt_succ_of_le h.2⟩
    exact if_pos hsuccess

theorem bind_readVerdict_of_not_accepts {o : Except ApiError ApiResponse} (h : ¬ Accepts o) :
    o.bind ApiCall.readVerdict = .error (objection o) := by
  cases o with
  | error e => rfl
  | ok r =>
    have hfailed : ¬ r.isSuccess := by
      simp only [ApiResponse.isSuccess, Bool.and_eq_true, decide_eq_true_eq]
      exact fun ⟨hlow, hhigh⟩ => h ⟨hlow, Nat.le_of_lt_succ hhigh⟩
    show ApiCall.readVerdict r = _
    rw [ApiCall.readVerdict, if_neg hfailed, objection]
    split <;> rfl

/-- The check of a token is sent up to the first outcome that is not worth another attempt, or as
often as the policy allows, with that token each time. Whatever the last outcome is, the world is as
the sending leaves it. -/
theorem World.call_verifyToken {κ : Type} [Vault κ] {w : World κ} {p : RetryPolicy} {n : Nat}
    (hn : IsLeast {i | ¬ IsRetryable (w.outcome i) ∨ i = p.retries} n) (token : String) :
    w.call p (.verifyToken token) =
      ((w.outcome n).bind ApiCall.readVerdict,
        w.afterAttempt (p.forCall (.verifyToken token))
          ((ApiRequest.get "/v1/models").withAuth (.explicit token)) (some (.bearer token)) n) := by
  have hheader : w.header? (ApiCall.request (.verifyToken token)).auth =
      .ok (some (.bearer token)) := rfl
  have hdrop : (p.forCall (.verifyToken token)).dropRejected = false :=
    Bool.and_false p.dropRejected
  have hrequest := request_eq (p := p.forCall (.verifyToken token)) hheader hn
  unfold call
  simp only [ApiCall.fault?, hrequest]
  rw [RetryPolicy.answer_of_kept fun _ _ _ => hdrop, RetryPolicy.leave_of_kept fun _ _ _ => hdrop]
  rfl

/-! ## Storing -/

namespace DiskVault

variable (v : DiskVault) {scope : Scope} (secret : String)

theorem get_store_self : Vault.get (v.store scope secret).2 scope = some secret := by
  show ((v.file.overrides.put scope none).get scope <|>
    (v.file.saved.put scope (some secret)).get scope) = some secret
  rw [Slots.get_put_self, Slots.get_put_self]
  rfl

theorem get_store_of_ne {other : Scope} (h : other ≠ scope) :
    Vault.get (v.store scope secret).2 other = Vault.get v other := by
  show ((v.file.overrides.put scope none).get other <|>
    (v.file.saved.put scope (some secret)).get other) = _
  rw [Slots.get_put_of_ne _ h, Slots.get_put_of_ne _ h]
  rfl

variable {v secret}

/-- Once storing is reported, the file has what memory was to save. -/
theorem openAt_store (h : (v.store scope secret).1 = .ok ()) :
    SecretFile.openAt (v.store scope secret).2.disk v.file.path =
      .ok { path := v.file.path, saved := v.file.saved.put scope (some secret) } := by
  rcases v.call_cases Disk.noFault (.store scope secret) with
    ⟨-, howes, -⟩ | ⟨-, -, hwritten⟩ | ⟨-, -, e, herror⟩
  · exact absurd rfl howes
  · exact hwritten
  · nomatch h.symm.trans herror

/-- A file that was opened and stored a secret has that secret and, beside it, what it had. -/
theorem reopened_after_store {disk : Disk} {path : String} {f : SecretFile}
    (hopen : SecretFile.openAt disk path = .ok f) {overrides : Slots}
    (hv : v = ⟨{ f with overrides }, disk⟩) (h : (v.store scope secret).1 = .ok ()) :
    ∃ g, SecretFile.openAt (v.store scope secret).2.disk path = .ok g ∧
      g.get scope = some secret ∧ ∀ other, other ≠ scope → g.get other = f.get other := by
  obtain ⟨saved, rfl⟩ : ∃ saved, f = { path, saved } :=
    ⟨f.saved, SecretFile.eq_of_openAt hopen⟩
  have hwritten := openAt_store h
  rw [show v.file.path = path from congrArg (·.file.path) hv,
    show v.file.saved = saved from congrArg (·.file.saved) hv] at hwritten
  refine ⟨_, hwritten, ?_, fun other hother => ?_⟩
  · rw [SecretFile.get_of_opened, Slots.get_put_self]
  · rw [SecretFile.get_of_opened, SecretFile.get_of_opened, Slots.get_put_of_ne _ hother]

end DiskVault

/-! ## The command -/

namespace DeskAction

variable {token : String} {d : Desk} {w : World DiskVault}

theorem runFrom_verifyToken_of_blank (h : Text.trim token = "") (d : Desk) :
    runFrom (verifyToken token) d = (.error (.refused "token is empty"), d) := by
  unfold verifyToken
  simp only [h, if_true]
  rfl

theorem verifyToken_of_ne (h : Text.trim token ≠ "") :
    verifyToken token =
      (do
        within "token was not accepted" (discard (call (.verifyToken (Text.trim token))))
        changeVault (·.store .token (Text.trim token))
        sayLine "Token verified and saved") := by
  unfold verifyToken
  simp only [h, if_false]

theorem runFrom_verifyToken_of_error {e : ApiError} (h : Text.trim token ≠ "")
    (hcall : d.world.call d.settings.policy (.verifyToken (Text.trim token)) = (.error e, w)) :
    runFrom (verifyToken token) d =
      (.error (.within "token was not accepted" (.api e)), { d with world := w }) := by
  rw [verifyToken_of_ne h]
  apply runFrom_bind_of_error
  rw [runFrom_within, runFrom_discard, runFrom_call, hcall]
  rfl

/-- Storing comes after the call and decides about the command. What is printed at the end changes
neither the credentials nor what was sent. -/
theorem runFrom_verifyToken_of_ok (h : Text.trim token ≠ "")
    (hcall : d.world.call d.settings.policy (.verifyToken (Text.trim token)) = (.ok (), w))
    {o : Except StoreError Unit} {v : DiskVault}
    (hstore : w.vault.store .token (Text.trim token) = (o, v)) :
    ∃ d', runFrom (verifyToken token) d = (o.mapError .store, d') ∧
      d'.world.attempts = w.attempts ∧ d'.world.vault = v := by
  have haccepted :
      runFrom (within "token was not accepted"
        (discard (call (.verifyToken (Text.trim token))))) d = (.ok (), { d with world := w }) := by
    rw [runFrom_within, runFrom_discard, runFrom_call, hcall]
    rfl
  have hsaved :
      runFrom (changeVault (·.store .token (Text.trim token))) { d with world := w } =
        (o.mapError .store, { d with world := { w with vault := v } }) := by
    rw [runFrom_changeVault, hstore]
  rw [verifyToken_of_ne h, runFrom_bind_of_ok haccepted]
  cases o with
  | error e => exact ⟨_, runFrom_bind_of_error hsaved _, rfl, rfl⟩
  | ok => exact ⟨_, runFrom_bind_of_ok hsaved _, rfl, rfl⟩

end DeskAction

namespace Desk

/-- A command ends with what its parts leave; what is printed at the end changes neither the
credentials nor what was sent. -/
theorem run_of_runFrom {d d' : Desk} {c : Command} {o : Except CommandFailure Unit}
    (h : DeskAction.runFrom (DeskAction.run c) d = (o, d')) :
    (d.run c).1 = o ∧ (d.run c).2.world.attempts = d'.world.attempts ∧
      (d.run c).2.world.vault = d'.world.vault := by
  have hrun : d.run c = (o, d'.caughtUp) :=
    congrArg (fun r : Except CommandFailure Unit × Desk => (r.1, r.2.caughtUp)) h
  rw [hrun]
  exact ⟨rfl, rfl, rfl⟩

/-- Without a token nothing is sent. Otherwise that token is sent, and no other credential, up to
the first outcome that is not worth another attempt or as often as the settings allow. If the last
outcome accepts the token and the file can be written, the token is stored, in memory and in the
file, and the admin key is as it was. If it does not, the command fails with what speaks against the
token, and memory and disk are as they were. -/
theorem token_stored_only_if_accepted {disk : Disk} {path : String} {f : SecretFile}
    (hopen : SecretFile.openAt disk path = .ok f) (overrides : Slots) {d : Desk}
    (hvault : d.world.vault = ⟨{ f with overrides }, disk⟩) (token : String) :
    let secret := Text.trim token
    let outcome := (d.run (.verifyToken token)).1
    let after := (d.run (.verifyToken token)).2.world
    (secret = "" →
        outcome = .error (.refused "token is empty") ∧ after.attempts = d.world.attempts ∧
          after.vault = d.world.vault) ∧
      (secret ≠ "" →
        ∃ (n : Nat) (time : Nat → Nat),
          IsLeast {i | ¬ IsRetryable (d.world.outcome i) ∨ i = d.settings.retries} n ∧
          after.attempts = d.world.attempts ++ (List.range (n + 1)).map (fun i =>
            ⟨time i, false, (ApiRequest.get "/v1/models").withAuth (.explicit secret),
              some (.bearer secret)⟩) ∧
          (Accepts (d.world.outcome n) → (d.world.vault.store .token secret).1 = .ok () →
            outcome = .ok () ∧ Vault.get after.vault .token = some secret ∧
              Vault.get after.vault .admin = Vault.get d.world.vault .admin ∧
              ∃ g, SecretFile.openAt after.vault.disk path = .ok g ∧
                g.get .token = some secret ∧ g.get .admin = f.get .admin) ∧
          (¬ Accepts (d.world.outcome n) →
            outcome = .error (.within "token was not accepted"
                (.api (objection (d.world.outcome n)))) ∧
              after.vault = d.world.vault)) := by
  intro secret outcome after
  by_cases hsecret : secret = ""
  · have hrun := DeskAction.runFrom_verifyToken_of_blank hsecret d
    exact ⟨fun _ => run_of_runFrom (c := .verifyToken token) hrun, fun hne => absurd hsecret hne⟩
  obtain ⟨n, hn⟩ := d.world.exists_last_attempt d.settings.policy
  have hcall := World.call_verifyToken hn secret
  refine ⟨fun hblank => absurd hblank hsecret, fun _ =>
    ⟨n, d.world.sendTime (d.settings.policy.forCall (.verifyToken secret)), hn, ?_⟩⟩
  by_cases haccepts : Accepts (d.world.outcome n)
  · rw [bind_readVerdict_of_accepts haccepts] at hcall
    obtain ⟨d', hrun, hsent, hstored⟩ := DeskAction.runFrom_verifyToken_of_ok hsecret hcall rfl
    obtain ⟨houtcome, hattempts, hafter⟩ := run_of_runFrom (c := .verifyToken token) hrun
    have hvault' : after.vault = (d.world.vault.store .token secret).2 := hafter.trans hstored
    refine ⟨hattempts.trans hsent, fun _ hstore => ⟨?_, ?_, ?_, ?_⟩, fun hno => absurd haccepts hno⟩
    · exact houtcome.trans (congrArg (Except.mapError CommandFailure.store) hstore)
    · rw [hvault']
      exact DiskVault.get_store_self _ secret
    · rw [hvault']
      exact DiskVault.get_store_of_ne _ secret (by decide)
    · obtain ⟨g, hg, htoken, hadmin⟩ := DiskVault.reopened_after_store hopen hvault hstore
      rw [hvault']
      exact ⟨g, hg, htoken, hadmin .admin (by decide)⟩
  · rw [bind_readVerdict_of_not_accepts haccepts] at hcall
    have hrun := DeskAction.runFrom_verifyToken_of_error hsecret hcall
    obtain ⟨houtcome, hattempts, hafter⟩ := run_of_runFrom (c := .verifyToken token) hrun
    exact ⟨hattempts, fun hyes => absurd hyes haccepts, fun _ => ⟨houtcome, hafter⟩⟩

/-- A desk with a stored key and a backend that is still to answer. -/
def withKey (script : List Reply) : Desk where
  settings := {}
  world := { vault := ⟨DiskVault.fileWithKey, DiskVault.diskWithKey⟩, script }

/-- After a hiccup a token is accepted and is stored beside the key; a token that is rejected leaves
everything as it was. -/
theorem token_stored_only_if_accepted_after_hiccup :
    let hiccup := withKey [⟨.response ⟨503, []⟩, 0⟩, ⟨.response ⟨200, []⟩, 0⟩]
    let rejecting := withKey [⟨.response ⟨401, []⟩, 0⟩]
    let stored := hiccup.run (.verifyToken " t ")
    let refused := rejecting.run (.verifyToken " t ")
    stored.1 = .ok () ∧ stored.2.world.attempts.length = 2 ∧
      (∃ g, SecretFile.openAt stored.2.world.vault.disk "c" = .ok g ∧
        g.get .token = some "t" ∧ g.get .admin = some "k") ∧
      refused.1 = .error (.within "token was not accepted"
        (.api ⟨.authInvalid, "401 Unauthorized"⟩)) ∧
      refused.2.world.vault = rejecting.world.vault := by
  intro hiccup rejecting stored refused
  have hne : Text.trim " t " ≠ "" := by decide
  have htrim : Text.trim " t " = "t" := by decide
  obtain ⟨n, time, hn, hattempts, haccepted, -⟩ :=
    (token_stored_only_if_accepted (d := hiccup) DiskVault.openAt_diskWithKey {} rfl " t ").2 hne
  obtain ⟨m, -, hm, -, -, hrefused⟩ :=
    (token_stored_only_if_accepted (d := rejecting) DiskVault.openAt_diskWithKey {} rfl " t ").2 hne
  have hwritten :
      (DiskVault.store ⟨DiskVault.fileWithKey, DiskVault.diskWithKey⟩ .token "t").1 = .ok () := by
    rfl
  have hsecond : n = 1 := by
    refine hn.unique ⟨.inl (by decide), fun i hi => Nat.one_le_iff_ne_zero.mpr ?_⟩
    rintro rfl
    exact absurd hi (by decide)
  have hfirst : m = 0 := hm.unique ⟨.inl (by decide), fun i _ => i.zero_le⟩
  rw [hsecond, htrim] at haccepted
  rw [hsecond] at hattempts
  rw [hfirst] at hrefused
  obtain ⟨hok, -, -, hfile⟩ := haccepted ⟨by decide, by decide⟩ hwritten
  obtain ⟨herror, hvault⟩ := hrefused (by rintro ⟨-, h⟩; exact absurd h (by decide))
  refine ⟨hok, ?_, hfile, herror, hvault⟩
  have hlength := congrArg List.length hattempts
  rw [List.length_append, List.length_map, List.length_range] at hlength
  exact hlength

end Desk

end TaskDesk
