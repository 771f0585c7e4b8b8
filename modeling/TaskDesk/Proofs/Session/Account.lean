import TaskDesk.Proofs.Session.Tale

/-!
# Every outcome is reported once

What an operator asks for becomes calls of the backend, and each call that has an outcome is
accounted for by what is noted behind it. A failure is followed by one notice and ends the account.
A deletion that went well is followed by one notice in the words of the backend and by a fetch of
the page that is then shown. A page that was past the end is followed by a fetch of the last one,
and any other page by nothing. Of a tick only a rejected credential is told.

## Main definitions

- `Message.IsRequest` — what an operator can ask for
- `Effect.failure?`, `Effect.failureText` — why a call failed, and what the operator reads then
- `Account`, `TickAccount` — a call and a tick that are accounted for

## Main results

- `Tale.account` — every call is accounted for
- `Session.outcomes_reported_once` — so is all that an operator or a tick does, in every order of
  the activities
-/

namespace TaskDesk

/-- The message comes from the operator. -/
def Message.IsRequest : Message → Prop
  | .refreshRequested | .pageChanged _ | .pageSizeChanged _ | .statusFilterChanged _
  | .kindFilterChanged _ | .selectionToggled _ | .selectAllToggled | .selectionCleared
  | .batchDeleteRequested | .clearTasksRequested => True
  | .pageLoaded _ _ | .loadFailed _ | .batchDeleted _ _ | .tasksCleared _ | .actionFailed _
  | .authInvalid | .disposed => False

/-- The failure, if it is one. -/
def ApiError.of? {α : Type} : Except ApiError α → Option ApiError
  | .ok _ => none
  | .error err => some err

theorem ApiError.of?_eq_some_iff {α : Type} {result : Except ApiError α} {err : ApiError} :
    of? result = some err ↔ result = .error err := by
  cases result <;> simp [of?]

theorem ApiError.of?_eq_none_iff {α : Type} {result : Except ApiError α} :
    of? result = none ↔ ∃ a, result = .ok a := by
  cases result <;> simp [of?]

namespace Effect

/-- The acknowledgement in the outcome of a deletion. -/
def acknowledgement (outcome : Except ApiError ApiResponse) : Except ApiError Acknowledgement :=
  outcome.bind fun r => r.read Acknowledgement.read?

/-- Why the call of an effect failed, if it did: there was no answer, or a refusal, or one that
cannot be read. -/
def failure? (source : ListSource) (e : Effect) (outcome : Except ApiError ApiResponse) :
    Option ApiError :=
  match e with
  | fetchPage query => ApiError.of? (outcome.bind (source.snapshot query))
  | batchDelete _ | clearTasks _ _ => ApiError.of? (acknowledgement outcome)
  | startPolling | stopPolling | notify _ _ => none

/-- What an operator reads first about a call that failed. -/
def failurePrefix : Effect → String
  | batchDelete _ => "Delete failed: "
  | clearTasks _ _ => "Clear failed: "
  | fetchPage _ | startPolling | stopPolling | notify _ _ => "Failed to load tasks: "

/-- What an operator reads about a call that failed. -/
def failureText (e : Effect) (err : ApiError) : String :=
  if err.isAuthInvalid then ListState.rejectionText else e.failurePrefix ++ err.message

/-- What an operator reads about a deletion if the backend says nothing about it. -/
def ownText? : Effect → Option String
  | batchDelete ids => some (deletedText ids)
  | clearTasks _ _ => some "Tasks cleared"
  | _ => none

theorem isPolling_of_isCall {e : Effect} (he : e.isCall = true) : e.isPolling = false := by
  cases e with
  | fetchPage | batchDelete | clearTasks => rfl
  | startPolling | stopPolling | notify => cases he

theorem isPolling_of_mem_switch {b c : Bool} {e : Effect} (h : e ∈ switch b c) :
    e.isPolling = true := by
  rw [← filter_isPolling_switch] at h
  exact (List.mem_filter.mp h).2

end Effect

/-- The call of an effect with everything that comes of it. -/
inductive Account (source : ListSource) : List Deed → Prop
  /-- It fails, and the operator is told. -/
  | failed {s : ListState} {e : Effect} {outcome : Except ApiError ApiResponse} {err : ApiError}
      (he : e.isCall = true) (h : e.failure? source outcome = some err) :
      Account source [.made s e, .landed e outcome, .told .error (e.failureText err)]
  /-- A page comes. -/
  | loaded {s : ListState} {query : ListQuery} {outcome : Except ApiError ApiResponse}
      (h : Effect.failure? source (.fetchPage query) outcome = none) :
      Account source [.made s (.fetchPage query), .landed (.fetchPage query) outcome]
  /-- A page comes that was past the end, and one further ahead is asked for instead. -/
  | corrected {s t : ListState} {query : ListQuery} {outcome : Except ApiError ApiResponse}
      {deeds : List Deed} (h : Effect.failure? source (.fetchPage query) outcome = none)
      (hquery : t.query = { query with page := t.query.page }) (hless : t.query.page < query.page)
      (hrest : Account source (.made t (.fetchPage t.query) :: deeds)) :
      Account source
        (.made s (.fetchPage query) :: .landed (.fetchPage query) outcome ::
          .made t (.fetchPage t.query) :: deeds)
  /-- A deletion is acknowledged, the operator is told in the words of the backend if there are any,
  and the current page is asked for. -/
  | acknowledged {s t : ListState} {e : Effect} {outcome : Except ApiError ApiResponse}
      {ack : Acknowledgement} {own : String} {deeds : List Deed} (hown : e.ownText? = some own)
      (h : Effect.acknowledgement outcome = .ok ack)
      (hrest : Account source (.made t (.fetchPage t.query) :: deeds)) :
      Account source
        (.made s e :: .landed e outcome ::
          .told .success (if Text.isBlank ack.message then own else ack.message) ::
          .made t (.fetchPage t.query) :: deeds)

/-- The fetch of a tick with everything that comes of it. -/
inductive TickAccount (source : ListSource) : List Deed → Prop
  /-- It fails, and nobody is told. -/
  | missed {query : ListQuery} {outcome : Except ApiError ApiResponse} {err : ApiError}
      (h : Effect.failure? source (.fetchPage query) outcome = some err)
      (hauth : err.isAuthInvalid = false) : TickAccount source [.polled query outcome]
  /-- The credential is rejected, and the operator is told. -/
  | rejected {query : ListQuery} {outcome : Except ApiError ApiResponse} {err : ApiError}
      (h : Effect.failure? source (.fetchPage query) outcome = some err)
      (hauth : err.isAuthInvalid = true) :
      TickAccount source [.polled query outcome, .told .error ListState.rejectionText]
  /-- A page comes. -/
  | loaded {query : ListQuery} {outcome : Except ApiError ApiResponse}
      (h : Effect.failure? source (.fetchPage query) outcome = none) :
      TickAccount source [.polled query outcome]
  /-- A page comes that was past the end, and one further ahead is asked for instead. -/
  | corrected {t : ListState} {query : ListQuery} {outcome : Except ApiError ApiResponse}
      {deeds : List Deed} (h : Effect.failure? source (.fetchPage query) outcome = none)
      (hquery : t.query = { query with page := t.query.page }) (hless : t.query.page < query.page)
      (hrest : Account source (.made t (.fetchPage t.query) :: deeds)) :
      TickAccount source (.polled query outcome :: .made t (.fetchPage t.query) :: deeds)

/-! ## What messages ask for -/

namespace ListState

theorem update_of_open {s : ListState} (h : s.disposed = false) (m : Message) :
    s.update m = s.react m := by
  rw [update, if_neg (by simp [h])]

/-- A rejected credential turns polling off, and the operator is told. -/
theorem effects_authInvalid {s : ListState} (h : s.disposed = false) :
    (s.update .authInvalid).2 = Effect.switch s.polling false ++ [.failure rejectionText] := by
  rw [update_of_open h, react, stopPolling_eq]
  rfl

/-- A page that comes turns polling on or off, unless it was past the end. -/
theorem effects_pageLoaded {s : ListState} (h : s.disposed = false) (query : ListQuery)
    (snapshot : Snapshot) :
    (∀ e ∈ (s.update (.pageLoaded query snapshot)).2, e.isPolling = true) ∨
      query = s.query ∧ s.IsPastEnd snapshot.total ∧
        (s.update (.pageLoaded query snapshot)).2 =
          [.fetchPage (s.after (.pageLoaded query snapshot)).query] := by
  unfold after
  rw [update_of_open h, react]
  unfold receive
  split
  · next hq =>
    simp only [load_fst, decide_eq_true_eq]
    split
    · next hend =>
      rw [fetch_eq]
      exact .inr ⟨hq, hend, rfl⟩
    · rw [settlePolling_eq]
      exact .inl fun e he => Effect.isPolling_of_mem_switch he
  · exact .inl (List.forall_mem_nil _)

/-- A call that failed turns polling off at most, and the operator is told. -/
theorem effects_asMessage {s : ListState} (hopen : s.disposed = false) (e : Effect) {err : ApiError}
    {otherwise : String → Message}
    (h : (s.react (otherwise err.message)).2 = [.failure (e.failurePrefix ++ err.message)]) :
    ∃ switched, (∀ f ∈ switched, f.isPolling = true) ∧
      (s.update (err.asMessage otherwise)).2 = switched ++ [.failure (e.failureText err)] := by
  rw [ApiError.asMessage, Effect.failureText]
  cases hauth : err.isAuthInvalid with
  | true =>
    refine ⟨Effect.switch s.polling false, fun f hf => Effect.isPolling_of_mem_switch hf, ?_⟩
    exact effects_authInvalid hopen
  | false =>
    refine ⟨[], List.forall_mem_nil _, ?_⟩
    rw [update_of_open hopen]
    exact h

theorem effects_of_failure {s : ListState} (hopen : s.disposed = false) {source : ListSource}
    {e : Effect} (he : e.isCall = true) {outcome : Except ApiError ApiResponse} {err : ApiError}
    (h : e.failure? source outcome = some err) :
    ∃ switched, (∀ f ∈ switched, f.isPolling = true) ∧
      (s.update (e.reply source outcome)).2 = switched ++ [.failure (e.failureText err)] := by
  cases e with
  | fetchPage query =>
    have hread := ApiError.of?_eq_some_iff.mp h
    simp only [Effect.reply, hread]
    exact effects_asMessage hopen (.fetchPage query) rfl
  | batchDelete | clearTasks =>
    have hread := ApiError.of?_eq_some_iff.mp h
    unfold Effect.acknowledgement at hread
    simp only [Effect.reply, hread]
    exact effects_asMessage hopen _ rfl
  | startPolling | stopPolling | notify => cases he

/-- A deletion that is acknowledged is told, and the current page is asked for. -/
theorem effects_of_acknowledgement {s : ListState} (hopen : s.disposed = false)
    (source : ListSource) {e : Effect} {own : String} (hown : e.ownText? = some own)
    {outcome : Except ApiError ApiResponse} {ack : Acknowledgement}
    (h : Effect.acknowledgement outcome = .ok ack) :
    (s.update (e.reply source outcome)).2 =
      [.success (ack.textOr own), .fetchPage (s.after (e.reply source outcome)).query] := by
  unfold Effect.acknowledgement at h
  unfold after
  cases e with
  | batchDelete | clearTasks =>
    obtain rfl := Option.some.inj hown
    simp only [Effect.reply, h]
    rw [update_of_open hopen, react, announce, fetch_eq]
  | fetchPage | startPolling | stopPolling | notify => cases hown

/-- What an operator asks for is at most one call. -/
theorem effects_of_isRequest (s : ListState) {m : Message} (hm : m.IsRequest) :
    (s.update m).2 = [] ∨ ∃ e, e.isCall = true ∧ (s.update m).2 = [e] := by
  cases hclosed : s.disposed with
  | true =>
    rw [update_of_disposed hclosed]
    exact .inl rfl
  | false =>
    have hfetch (t : ListState) :
        t.fetch.2 = [] ∨ ∃ e, e.isCall = true ∧ t.fetch.2 = [e] := by
      rw [fetch_eq]
      exact .inr ⟨_, rfl, rfl⟩
    rw [update_of_open hclosed]
    cases m with
    | refreshRequested | statusFilterChanged | kindFilterChanged => exact hfetch _
    | pageChanged delta =>
      simp only [react]
      split
      · unfold goTo
        split
        · exact hfetch _
        · exact .inl rfl
      · exact .inl rfl
    | pageSizeChanged size =>
      simp only [react, resize]
      split
      · exact .inl rfl
      · split
        · exact hfetch _
        · exact .inl rfl
    | selectionToggled | selectAllToggled | selectionCleared => exact .inl rfl
    | batchDeleteRequested =>
      simp only [react]
      split
      · exact .inl rfl
      · exact .inr ⟨_, rfl, rfl⟩
    | clearTasksRequested => exact .inr ⟨_, rfl, rfl⟩
    | _ => cases hm

/-- The last page is asked for instead of one that was past the end. -/
theorem query_after_correction {s : ListState} (hopen : s.disposed = false) {snapshot : Snapshot}
    (hend : s.IsPastEnd snapshot.total) :
    let t := s.after (.pageLoaded s.query snapshot)
    t.query = { s.query with page := t.query.page } ∧ t.query.page < s.query.page := by
  intro t
  have hquery : t.query = _ := query_after_of_isPastEnd hopen hend
  obtain ⟨-, hlt⟩ := hend
  have hone := (PageCursor.of s.query.page s.query.size snapshot.total).one_le_totalPages
  rw [hquery]
  refine ⟨rfl, ?_⟩
  change (PageCursor.of s.query.page s.query.size snapshot.total).totalPages < s.query.page
  omega

end ListState

/-! ## Calls -/

namespace Tale

variable {source : ListSource} {s : ListState}

theorem eq_nil {effects : List Effect} {deeds : List Deed}
    (h : Tale source (.acts s effects) true deeds) (heffects : ∀ e ∈ effects, e.isPolling = true) :
    deeds = [] := by
  induction effects with
  | nil =>
    cases h
    rfl
  | cons e effects ih =>
    obtain ⟨he, heffects⟩ := List.forall_mem_cons.mp heffects
    cases h with
    | tells => cases he
    | turns _ h => exact ih h heffects
    | makes hcall =>
      rw [Effect.isPolling_of_isCall hcall] at he
      cases he

/-- A notice comes last. -/
theorem eq_told {switched : List Effect} {level : NoticeLevel} {text : String} {deeds : List Deed}
    (h : Tale source (.acts s (switched ++ [.notify level text])) true deeds)
    (hswitched : ∀ e ∈ switched, e.isPolling = true) : deeds = [.told level text] := by
  induction switched with
  | nil =>
    cases h with
    | tells h =>
      cases h
      rfl
    | turns he => cases he
    | makes he => cases he
  | cons e switched ih =>
    obtain ⟨he, hswitched⟩ := List.forall_mem_cons.mp hswitched
    rw [List.cons_append] at h
    generalize hrest : switched ++ [Effect.notify level text] = rest at h ih
    cases h with
    | tells => cases he
    | turns _ h => exact ih h hswitched
    | makes => simp at hrest

theorem exists_made {e : Effect} (he : e.isCall = true) {deeds : List Deed}
    (h : Tale source (.acts s [e]) true deeds) :
    ∃ rest, deeds = .made s e :: rest ∧ Tale source (.calls e) true rest := by
  cases h with
  | tells => cases he
  | turns hpolling =>
    rw [Effect.isPolling_of_isCall he] at hpolling
    cases hpolling
  | makes _ h => exact ⟨_, rfl, h⟩

/-- A page that comes ends the matter, or it was past the end and the last one is asked for. -/
theorem nil_or_corrected (hopen : s.disposed = false) {query : ListQuery} {snapshot : Snapshot}
    {deeds : List Deed}
    (h : Tale source
      (.acts (s.after (.pageLoaded query snapshot)) (s.update (.pageLoaded query snapshot)).2) true
      deeds) :
    deeds = [] ∨
      ∃ (t : ListState) (rest : List Deed), t.query = { query with page := t.query.page } ∧
        t.query.page < query.page ∧ deeds = .made t (.fetchPage t.query) :: rest ∧
        Tale source (.calls (.fetchPage t.query)) true rest := by
  rcases ListState.effects_pageLoaded hopen query snapshot with hpolling | ⟨rfl, hend, heffects⟩
  · exact .inl (h.eq_nil hpolling)
  · rw [heffects] at h
    obtain ⟨rest, rfl, hrest⟩ := h.exists_made rfl
    obtain ⟨hquery, hless⟩ := ListState.query_after_correction hopen hend
    exact .inr ⟨_, rest, hquery, hless, rfl, hrest⟩

/-- A deletion that is acknowledged is told before the page is asked for. -/
theorem exists_acknowledged {t : ListState} {query : ListQuery} {text : String}
    {deeds : List Deed}
    (h : Tale source (.acts t [.success text, .fetchPage query]) true deeds) :
    ∃ rest, deeds = .told .success text :: .made t (.fetchPage query) :: rest ∧
      Tale source (.calls (.fetchPage query)) true rest := by
  cases h with
  | tells h =>
    obtain ⟨rest, rfl, hrest⟩ := h.exists_made rfl
    exact ⟨rest, rfl, hrest⟩
  | turns he => cases he

theorem exists_taken {m : Message} {deeds : List Deed} (h : Tale source (.takes m) true deeds) :
    ∃ u : ListState, u.disposed = false ∧
      Tale source (.acts (u.after m) (u.update m).2) true deeds := by
  cases h with
  | takes hopen h => exact ⟨_, hopen, h⟩

theorem exists_landed {e : Effect} {deeds : List Deed} (h : Tale source (.calls e) true deeds) :
    ∃ (outcome : Except ApiError ApiResponse) (rest : List Deed),
      deeds = .landed e outcome :: rest ∧
        Tale source (.takes (e.reply source outcome)) true rest := by
  cases h with
  | lands outcome h => exact ⟨outcome, _, rfl, h⟩

/-- Every call is accounted for. -/
theorem account {e : Effect} (he : e.isCall = true) {deeds : List Deed}
    (h : Tale source (.calls e) true deeds) (s : ListState) :
    Account source (.made s e :: deeds) := by
  -- On the deeds: the page that is asked for next comes with fewer of them.
  induction hn : deeds.length using Nat.strong_induction_on generalizing e deeds s with
  | _ n ih =>
    obtain ⟨outcome, told, rfl, htakes⟩ := h.exists_landed
    obtain ⟨u, hopen, hacts⟩ := htakes.exists_taken
    have hnext (before : List Deed) {rest : List Deed} {t : ListState}
        (htold : told = before ++ .made t (.fetchPage t.query) :: rest)
        (hrest : Tale source (.calls (.fetchPage t.query)) true rest) :
        Account source (.made t (.fetchPage t.query) :: rest) := by
      refine ih rest.length ?_ rfl hrest t rfl
      rw [← hn, htold, List.length_cons, List.length_append, List.length_cons]
      omega
    have hacknowledged {own : String} (hown : e.ownText? = some own) {ack : Acknowledgement}
        (hack : Effect.acknowledgement outcome = .ok ack) :
        Account source (.made s e :: .landed e outcome :: told) := by
      rw [ListState.effects_of_acknowledgement hopen source hown hack] at hacts
      obtain ⟨rest, rfl, hrest⟩ := hacts.exists_acknowledged
      exact .acknowledged hown hack (hnext [_] rfl hrest)
    cases hfailure : e.failure? source outcome with
    | some err =>
      obtain ⟨switched, hswitched, heffects⟩ := ListState.effects_of_failure hopen he hfailure
      rw [heffects] at hacts
      rw [hacts.eq_told hswitched]
      exact .failed he hfailure
    | none =>
      cases e with
      | fetchPage query =>
        obtain ⟨snapshot, hread⟩ := ApiError.of?_eq_none_iff.mp hfailure
        simp only [Effect.reply, hread] at hacts
        rcases hacts.nil_or_corrected hopen with rfl | ⟨t, rest, hquery, hless, rfl, hrest⟩
        · exact .loaded hfailure
        · exact .corrected hfailure hquery hless (hnext [] rfl hrest)
      | batchDelete | clearTasks =>
        obtain ⟨ack, hack⟩ := ApiError.of?_eq_none_iff.mp hfailure
        exact hacknowledged rfl hack
      | startPolling | stopPolling | notify => cases he

/-- What an operator asks for leads to no call, or to one that is accounted for. -/
theorem account_of_isRequest {m : Message} (hm : m.IsRequest) {deeds : List Deed}
    (h : Tale source (.takes m) true deeds) : deeds = [] ∨ Account source deeds := by
  obtain ⟨u, -, hacts⟩ := h.exists_taken
  rcases u.effects_of_isRequest hm with hnone | ⟨e, he, hcall⟩
  · rw [hnone] at hacts
    exact .inl (hacts.eq_nil (List.forall_mem_nil _))
  · rw [hcall] at hacts
    obtain ⟨rest, rfl, hrest⟩ := hacts.exists_made he
    exact .inr (hrest.account he _)

/-- A tick does not begin, or its fetch is accounted for. -/
theorem tickAccount {deeds : List Deed} (h : Tale source .ticks true deeds) :
    deeds = [] ∨ TickAccount source deeds := by
  cases h with
  | stopped => exact .inl rfl
  | asks h =>
    refine .inr ?_
    cases h with
    | misses hread hauth => exact .missed (ApiError.of?_eq_some_iff.mpr hread) hauth
    | rejects hread hauth htakes =>
      obtain ⟨u, hopen, hacts⟩ := htakes.exists_taken
      rw [ListState.effects_authInvalid hopen] at hacts
      rw [hacts.eq_told fun f hf => Effect.isPolling_of_mem_switch hf]
      exact .rejected (ApiError.of?_eq_some_iff.mpr hread) hauth
    | brings hread htakes =>
      have hloaded := ApiError.of?_eq_none_iff.mpr ⟨_, hread⟩
      obtain ⟨u, hopen, hacts⟩ := htakes.exists_taken
      rcases hacts.nil_or_corrected hopen with rfl | ⟨t, rest, hquery, hless, rfl, hrest⟩
      · exact .loaded hloaded
      · exact .corrected hloaded hquery hless (hrest.account rfl t)

end Tale

namespace Session

variable {κ : Type} [Vault κ]

/-- As long as the view is not closed, and in every order of the activities: what an operator asks
for leads to no call, or to one that is accounted for. A call that fails, its retries included, is
followed by one notice of an error. A deletion that is acknowledged is followed by one notice of
success, which has the words of the backend, or others if those are blank, and then by a fetch of
the page that the list then asks for. A page that was past the end is followed by a fetch of one
further ahead. There are no other calls and no other notices. Of a tick whose own fetch fails
nothing is told, unless the credential was rejected, of which one notice is given. What has been
noted up to some point is the beginning of such an account, and all of it once the activity is over.
Whatever turns the session takes, the activity that goes on at first has such a course, and a step
gives exactly the notices that are noted about it. -/
theorem outcomes_reported_once (s : Session κ) :
    (∀ (m : Message) (origin : Origin), m.IsRequest →
      s.running = some (.work { queue := [m], origin }) →
        ∀ deeds stage t, Course s deeds stage t → t.state.disposed = false →
          ∃ rest, (deeds ++ rest = [] ∨ Account s.config.source (deeds ++ rest)) ∧
            (stage = .ended → rest = [])) ∧
      (∀ run, s.running = some (.tick run) →
        ∀ deeds stage t, Course s deeds stage t → t.state.disposed = false →
          ∃ rest, (deeds ++ rest = [] ∨ TickAccount s.config.source (deeds ++ rest)) ∧
            (stage = .ended → rest = [])) ∧
      (s.running.isSome = true → ∀ marks t, Turns s marks t →
        ∃ deeds stage, Course s deeds stage t ∧ t.IsAt stage) ∧
      ∀ a, ∃ told, (s.stepOf a).world.events = s.world.events ++ told ∧
        told.filterMap Event.notice? = (s.deeds a).filterMap Deed.notice? := by
  refine ⟨fun m origin hm hs deeds stage t hcourse hopen => ?_,
    fun run hs deeds stage t hcourse hopen => ?_,
    fun hs marks t hturns => exists_course hs hturns, s.exists_noticed_step⟩
  · obtain ⟨rest, htale, hrest⟩ := hcourse.exists_tale hs .takes hopen
    exact ⟨rest, htale.account_of_isRequest hm, hrest⟩
  · obtain ⟨rest, htale, hrest⟩ := hcourse.exists_tale hs .ticks hopen
    exact ⟨rest, htale.tickAccount, hrest⟩

/-- A session whose backend acknowledges one deletion without a word and then is gone. -/
private def clearing : Session MemoryVault :=
  { config := {}
    policy := { retries := 0 }
    world :=
      { script := [{ content := .response ⟨200, [123, 125]⟩ }]
        vault := ⟨{ admin := some "key" }⟩ } }

/-- The course of an activity that never waits, by the number of its steps. -/
private def unbroken (s : Session MemoryVault) : ℕ → List Deed × Stage × Session MemoryVault
  | 0 => ([], .goes, s)
  | n + 1 =>
    match unbroken s n with
    | (deeds, .goes, t) =>
      match t.running with
      | some a => (deeds ++ t.deeds a, t.stageAfter a, t.stepOf a)
      | none => (deeds, .goes, t)
    | (deeds, stage, t) => (deeds, stage, t)

private theorem course_unbroken (s : Session MemoryVault) (n : ℕ) :
    Course s (unbroken s n).1 (unbroken s n).2.1 (unbroken s n).2.2 := by
  induction n with
  | zero => exact .start
  | succ n ih =>
    simp only [unbroken]
    split
    · next deeds t hn =>
      rw [hn] at ih
      split
      · next a ha => exact ih.goOn ha
      · exact ih
    · next deeds stage t _ hn =>
      rw [hn] at ih
      exact ih

/-- The tasks are cleared, and then their list cannot be fetched: one notice of each. -/
theorem outcomes_reported_once_in_clearing :
    ∃ (deeds : List Deed) (t : Session MemoryVault),
      Course (clearing.beginDispatch .clearTasksRequested) deeds .ended t ∧
        t.state.disposed = false ∧ Account clearing.config.source deeds ∧
        deeds.filterMap Deed.notice? =
          [(.success, "Tasks cleared"), (.error, "Failed to load tasks: script exhausted")] := by
  let s : Session MemoryVault := clearing.beginDispatch .clearTasksRequested
  have hcourse := course_unbroken s 14
  obtain ⟨hrequests, -⟩ := outcomes_reported_once s
  have hstage : (unbroken s 14).2.1 = .ended := by rfl
  have hopen : (unbroken s 14).2.2.state.disposed = false := by decide +kernel
  have hnotices : (unbroken s 14).1.filterMap Deed.notice? =
      [(.success, "Tasks cleared"), (.error, "Failed to load tasks: script exhausted")] := by
    decide +kernel
  rw [hstage] at hcourse
  obtain ⟨rest, haccount, hrest⟩ :=
    hrequests .clearTasksRequested _ trivial rfl _ _ _ hcourse hopen
  obtain rfl := hrest rfl
  rw [List.append_nil] at haccount
  refine ⟨_, _, hcourse, hopen, ?_, hnotices⟩
  rcases haccount with hnil | haccount
  · rw [hnil] at hnotices
    cases hnotices
  · exact haccount

end Session

end TaskDesk
