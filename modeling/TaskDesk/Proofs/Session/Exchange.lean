import TaskDesk.Proofs.Session.Step
import TaskDesk.Proofs.View.Loading
import TaskDesk.Proofs.View.Paging

/-!
# The calls that a message leads to

A message can ask for a call, what the call reports is a message again, and that one can ask for the
next call. A backend that answers differently each time does not keep this up: a deletion, of some
tasks or of all that the filters let through, is followed by a fetch at most, and a fetch is followed
by another one only if the page was past the end, and then for a page further ahead.

## Main definitions

- `ListState.after` — the state once a message has been taken
- `ListState.Requires` — the calls that a message can ask for
- `Exchange` — calls made and messages taken, from a message on
- `Round` — one message, its call and what it reports
- `Falling` — the pages that are asked for one after another

## Main results

- `Exchange.exists_falling` — at most one deletion, and then pages further and further ahead
- `Round.acc` — no exchange goes on for ever
-/

namespace TaskDesk

/-- All replies among the messages say that there are that many tasks. -/
def Message.AllReport (total : Nat) (ms : List Message) : Prop :=
  ∀ m ∈ ms, ∀ n ∈ m.total?, n = total

/-- What a deletion can report. -/
inductive Message.IsReceipt : Message → Prop
  | deleted (ids : List TaskId) (text : String) : IsReceipt (.batchDeleted ids text)
  | cleared (text : String) : IsReceipt (.tasksCleared text)
  | failed (reason : String) : IsReceipt (.actionFailed reason)
  | rejected : IsReceipt .authInvalid

namespace Effect

theorem answer_reply (source : ListSource) (query : ListQuery)
    (outcome : Except ApiError ApiResponse) :
    Fetching.Answer query ((fetchPage query).reply source outcome) := by
  simp only [reply, ApiError.asMessage]
  split
  · exact .loaded _
  · split
    · exact .rejected
    · exact .failed _

theorem isReceipt_reply {e : Effect} (hcall : e.isCall = true) (he : e.query? = none)
    (source : ListSource) (outcome : Except ApiError ApiResponse) :
    (e.reply source outcome).IsReceipt := by
  cases e with
  | fetchPage => cases he
  | startPolling | stopPolling | notify => cases hcall
  | batchDelete ids =>
    simp only [reply, ApiError.asMessage]
    split
    · exact .deleted _ _
    · split
      · exact .rejected
      · exact .failed _
  | clearTasks kind status =>
    simp only [reply, ApiError.asMessage]
    split
    · exact .cleared _
    · split
      · exact .rejected
      · exact .failed _

end Effect

namespace ListState

/-- The state once a message has been taken and the front end has been told. -/
def after (s : ListState) (m : Message) : ListState :=
  { (s.update m).1 with dirty := false }

theorem Paged.after {s : ListState} (hs : s.Paged) (m : Message) : (s.after m).Paged :=
  (hs.update m).of_eq rfl rfl rfl rfl

theorem mode_after (s : ListState) (m : Message) : (s.after m).mode = s.mode :=
  mode_update s m

/-! ## One message -/

/-- A call that a message can ask for. -/
inductive Requires (s : ListState) : Message → Effect → Prop
  /-- A page, for anything but the end of a wait. -/
  | page {m : Message} (hm : ¬ s.EndsWait m) : Requires s m (.fetchPage (s.after m).query)
  /-- The last page, when the page asked for was past the end. -/
  | correction {snapshot : Snapshot} (hopen : s.disposed = false)
      (hend : s.IsPastEnd snapshot.total) :
      Requires s (.pageLoaded s.query snapshot)
        (.fetchPage (s.after (.pageLoaded s.query snapshot)).query)
  | deletion {ids : List TaskId} : Requires s .batchDeleteRequested (.batchDelete ids)
  | clearing {kind : Option TaskKind} {status : Option TaskStatus} :
      Requires s .clearTasksRequested (.clearTasks kind status)

theorem Reaction.endsWait_or_isPastEnd {s t : ListState} {m : Message} {effects : List Effect}
    (h : s.Reaction m t effects) {query : ListQuery} (hq : .fetchPage query ∈ effects) :
    ¬ s.EndsWait m ∨
      ∃ snapshot, m = .pageLoaded s.query snapshot ∧ s.IsPastEnd snapshot.total := by
  cases h with
  | marked hm | turned hm | fetched hm => exact .inl hm
  | corrected hend => exact .inr ⟨_, rfl, hend⟩
  | settled => cases Effect.query?_of_mem_switch hq
  | failed => cases List.mem_singleton.mp hq
  | rejected =>
    rcases List.mem_append.mp hq with hq | hq
    · cases Effect.query?_of_mem_switch hq
    · cases List.mem_singleton.mp hq
  | closed => cases Effect.query?_of_mem_switch hq

theorem requires_of_mem {s : ListState} {m : Message} {e : Effect} (he : e ∈ (s.update m).2)
    (hcall : e.isCall = true) : s.Requires m e := by
  have hopen : s.disposed = false := by
    by_contra hclosed
    rw [update_of_disposed (by simpa using hclosed)] at he
    cases he
  have hpage {query : ListQuery} (hq : .fetchPage query ∈ (s.update m).2) :
      s.Requires m (.fetchPage query) := by
    have hreaction := reaction_update hopen m
    obtain rfl : query = (s.after m).query := hreaction.eq_query hq
    rcases hreaction.endsWait_or_isPastEnd hq with hm | ⟨snapshot, rfl, hend⟩
    · exact .page hm
    · exact .correction hopen hend
  have hdemands := s.demands_update m
  generalize heffects : (s.update m).2 = effects at he hpage hdemands
  cases hdemands with
  | nothing h =>
    rw [h e he] at hcall
    cases hcall
  | page notices h =>
    rcases List.mem_append.mp he with hnotice | hlast
    · rw [h e hnotice] at hcall
      cases hcall
    · obtain rfl := List.mem_singleton.mp hlast
      exact hpage he
  | deletion =>
    obtain rfl := List.mem_singleton.mp he
    exact .deletion
  | clearing =>
    obtain rfl := List.mem_singleton.mp he
    exact .clearing

/-- A page past the end is pulled back to the last one. -/
theorem query_after_of_isPastEnd {s : ListState} (hopen : s.disposed = false) {snapshot : Snapshot}
    (hend : s.IsPastEnd snapshot.total) :
    (s.after (.pageLoaded s.query snapshot)).query =
      { s.query with
        page := (PageCursor.of s.query.page s.query.size snapshot.total).totalPages } := by
  obtain ⟨hmode, hlt⟩ := hend
  have hsteers := steers_update hopen (.pageLoaded s.query snapshot)
  have hpage := PageCursor.clamped_page_of_lt hlt
  cases hsteers with
  | arrived _ hcursor hquery =>
    rw [hcursor, hpage] at hquery
    exact hquery
  | refilled hclient => cases hmode.symm.trans hclient
  | kept hm | asked hm | turned hm | restarted hm | resized hm => exact absurd ⟨_, rfl⟩ hm

theorem page_after_lt {s : ListState} (hs : s.Paged) (hopen : s.disposed = false)
    {snapshot : Snapshot} (hend : s.IsPastEnd snapshot.total) :
    (s.after (.pageLoaded s.query snapshot)).query.page < s.query.page := by
  rw [query_after_of_isPastEnd hopen hend]
  obtain ⟨-, hlt⟩ := hend
  rwa [Nat.max_eq_right hs.one_le_page] at hlt

/-- The last page is not past the end of a list that stays as long. -/
theorem not_isPastEnd_after {s : ListState} (hopen : s.disposed = false) {snapshot : Snapshot}
    (hend : s.IsPastEnd snapshot.total) :
    ¬ (s.after (.pageLoaded s.query snapshot)).IsPastEnd snapshot.total := by
  rintro ⟨-, hlt⟩
  rw [query_after_of_isPastEnd hopen hend, Nat.max_eq_right (PageCursor.one_le_totalPages _)] at hlt
  exact absurd hlt (Nat.lt_irrefl _)

end ListState

/-! ## Calls and what they report -/

/-- One round: a message asks for a call, and what the call reports is the next message. -/
inductive Round (source : ListSource) : ListState × Message → ListState × Message → Prop
  | mk {s : ListState} {m : Message} {e : Effect} (he : e ∈ (s.update m).2)
      (hcall : e.isCall = true) (outcome : Except ApiError ApiResponse) :
      Round source (s, m) (s.after m, e.reply source outcome)

/-- The calls that were made and the messages that were taken up to some point, from a message on
that comes in a state. -/
inductive Exchange (source : ListSource) :
    ListState → Message → List Effect → List Message → Prop
  /-- The message has not been taken. -/
  | pending {s : ListState} {m : Message} : Exchange source s m [] []
  /-- It has been taken, and no call has been made. -/
  | took {s : ListState} {m : Message} : Exchange source s m [] [m]
  /-- It has asked for a call, and the exchange goes on with what that reports. -/
  | called {s : ListState} {m : Message} {e : Effect} {calls : List Effect} {taken : List Message}
      (he : e ∈ (s.update m).2) (hcall : e.isCall = true)
      (outcome : Except ApiError ApiResponse)
      (h : Exchange source (s.after m) (e.reply source outcome) calls taken) :
      Exchange source s m (e :: calls) (m :: taken)

/-- The pages that a view asks for when what it waits for has come: each one further ahead than the
one before, so that there are fewer of them than the number of the page that has come. -/
structure Refetches (s : ListState) (taken : List Message) (queries : List ListQuery) : Prop where
  falls : (s.query :: queries).Pairwise fun q r => r.page < q.page
  length_lt : queries.length < s.query.page
  nil_of_client : s.mode = .client → queries = []
  length_le : ∀ total, Message.AllReport total taken →
    queries.length ≤ if s.IsPastEnd total then 1 else 0

/-- The pages that are asked for one after another, and what was reported meanwhile. -/
structure Falling (mode : PagingMode) (replies : List Message) (queries : List ListQuery) :
    Prop where
  falls : queries.Pairwise fun q r => r.page < q.page
  length_le : ∀ first ∈ queries.head?, queries.length ≤ first.page
  length_le_two : (∃ total, Message.AllReport total replies) → queries.length ≤ 2
  length_le_one : mode = .client → queries.length ≤ 1

namespace Refetches

open ListState

theorem nil {s : ListState} (hs : s.Paged) (taken : List Message) : Refetches s taken [] where
  falls := List.pairwise_singleton _ _
  length_lt := hs.one_le_page
  nil_of_client _ := rfl
  length_le _ _ := Nat.zero_le _

/-- A page that was past the end comes before the pages that are asked for instead. -/
theorem cons {s : ListState} {snapshot : Snapshot} {taken : List Message}
    {queries : List ListQuery} (hs : s.Paged) (hopen : s.disposed = false)
    (hend : s.IsPastEnd snapshot.total)
    (h : Refetches (s.after (.pageLoaded s.query snapshot)) taken queries) :
    Refetches s (.pageLoaded s.query snapshot :: taken)
      ((s.after (.pageLoaded s.query snapshot)).query :: queries) := by
  have hlt := page_after_lt hs hopen hend
  have hkept := not_isPastEnd_after hopen hend
  generalize s.after (.pageLoaded s.query snapshot) = t at h hlt hkept
  obtain ⟨hbehind, -⟩ := List.pairwise_cons.mp h.falls
  refine ⟨List.pairwise_cons.mpr ⟨fun r hr => ?_, h.falls⟩, ?_, fun hclient => ?_, ?_⟩
  · rcases List.mem_cons.mp hr with rfl | hr
    · exact hlt
    · exact (hbehind r hr).trans hlt
  · have hlength := h.length_lt
    rw [List.length_cons]
    omega
  · cases hend.1.symm.trans hclient
  · intro total hall
    obtain ⟨hthis, hrest⟩ := List.forall_mem_cons.mp hall
    obtain rfl : snapshot.total = total := hthis _ rfl
    have hnone := h.length_le _ hrest
    rw [if_neg hkept] at hnone
    rw [if_pos hend, List.length_cons]
    omega

end Refetches

/-- The page that is asked for first comes before those that are asked for instead. -/
theorem Refetches.falling {s : ListState} {taken : List Message} {queries : List ListQuery}
    (h : Refetches s taken queries) : Falling s.mode taken (s.query :: queries) where
  falls := h.falls
  length_le := by
    intro first hfirst
    obtain rfl := Option.some.inj hfirst
    exact h.length_lt
  length_le_two := by
    rintro ⟨total, hall⟩
    have hlength := h.length_le total hall
    rw [List.length_cons]
    split at hlength <;> omega
  length_le_one hclient := by
    rw [h.nil_of_client hclient]
    exact le_rfl

namespace Falling

theorem nil (mode : PagingMode) (replies : List Message) : Falling mode replies [] where
  falls := .nil
  length_le := nofun
  length_le_two _ := Nat.zero_le _
  length_le_one _ := Nat.zero_le _

theorem of_tail {mode : PagingMode} {replies : List Message} {queries : List ListQuery}
    (h : Falling mode replies.tail queries) : Falling mode replies queries where
  falls := h.falls
  length_le := h.length_le
  length_le_two := by
    rintro ⟨total, hall⟩
    exact h.length_le_two ⟨total, fun m hm => hall m (List.mem_of_mem_tail hm)⟩
  length_le_one := h.length_le_one

end Falling

namespace Exchange

open ListState

variable {source : ListSource} {s : ListState} {m : Message} {calls : List Effect}
  {taken : List Message}

/-- When a fetch has reported, only pages are asked for, further and further ahead. -/
theorem exists_refetches (h : Exchange source s m calls taken) (hs : s.Paged)
    (hm : Fetching.Answer s.query m) :
    ∃ queries, calls = queries.map .fetchPage ∧ Refetches s taken queries := by
  induction h with
  | pending | took => exact ⟨[], rfl, Refetches.nil hs _⟩
  | @called s m e calls taken he hcall outcome h ih =>
    have hrequires := requires_of_mem he hcall
    cases hrequires with
    | correction hopen hend =>
      obtain ⟨queries, rfl, hqueries⟩ := ih (hs.after _) (Effect.answer_reply source _ outcome)
      exact ⟨_, rfl, hqueries.cons hs hopen hend⟩
    | page hnot => cases hm <;> exact absurd (by trivial) hnot
    | deletion | clearing => cases hm

theorem falling_of_page (hs : s.Paged) {outcome : Except ApiError ApiResponse}
    (h : Exchange source (s.after m) (Effect.reply source (.fetchPage (s.after m).query) outcome)
      calls taken) :
    ∃ queries, .fetchPage (s.after m).query :: calls = queries.map .fetchPage ∧
      Falling s.mode taken queries := by
  obtain ⟨queries, rfl, hqueries⟩ :=
    h.exists_refetches (hs.after m) (Effect.answer_reply source _ outcome)
  refine ⟨_ :: queries, rfl, ?_⟩
  rw [← s.mode_after m]
  exact hqueries.falling

/-- When a deletion has reported, only pages are asked for. -/
theorem exists_falling_of_isReceipt (h : Exchange source s m calls taken) (hs : s.Paged)
    (hm : m.IsReceipt) :
    ∃ queries, calls = queries.map .fetchPage ∧ Falling s.mode taken.tail queries := by
  cases h with
  | pending | took => exact ⟨[], rfl, Falling.nil _ _⟩
  | called he hcall outcome h =>
    have hrequires := requires_of_mem he hcall
    cases hrequires with
    | page => exact falling_of_page hs h
    | correction | deletion | clearing => cases hm

/-- Whatever is reported, a message leads to at most one deletion, and then to pages further and
further ahead. -/
theorem exists_falling (h : Exchange source s m calls taken) (hs : s.Paged) :
    ∃ deletions queries, calls = deletions ++ queries.map .fetchPage ∧ deletions.length ≤ 1 ∧
      (∀ e ∈ deletions, e.query? = none) ∧ Falling s.mode taken.tail queries := by
  cases h with
  | pending | took => exact ⟨[], [], rfl, Nat.zero_le _, List.forall_mem_nil _, Falling.nil _ _⟩
  | called he hcall outcome h =>
    have hrequires := requires_of_mem he hcall
    cases hrequires with
    | page | correction =>
      obtain ⟨queries, hcalls, hqueries⟩ := falling_of_page hs h
      exact ⟨[], queries, hcalls, Nat.zero_le _, List.forall_mem_nil _, hqueries⟩
    | deletion | clearing =>
      obtain ⟨queries, rfl, hqueries⟩ := h.exists_falling_of_isReceipt (hs.after _)
        (Effect.isReceipt_reply hcall rfl source outcome)
      rw [mode_after] at hqueries
      exact ⟨[_], queries, rfl, le_rfl, List.forall_mem_singleton.mpr rfl, hqueries.of_tail⟩

end Exchange

namespace Round

open ListState

variable {source : ListSource}

/-- After the report of a fetch no exchange goes on for ever: the page that is asked for next, if
any, is further ahead. -/
theorem acc_of_answer (page : Nat) {s : ListState} {m : Message} (hs : s.Paged)
    (hpage : s.query.page = page) (hm : Fetching.Answer s.query m) :
    Acc (fun next this => Round source this next) (s, m) := by
  induction page using Nat.strongRecOn generalizing s m with
  | ind page ih =>
    refine ⟨_, ?_⟩
    rintro next (⟨he, hcall, outcome⟩)
    have hrequires := requires_of_mem he hcall
    cases hrequires with
    | correction hopen hend =>
      exact ih _ (hpage ▸ page_after_lt hs hopen hend) (hs.after _) rfl
        (Effect.answer_reply source _ outcome)
    | page hnot => cases hm <;> exact absurd (by trivial) hnot
    | deletion | clearing => cases hm

theorem acc_of_isReceipt {s : ListState} {m : Message} (hs : s.Paged) (hm : m.IsReceipt) :
    Acc (fun next this => Round source this next) (s, m) := by
  refine ⟨_, ?_⟩
  rintro next (⟨he, hcall, outcome⟩)
  have hrequires := requires_of_mem he hcall
  cases hrequires with
  | page => exact acc_of_answer _ (hs.after m) rfl (Effect.answer_reply source _ outcome)
  | correction | deletion | clearing => cases hm

/-- No exchange goes on for ever. -/
theorem acc {s : ListState} (hs : s.Paged) (m : Message) :
    Acc (fun next this => Round source this next) (s, m) := by
  refine ⟨_, ?_⟩
  rintro next (⟨he, hcall, outcome⟩)
  have hrequires := requires_of_mem he hcall
  cases hrequires with
  | page | correction =>
    exact acc_of_answer _ (hs.after _) rfl (Effect.answer_reply source _ outcome)
  | deletion | clearing =>
    exact acc_of_isReceipt (hs.after _) (Effect.isReceipt_reply hcall rfl source outcome)

end Round

end TaskDesk
