import Mathlib.Data.Multiset.AddSub
import Mathlib.Logic.Relation
import TaskDesk.Proofs.View.Reported

/-!
# Replies that overtake each other

A fetch brings what the backend had when the fetch was sent, and replies come in any order. A view
takes in the reply to a fetch of its query whenever it comes, so a reply that was overtaken by a
newer one replaces it. After a deletion this brings a deleted row back, until the next reply is
taken in. Only the fetches that were in flight at the deletion can do that.

## Main definitions

- `Ask` — a fetch with its number
- `Traffic` — a list view, the fetches in flight and the replies that were taken in
- `Traffic.Step` — messages, fetches of the poller and replies, in any order

## Main results

- `Traffic.deleted_stay_away` — a deleted row comes back with a newer reply or with an overtaken one
- `Traffic.deleted_comes_back` — the latter does happen
-/

namespace TaskDesk

/-- A fetch of a page. Fetches are numbered in the order in which they are sent. -/
structure Ask where
  number : Nat
  query : ListQuery
deriving DecidableEq

/-- What the fetch brings, if it brings anything: what the backend had when the fetch was sent. -/
def Ask.snapshot (backend : Nat → ListQuery → Snapshot) (a : Ask) : Snapshot :=
  backend a.number a.query

/-- A list view and its fetches. -/
structure Traffic where
  state : ListState
  /-- How many fetches were sent. -/
  issued : Nat := 0
  flying : Multiset Ask := 0
  /-- The fetches whose replies the view has taken in, the latest first. -/
  applied : List Ask := []

namespace ListState

/-- The view takes in replies for that query. -/
def Expects (s : ListState) (query : ListQuery) : Prop :=
  s.disposed = false ∧ query = s.query

instance (s : ListState) (query : ListQuery) : Decidable (s.Expects query) :=
  inferInstanceAs (Decidable (_ ∧ _))

theorem update_pageLoaded_of_not_expects {s : ListState} {query : ListQuery}
    (h : ¬ s.Expects query) (snapshot : Snapshot) :
    s.update (.pageLoaded query snapshot) = (s, []) := by
  cases hopen : s.disposed with
  | true => exact update_of_disposed hopen _
  | false =>
    have hquery : query ≠ s.query := fun hq => h ⟨hopen, hq⟩
    simp [update, hopen, react, receive, hquery]

/-- Every row belongs to a task that was taken in last. -/
def RowsKept (s : ListState) : Prop :=
  ∀ id ∈ s.page.ids, ∃ task ∈ s.tasks, task.id = id

theorem Draws.rowsKept {s t : ListState} {m : Message} (h : s.Draws m t) (hs : s.RowsKept) :
    t.RowsKept := by
  intro id hid
  cases h with
  | kept _ _ hpage _ htasks | strayed _ hpage _ htasks =>
    rw [hpage] at hid
    rw [htasks]
    exact hs id hid
  | remarked _ _ hpage htasks =>
    rw [hpage, ShownPage.ids_remark] at hid
    rw [htasks]
    exact hs id hid
  | rebuilt _ hpage =>
    rw [hpage, ShownPage.ids_of] at hid
    obtain ⟨task, hmem, rfl⟩ := List.mem_map.mp hid
    exact ⟨task, mem_tasks_of_mem_visibleTasks hmem, rfl⟩

theorem RowsKept.update {s : ListState} (h : s.RowsKept) (m : Message) :
    (s.update m).1.RowsKept := by
  cases hopen : s.disposed with
  | true => rwa [update_of_disposed hopen]
  | false => exact (draws_update hopen m).rowsKept h

theorem Opened.rowsKept {s : ListState} (h : s.Opened) : s.RowsKept := by
  obtain ⟨mode, query, rfl⟩ := h.exists_ofQuery
  exact List.forall_mem_nil _

theorem tasks_update_of_not_pageLoaded (s : ListState) {m : Message}
    (hm : ∀ query snapshot, m ≠ .pageLoaded query snapshot) : (s.update m).1.tasks = s.tasks := by
  cases hopen : s.disposed with
  | true => rw [update_of_disposed hopen]
  | false =>
    obtain ⟨-, htasks⟩ | ⟨snapshot, hloaded, -⟩ := (reaction_update hopen m).seen_eq
    · exact htasks
    · exact absurd hloaded (hm _ _)

end ListState

namespace Traffic

/-- Sends fetches of these pages. -/
def issue (f : Traffic) (queries : List ListQuery) : Traffic :=
  { f with
    issued := f.issued + queries.length
    flying := f.flying + ((queries.zipIdx f.issued).map fun p => ⟨p.2, p.1⟩ : List Ask) }

/-- The view takes a message. What it then asks for is sent. -/
def take (f : Traffic) (m : Message) : Traffic :=
  { f with state := (f.state.update m).1 }.issue ((f.state.update m).2.filterMap Effect.query?)

/-- A fetch is not in flight any more. -/
def settle (f : Traffic) (a : Ask) : Traffic :=
  { f with flying := f.flying.erase a }

/-- The view takes in the reply to a fetch if it is for its query. -/
def note (f : Traffic) (a : Ask) : Traffic :=
  { f with applied := if f.state.Expects a.query then a :: f.applied else f.applied }

variable (backend : Nat → ListQuery → Snapshot)

/-- The reply to a fetch comes. -/
def land (f : Traffic) (a : Ask) : Traffic :=
  ((f.note a).settle a).take (.pageLoaded a.query (a.snapshot backend))

/-- One thing that happens. -/
inductive Step (f : Traffic) : Traffic → Prop
  /-- A message other than a reply comes from anywhere. -/
  | message {m : Message} (hm : ∀ query snapshot, m ≠ .pageLoaded query snapshot) :
      Step f (f.take m)
  /-- The poller asks for the page of the query of the view. -/
  | polled : Step f (f.issue [f.state.query])
  /-- Any of the fetches in flight is answered. -/
  | replied {a : Ask} (ha : a ∈ f.flying) : Step f (f.land backend a)
  /-- It fails. -/
  | lost {a : Ask} (ha : a ∈ f.flying) : Step f (f.settle a)

/-! ## What is old stays old -/

/-- Of the fetches that were sent before the first one of two points, whatever is in flight at the
second one, or was taken in between, was in flight at the first one. -/
structure Follows (f g : Traffic) : Prop where
  issued_le : f.issued ≤ g.issued
  flying : ∀ a ∈ g.flying, a.number < f.issued → a ∈ f.flying
  applied : ∃ new, g.applied = new ++ f.applied ∧ ∀ a ∈ new, a.number < f.issued → a ∈ f.flying

theorem Follows.refl (f : Traffic) : f.Follows f :=
  ⟨le_rfl, fun _ ha _ => ha, [], rfl, List.forall_mem_nil _⟩

theorem Follows.trans {f g h : Traffic} (hfg : f.Follows g) (hgh : g.Follows h) : f.Follows h where
  issued_le := hfg.issued_le.trans hgh.issued_le
  flying a ha hold := hfg.flying a (hgh.flying a ha (hold.trans_le hfg.issued_le)) hold
  applied := by
    obtain ⟨first, hfirst, hfirstOld⟩ := hfg.applied
    obtain ⟨second, hsecond, hsecondOld⟩ := hgh.applied
    refine ⟨second ++ first, by rw [hsecond, hfirst, List.append_assoc], fun a ha hold => ?_⟩
    rcases List.mem_append.mp ha with ha | ha
    · exact hfg.flying a (hsecondOld a ha (hold.trans_le hfg.issued_le)) hold
    · exact hfirstOld a ha hold

theorem mem_flying_issue {f : Traffic} {queries : List ListQuery} {a : Ask}
    (h : a ∈ (f.issue queries).flying) (hold : a.number < f.issued) : a ∈ f.flying := by
  rcases Multiset.mem_add.mp h with h | h
  · exact h
  · obtain ⟨⟨query, number⟩, hmem, rfl⟩ := List.mem_map.mp (Multiset.mem_coe.mp h)
    have hnew : f.issued ≤ number := (List.mem_zipIdx hmem).1
    exact absurd hold (Nat.not_lt.mpr hnew)

theorem follows_issue (f : Traffic) (queries : List ListQuery) : f.Follows (f.issue queries) :=
  ⟨Nat.le_add_right _ _, fun _ ha hold => mem_flying_issue ha hold, [], rfl, List.forall_mem_nil _⟩

theorem follows_take (f : Traffic) (m : Message) : f.Follows (f.take m) :=
  { follows_issue { f with state := (f.state.update m).1 } _ with }

theorem follows_settle (f : Traffic) (a : Ask) : f.Follows (f.settle a) :=
  ⟨le_rfl, fun _ hb _ => Multiset.mem_of_mem_erase hb, [], rfl, List.forall_mem_nil _⟩

theorem follows_note {f : Traffic} {a : Ask} (ha : a ∈ f.flying) : f.Follows (f.note a) := by
  refine ⟨le_rfl, fun _ hb _ => hb, ?_⟩
  by_cases hexpects : f.state.Expects a.query
  · exact ⟨[a], if_pos hexpects, List.forall_mem_singleton.mpr fun _ => ha⟩
  · exact ⟨[], if_neg hexpects, List.forall_mem_nil _⟩

/-- Nothing is in flight or taken in that was not sent. -/
structure Sent (f : Traffic) : Prop where
  flying : ∀ a ∈ f.flying, a.number < f.issued
  applied : ∀ a ∈ f.applied, a.number < f.issued

theorem Sent.issue {f : Traffic} (h : f.Sent) (queries : List ListQuery) :
    (f.issue queries).Sent := by
  have hmore : f.issued ≤ (f.issue queries).issued := Nat.le_add_right _ _
  refine ⟨fun a ha => ?_, fun a ha => (h.applied a ha).trans_le hmore⟩
  rcases Multiset.mem_add.mp ha with ha | ha
  · exact (h.flying a ha).trans_le hmore
  · obtain ⟨⟨query, number⟩, hmem, rfl⟩ := List.mem_map.mp (Multiset.mem_coe.mp ha)
    exact (List.mem_zipIdx hmem).2.1

theorem Sent.take {f : Traffic} (h : f.Sent) (m : Message) : (f.take m).Sent :=
  Sent.issue (f := { f with state := (f.state.update m).1 }) { h with } _

theorem Sent.settle {f : Traffic} (h : f.Sent) (a : Ask) : (f.settle a).Sent :=
  { h with flying := fun b hb => h.flying b (Multiset.mem_of_mem_erase hb) }

theorem Sent.note {f : Traffic} (h : f.Sent) {a : Ask} (ha : a ∈ f.flying) : (f.note a).Sent := by
  refine ⟨h.flying, fun b hb => ?_⟩
  unfold Traffic.note at hb
  split at hb
  · rcases List.mem_cons.mp hb with rfl | hb
    · exact h.flying b ha
    · exact h.applied b hb
  · exact h.applied b hb

variable {backend}

theorem Step.sent {f g : Traffic} (h : Step backend f g) (hf : f.Sent) : g.Sent := by
  cases h with
  | message => exact hf.take _
  | polled => exact hf.issue _
  | replied ha => exact ((hf.note ha).settle _).take _
  | lost => exact hf.settle _

theorem sent_of_steps {s : ListState} {f : Traffic}
    (h : Relation.ReflTransGen (Step backend) { state := s } f) : f.Sent := by
  induction h with
  | refl => exact ⟨fun a ha => absurd ha (Multiset.notMem_zero a), List.forall_mem_nil _⟩
  | tail _ hstep ih => exact hstep.sent ih

theorem Step.follows {f g : Traffic} (h : Step backend f g) : f.Follows g := by
  cases h with
  | message => exact f.follows_take _
  | polled => exact f.follows_issue _
  | replied ha => exact ((follows_note ha).trans (follows_settle _ _)).trans (follows_take _ _)
  | lost => exact follows_settle _ _

theorem follows_of_steps {f g : Traffic} (h : Relation.ReflTransGen (Step backend) f g) :
    f.Follows g := by
  induction h with
  | refl => exact .refl f
  | tail _ hstep ih => exact ih.trans hstep.follows

/-! ## What is shown -/

/-- The tasks of the view are those that the reply taken in last has brought, and the rows are
some of them. -/
structure Shown (backend : Nat → ListQuery → Snapshot) (f : Traffic) : Prop where
  tasks_eq : f.state.tasks = f.applied.head?.elim [] fun a => (a.snapshot backend).tasks
  rows : f.state.RowsKept

theorem state_land_of_not_expects {f : Traffic} {a : Ask} (h : ¬ f.state.Expects a.query) :
    (f.land backend a).state = f.state := by
  change (f.state.update _).1 = f.state
  rw [ListState.update_pageLoaded_of_not_expects h]

theorem Shown.land {f : Traffic} (h : f.Shown backend) (a : Ask) :
    (f.land backend a).Shown backend := by
  refine ⟨?_, h.rows.update _⟩
  by_cases hexpects : f.state.Expects a.query
  · have happlied : (f.land backend a).applied = a :: f.applied := if_pos hexpects
    rw [happlied]
    obtain ⟨hopen, hquery⟩ := hexpects
    have hshows := ListState.shows_update_reply hopen (a.snapshot backend)
    rw [← hquery] at hshows
    exact hshows.tasks_eq
  · have happlied : (f.land backend a).applied = f.applied := if_neg hexpects
    rw [happlied, state_land_of_not_expects hexpects]
    exact h.tasks_eq

theorem Step.shown {f g : Traffic} (h : Step backend f g) (hf : f.Shown backend) :
    g.Shown backend := by
  cases h with
  | message hm =>
    refine ⟨?_, hf.rows.update _⟩
    exact (f.state.tasks_update_of_not_pageLoaded hm).trans hf.tasks_eq
  | polled | lost => exact ⟨hf.tasks_eq, hf.rows⟩
  | replied ha => exact hf.land _

theorem shown_of_steps {f g : Traffic} (h : Relation.ReflTransGen (Step backend) f g)
    (hf : f.Shown backend) : g.Shown backend := by
  induction h with
  | refl => exact hf
  | tail _ hstep ih => exact hstep.shown ih

theorem shown_of_opened {s : ListState} (hs : s.Opened) : Shown backend { state := s } :=
  ⟨hs.shows.tasks_eq, hs.rowsKept⟩

/-- A row that is shown was brought by the reply taken in last. -/
theorem Shown.exists_last {f : Traffic} (h : f.Shown backend) {row : TaskRow}
    (hrow : row ∈ f.state.view.rows) :
    ∃ last, f.applied.head? = some last ∧
      ∃ task ∈ (last.snapshot backend).tasks, task.id = row.id := by
  obtain ⟨task, htask, hid⟩ := h.rows row.id (List.mem_map_of_mem hrow)
  rw [h.tasks_eq] at htask
  cases hlast : f.applied.head? with
  | none =>
    rw [hlast] at htask
    cases htask
  | some last =>
    rw [hlast] at htask
    exact ⟨last, rfl, task, htask, hid⟩

/-- Of the replies taken in from some point on, one to an older fetch was in flight at that
point. -/
theorem Follows.mem_flying_of_head? {g h : Traffic} (hgh : g.Follows h) {newer last : Ask}
    (hnewer : g.applied.head? = some newer) (hlast : h.applied.head? = some last) {n : Nat}
    (hn : n ≤ newer.number) (hissued : n ≤ g.issued) (hold : last.number < n) :
    last ∈ g.flying := by
  obtain ⟨new, happlied, hnew⟩ := hgh.applied
  rw [happlied] at hlast
  cases new with
  | nil =>
    -- The newer reply is still the last one.
    obtain rfl := Option.some.inj (hnewer.symm.trans hlast)
    omega
  | cons first rest =>
    obtain rfl := Option.some.inj hlast
    exact hnew _ List.mem_cons_self (hold.trans_le hissued)

/-- Every reply brings what the backend had when its fetch was sent, and replies come in any order.
Once some tasks were deleted and the reply to a newer fetch was taken in, a row of one of them is
shown only if the reply taken in last has brought it, and then that reply is to a fetch sent after
the deletion, or to one that was in flight both at the deletion and when the newer reply came. The
reply to an older fetch replaces a newer one only if its fetch was in flight when the newer one
came, and no reply changes anything unless it is for the query that the view has when it comes. -/
theorem deleted_stay_away (backend : Nat → ListQuery → Snapshot) {s : ListState} (hs : s.Opened)
    {f g h : Traffic} {ids : List TaskId} {text : String} {newer : Ask}
    (hf : Relation.ReflTransGen (Step backend) { state := s } f)
    (hg : Relation.ReflTransGen (Step backend) (f.take (.batchDeleted ids text)) g)
    (hnewer : g.applied.head? = some newer) (hsent : f.issued ≤ newer.number)
    (hh : Relation.ReflTransGen (Step backend) g h) :
    (∀ row ∈ h.state.view.rows, row.id ∈ ids →
      ∃ last, h.applied.head? = some last ∧
        (∃ task ∈ (last.snapshot backend).tasks, task.id = row.id) ∧
        (f.issued ≤ last.number ∨ last ∈ f.flying ∧ last ∈ g.flying)) ∧
      (∀ last, h.applied.head? = some last → last.number < newer.number → last ∈ g.flying) ∧
      ∀ a, ¬ h.state.Expects a.query → (h.land backend a).state = h.state := by
  have hdeleted : Step backend f (f.take (.batchDeleted ids text)) := .message nofun
  have hreached := (hf.tail hdeleted).trans hg
  have hfg := hdeleted.follows.trans (follows_of_steps hg)
  have hgh := follows_of_steps hh
  refine ⟨fun row hrow _ => ?_, fun last hlast hold => ?_, fun a ha => state_land_of_not_expects ha⟩
  · have hshown := shown_of_steps (hreached.trans hh) (shown_of_opened hs)
    obtain ⟨last, hlast, hbrought⟩ := hshown.exists_last hrow
    refine ⟨last, hlast, hbrought, ?_⟩
    by_cases hold : f.issued ≤ last.number
    · exact .inl hold
    · have hold : last.number < f.issued := Nat.lt_of_not_le hold
      have hflying := hgh.mem_flying_of_head? hnewer hlast hsent hfg.issued_le hold
      exact .inr ⟨hfg.flying _ hflying hold, hflying⟩
  · have hissued := (sent_of_steps hreached).applied newer (List.mem_of_mem_head? hnewer)
    exact hgh.mem_flying_of_head? hnewer hlast le_rfl hissued.le hold

private def named (id : TaskId) : TaskRecord :=
  { (default : TaskRecord) with id }

/-- Only the first fetch still finds the task `a`. -/
private def losing : Nat → ListQuery → Snapshot
  | 0, _ => ⟨[named "a", named "b"], 2⟩
  | _, _ => ⟨[named "b"], 1⟩

/-- The first page is in flight. -/
private def opening : Traffic :=
  ({ state := .initial } : Traffic).take .refreshRequested

/-- It has come, and then the task `a` is deleted. -/
private def purged : Traffic :=
  (opening.land losing ⟨0, {}⟩).take (.batchDeleted ["a"] "Deleted 1 task(s)")

private theorem steps_opening :
    Relation.ReflTransGen (Step losing) { state := .initial } opening :=
  .single (.message nofun)

/-- The first page has come before the task `a` is deleted, so nothing is in flight that could bring
its row back. -/
theorem deleted_stay_away_in_order :
    ∃ f g h : Traffic,
      Relation.ReflTransGen (Step losing) { state := .initial } f ∧
        Relation.ReflTransGen (Step losing) (f.take (.batchDeleted ["a"] "Deleted 1 task(s)")) g ∧
        Relation.ReflTransGen (Step losing) g h ∧
        (∃ row ∈ f.state.view.rows, row.id = "a") ∧ h.state.view.rows ≠ [] ∧
        ∀ row ∈ h.state.view.rows, row.id ≠ "a" := by
  have hf := steps_opening.tail (.replied (a := ⟨0, {}⟩) (by decide))
  have hg : Relation.ReflTransGen (Step losing) purged (purged.land losing ⟨1, {}⟩) :=
    .single (.replied (by decide))
  have hticked : Relation.ReflTransGen (Step losing) (purged.land losing ⟨1, {}⟩) _ :=
    .single .polled
  have hh := hticked.tail (.replied (a := ⟨2, {}⟩) (by decide))
  refine ⟨_, _, _, hf, hg, hh, ⟨TaskRow.of {} (named "a"), List.mem_cons_self, rfl⟩,
    List.cons_ne_nil _ _, fun row hrow hid => ?_⟩
  have hdeleted : row.id ∈ ["a"] := List.mem_singleton.mpr hid
  obtain ⟨last, hlast, ⟨task, htask, htaskId⟩, -⟩ :=
    (deleted_stay_away losing .initial hf hg rfl le_rfl hh).1 row hrow hdeleted
  obtain rfl := Option.some.inj hlast
  obtain rfl := List.mem_singleton.mp htask
  rw [hid] at htaskId
  exact absurd htaskId (by decide)

/-- A fetch is in flight when the task `a` is deleted, and its reply comes after that to a newer
fetch. -/
theorem deleted_comes_back :
    ¬ ∀ (backend : Nat → ListQuery → Snapshot) (s : ListState) (f g h : Traffic)
        (ids : List TaskId) (text : String) (newer : Ask),
      s.Opened → Relation.ReflTransGen (Step backend) { state := s } f →
        Relation.ReflTransGen (Step backend) (f.take (.batchDeleted ids text)) g →
        newer ∈ g.applied → f.issued ≤ newer.number →
        Relation.ReflTransGen (Step backend) g h →
        ∀ row ∈ h.state.view.rows, row.id ∈ ids →
          ∃ a ∈ h.applied, f.issued ≤ a.number ∧
            ∃ task ∈ (a.snapshot backend).tasks, task.id = row.id := by
  intro hall
  have hg : Relation.ReflTransGen (Step losing)
      (opening.take (.batchDeleted ["a"] "Deleted 1 task(s)")) _ :=
    .single (.replied (a := ⟨1, {}⟩) (by decide))
  have hh : Relation.ReflTransGen (Step losing)
      ((opening.take (.batchDeleted ["a"] "Deleted 1 task(s)")).land losing ⟨1, {}⟩) _ :=
    .single (.replied (a := ⟨0, {}⟩) (by decide))
  obtain ⟨a, ha, hnew, task, htask, hid⟩ := hall losing _ _ _ _ ["a"] _ ⟨1, {}⟩ .initial
    steps_opening hg List.mem_cons_self le_rfl hh (TaskRow.of {} (named "a")) List.mem_cons_self
    List.mem_cons_self
  -- Of the replies that were taken in, only the overtaken one has brought the task.
  obtain rfl | ha := List.mem_cons.mp ha
  · exact absurd hnew (by decide)
  · obtain rfl := List.mem_singleton.mp ha
    obtain rfl := List.mem_singleton.mp htask
    exact absurd hid (by decide)

end Traffic

end TaskDesk
