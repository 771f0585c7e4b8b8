import Mathlib.Data.List.Induction
import TaskDesk.Proofs.View.Run

/-!
# What a list view shows

Replies come late, more than once, and for queries that the view has left. A reply counts if it
comes before the view is closed and brings the page of the query that the view has at that moment.
What the view shows is what the last reply that counts has brought.

## Main definitions

- `ListState.Shows` — the tasks, how many there are altogether, and the rows
- `ListState.Counts` — a reply of a run that counts
- `ListState.IsReply` — a message that brings the page of the query

## Main results

- `ListState.shows_last_reply` — a view shows what the last reply that counts has brought
-/

namespace TaskDesk.ListState

/-- The view has taken in these tasks, of so many altogether, and paged by the server it shows
their rows. -/
structure Shows (s : ListState) (shown : List TaskRecord) (total : Nat) : Prop where
  tasks_eq : s.tasks = shown
  total_eq : s.cursor.total = total
  ids_eq : s.mode = .server → s.page.ids = shown.map TaskRecord.id

/-- The message brings the page of the query of the view. -/
def IsReply (s : ListState) (m : Message) : Prop :=
  ∃ snapshot, m = .pageLoaded s.query snapshot

/-- The message at that place of a run is a reply that counts: the view is not closed before it
comes, and it is for the query that the view then has. -/
def Counts (s : ListState) (ms : List Message) (i : Nat) (snapshot : Snapshot) : Prop :=
  ∃ query, ms[i]? = some (.pageLoaded query snapshot) ∧ .disposed ∉ ms.take i ∧
    query = (s.run (ms.take i)).query

/-! ## One message -/

theorem shows_load (s : ListState) (snapshot : Snapshot) :
    (s.load snapshot).2.Shows snapshot.tasks snapshot.total where
  tasks_eq := s.load_tasks snapshot
  total_eq := s.load_total snapshot
  ids_eq h := s.load_ids_of_server snapshot (by rwa [load_mode] at h)

/-- A reply for the query of the view is shown from then on, also if the page was past the end. -/
theorem Reaction.shows_reply {s t : ListState} {snapshot : Snapshot} {effects : List Effect}
    (h : s.Reaction (.pageLoaded s.query snapshot) t effects) :
    t.Shows snapshot.tasks snapshot.total := by
  have hload := s.shows_load snapshot
  cases h with
  | marked hm | turned hm | fetched hm => exact absurd rfl hm
  | settled | corrected => exact ⟨hload.tasks_eq, hload.total_eq, hload.ids_eq⟩

/-- Any other message leaves alone what the view shows. -/
theorem Reaction.shows_of_not_isReply {s t : ListState} {m : Message} {effects : List Effect}
    (h : s.Reaction m t effects) (hm : ¬ s.IsReply m) {shown : List TaskRecord} {total : Nat}
    (hs : s.Shows shown total) : t.Shows shown total := by
  cases h with
  | marked _ _ hids => exact ⟨hs.tasks_eq, hs.total_eq, fun hmode => hids.trans (hs.ids_eq hmode)⟩
  | turned _ _ hmode htotal =>
    -- Only the client turns pages without a fetch, and there the rows are a slice.
    refine ⟨hs.tasks_eq, htotal.trans hs.total_eq, fun hserver => ?_⟩
    have hserver : s.mode = .server := hserver
    rw [hmode] at hserver
    cases hserver
  | fetched _ _ htotal hids =>
    exact ⟨hs.tasks_eq, htotal.trans hs.total_eq, fun hmode => hids.trans (hs.ids_eq hmode)⟩
  | settled | corrected => exact absurd ⟨_, rfl⟩ hm
  | failed | rejected | closed => exact ⟨hs.tasks_eq, hs.total_eq, hs.ids_eq⟩

theorem shows_update_reply {s : ListState} (hs : s.disposed = false) (snapshot : Snapshot) :
    (s.update (.pageLoaded s.query snapshot)).1.Shows snapshot.tasks snapshot.total :=
  (reaction_update hs _).shows_reply

/-- A message that is no reply, or that comes after the view is closed, leaves alone what the view
shows. -/
theorem shows_update {s : ListState} {m : Message} (hm : s.disposed = true ∨ ¬ s.IsReply m)
    {shown : List TaskRecord} {total : Nat} (hs : s.Shows shown total) :
    (s.update m).1.Shows shown total := by
  cases hd : s.disposed with
  | true => rwa [update_of_disposed hd]
  | false =>
    have hm : ¬ s.IsReply m := hm.resolve_left (by simp [hd])
    exact (reaction_update hd m).shows_of_not_isReply hm hs

theorem Opened.shows {s : ListState} (h : s.Opened) : s.Shows [] 0 := by
  obtain ⟨mode, query, rfl⟩ := h.exists_ofQuery
  exact ⟨rfl, rfl, fun _ => rfl⟩

/-! ## Whole runs -/

theorem Counts.lt_length {s : ListState} {ms : List Message} {i : Nat} {snapshot : Snapshot}
    (h : s.Counts ms i snapshot) : i < ms.length := by
  obtain ⟨query, hi, -⟩ := h
  exact (List.getElem?_eq_some_iff.mp hi).1

/-- Whether a reply counts is settled when it comes. -/
theorem counts_append {s : ListState} {ms : List Message} {i : Nat} (hi : i < ms.length)
    (later : List Message) (snapshot : Snapshot) :
    s.Counts (ms ++ later) i snapshot ↔ s.Counts ms i snapshot := by
  rw [Counts, Counts, List.getElem?_append_left hi, List.take_append_of_le_length (Nat.le_of_lt hi)]

/-- The message that comes next counts exactly if the view is open and has that query. -/
theorem counts_concat_length {s : ListState} {ms : List Message} {m : Message}
    {snapshot : Snapshot} :
    s.Counts (ms ++ [m]) ms.length snapshot ↔
      .disposed ∉ ms ∧ m = .pageLoaded (s.run ms).query snapshot := by
  have hm : (ms ++ [m])[ms.length]? = some m := List.getElem?_concat_length
  rw [Counts, hm, List.take_left]
  constructor
  · rintro ⟨query, hq, hopen, rfl⟩
    exact ⟨hopen, Option.some.inj hq⟩
  · rintro ⟨hopen, rfl⟩
    exact ⟨_, rfl, hopen, rfl⟩

/-- A message that is no reply, or that comes after the view is closed, adds no reply that
counts. -/
theorem counts_of_concat {s : ListState} {ms : List Message} {m : Message} {i : Nat}
    {snapshot : Snapshot} (hm : .disposed ∈ ms ∨ ¬ (s.run ms).IsReply m)
    (h : s.Counts (ms ++ [m]) i snapshot) : s.Counts ms i snapshot := by
  have hi : i < ms.length + 1 := by simpa using h.lt_length
  rcases Nat.lt_succ_iff_lt_or_eq.mp hi with hi | rfl
  · exact (counts_append hi _ _).mp h
  · obtain ⟨hopen, hreply⟩ := counts_concat_length.mp h
    exact absurd ⟨_, hreply⟩ (hm.resolve_left hopen)

theorem Opened.exists_last_reply {s : ListState} (hs : s.Opened) (ms : List Message) :
    (∃ i snapshot, s.Counts ms i snapshot ∧ (∀ j other, i < j → ¬ s.Counts ms j other) ∧
        (s.run ms).Shows snapshot.tasks snapshot.total) ∨
      ((∀ i snapshot, ¬ s.Counts ms i snapshot) ∧ (s.run ms).Shows [] 0) := by
  induction ms using List.reverseRecOn with
  | nil => exact .inr ⟨fun i _ h => absurd h.lt_length (Nat.not_lt_zero i), hs.shows⟩
  | append_singleton ms m ih =>
    rw [run_concat]
    by_cases hm : .disposed ∈ ms ∨ ¬ (s.run ms).IsReply m
    -- Nothing new counts, so the last reply is the one from before.
    · have hkeep {shown : List TaskRecord} {total : Nat} (h : (s.run ms).Shows shown total) :
          ((s.run ms).update m).1.Shows shown total :=
        shows_update (hm.imp_left (hs.disposed_run_iff ms).mpr) h
      rcases ih with ⟨i, snapshot, hcounts, hlast, hshows⟩ | ⟨hnone, hshows⟩
      · refine .inl ⟨i, snapshot, (counts_append hcounts.lt_length _ _).mpr hcounts, ?_,
          hkeep hshows⟩
        exact fun j other hj h => hlast j other hj (counts_of_concat hm h)
      · exact .inr ⟨fun i snapshot h => hnone i snapshot (counts_of_concat hm h), hkeep hshows⟩
    -- The message is the last reply itself.
    · obtain ⟨hopen, hreply⟩ := not_or.mp hm
      obtain ⟨snapshot, rfl⟩ := not_not.mp hreply
      have hdisposed : (s.run ms).disposed = false := by
        simpa using mt (hs.disposed_run_iff ms).mp hopen
      refine .inl ⟨ms.length, snapshot, counts_concat_length.mpr ⟨hopen, rfl⟩, ?_,
        shows_update_reply hdisposed snapshot⟩
      intro j other hj h
      have hlt : j < ms.length + 1 := by simpa using h.lt_length
      omega

/-- In every run of a view that is opened, the view shows what the last reply that counts has
brought, and nothing as long as there is none. Any other message leaves alone what it shows. -/
theorem shows_last_reply {s : ListState} (hs : s.Opened) (ms : List Message) :
    ((∃ i snapshot, s.Counts ms i snapshot ∧ (∀ j other, i < j → ¬ s.Counts ms j other) ∧
          (s.run ms).Shows snapshot.tasks snapshot.total) ∨
        ((∀ i snapshot, ¬ s.Counts ms i snapshot) ∧ (s.run ms).Shows [] 0)) ∧
      ∀ m, .disposed ∈ ms ∨ ¬ (s.run ms).IsReply m →
        ((s.run ms).update m).1.Shows (s.run ms).tasks (s.run ms).cursor.total := by
  have hlast := hs.exists_last_reply ms
  refine ⟨hlast, fun m hm => shows_update (hm.imp_left (hs.disposed_run_iff ms).mpr) ?_⟩
  rcases hlast with ⟨i, snapshot, -, -, hshows⟩ | ⟨-, hshows⟩
  · rwa [hshows.tasks_eq, hshows.total_eq]
  · rwa [hshows.tasks_eq, hshows.total_eq]

/-- A reply for the query from before the filter changed comes late. The view goes on to show the
reply that came in time. -/
theorem shows_last_reply_after_filter :
    (initial.run [.refreshRequested, .pageLoaded {} ⟨[], 7⟩, .statusFilterChanged (some .failed),
      .pageLoaded {} ⟨[], 9⟩]).Shows [] 7 := by
  rcases (shows_last_reply .initial [.refreshRequested, .pageLoaded {} ⟨[], 7⟩,
      .statusFilterChanged (some .failed), .pageLoaded {} ⟨[], 9⟩]).1 with
    ⟨i, snapshot, ⟨query, hi, -, hquery⟩, -, hshows⟩ | ⟨hnone, -⟩
  · match i, hi with
    | 1, hi => cases hi; exact hshows
    | 3, hi => cases hi; exact absurd hquery (by decide)
  · exact absurd ⟨{}, rfl, by simp, rfl⟩ (hnone 1 ⟨[], 7⟩)

end TaskDesk.ListState
