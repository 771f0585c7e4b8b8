import Mathlib.Data.Multiset.AddSub
import Mathlib.Logic.Relation
import TaskDesk.Proofs.View.Run

/-!
# The loading mark

A view that waits for a page shows a loading mark. Replies come in any order and may be late, so
a reply for a query that the view has left must not take the mark down, and no reply that takes it
down may be lost. Here a list view runs together with the bag of its fetches in flight; the mark
is up only while the fetch for the query of the view is in that bag.

## Main definitions

- `Fetching` — a list view and the fetches in flight
- `Fetching.Answer` — what a fetch can report
- `Fetching.Step` — messages, replies and fetches of the poller, in any order
- `Fetching.Covered` — the invariant: a mark stands for a fetch

## Main results

- `Fetching.loading_covered` — the mark is never up when nothing is in flight
-/

namespace TaskDesk

namespace ListState

/-- A page is only ever asked for by the query that the view then has. -/
theorem Reaction.eq_query {s t : ListState} {m : Message} {effects : List Effect}
    (h : s.Reaction m t effects) {query : ListQuery} (hq : .fetchPage query ∈ effects) :
    query = t.query := by
  have hplain {e : Effect} (he : e.IsPlain) (hf : .fetchPage query = e) : query = t.query := by
    rw [← hf] at he; cases he.2
  cases h with
  | marked _ _ _ heffects => exact hplain (heffects _ hq) rfl
  | turned => cases hq
  | fetched _ _ _ _ hasks => exact hasks.eq_of_query? hq rfl
  | settled => cases Effect.query?_of_mem_switch hq
  | corrected => exact Effect.fetchPage.inj (List.mem_singleton.mp hq)
  | failed => exact hplain ⟨rfl, rfl⟩ (List.mem_singleton.mp hq)
  | rejected =>
    rcases List.mem_append.mp hq with hq | hq
    · cases Effect.query?_of_mem_switch hq
    · exact hplain ⟨rfl, rfl⟩ (List.mem_singleton.mp hq)
  | closed => cases Effect.query?_of_mem_switch hq

/-- After a message a view waits for a page that it has just asked for, or for one that it waited
for before and that the message did not bring. -/
theorem Reaction.mem_or_waits {s t : ListState} {m : Message} {effects : List Effect}
    (h : s.Reaction m t effects) (ht : t.loading = true) :
    .fetchPage t.query ∈ effects ∨
      (s.loading = true ∧ t.query = s.query ∧ ¬ s.EndsWait m) := by
  cases h with
  | marked hm | turned hm => exact .inr ⟨ht, rfl, hm⟩
  | fetched _ _ _ _ hasks => exact .inl hasks.mem
  | settled => rw [load_loading] at ht; cases ht
  | corrected => exact .inl (List.mem_singleton_self _)
  | failed | rejected => cases ht
  | closed => exact .inr ⟨ht, rfl, id⟩

end ListState

/-- A list view and the fetches in flight. -/
structure Fetching where
  state : ListState
  /-- The pages that the view asked for. -/
  asked : Multiset ListQuery := 0
  /-- The pages that the poller asked for. -/
  polled : Multiset ListQuery := 0

namespace Fetching

/-- The view takes a message. What it then asks for is in flight. -/
def take (f : Fetching) (m : Message) : Fetching :=
  { f with
    state := (f.state.update m).1
    asked := f.asked + ((f.state.update m).2.filterMap Effect.query? : List ListQuery) }

/-- What the fetch of a page can report. -/
inductive Answer (query : ListQuery) : Message → Prop
  | loaded (snapshot : Snapshot) : Answer query (.pageLoaded query snapshot)
  | failed (reason : String) : Answer query (.loadFailed reason)
  | rejected : Answer query .authInvalid

/-- One thing that happens. -/
inductive Step (f : Fetching) : Fetching → Prop
  /-- A message comes from anywhere. -/
  | message (m : Message) : Step f (f.take m)
  /-- A fetch of the view is answered. -/
  | answered {query : ListQuery} {m : Message} (hq : query ∈ f.asked) (hm : Answer query m) :
      Step f ({ f with asked := f.asked.erase query }.take m)
  /-- The poller asks for the page of the query of the view. -/
  | polled : Step f { f with polled := f.state.query ::ₘ f.polled }
  /-- A fetch of the poller brings a page. -/
  | pollLoaded {query : ListQuery} (hq : query ∈ f.polled) (snapshot : Snapshot) :
      Step f ({ f with polled := f.polled.erase query }.take (.pageLoaded query snapshot))
  /-- A fetch of the poller learns of a rejected credential. -/
  | pollRejected {query : ListQuery} (hq : query ∈ f.polled) :
      Step f ({ f with polled := f.polled.erase query }.take .authInvalid)
  /-- A fetch of the poller fails; the view is told nothing. -/
  | pollFailed {query : ListQuery} (hq : query ∈ f.polled) :
      Step f { f with polled := f.polled.erase query }

/-- While a view shows the loading mark, the page of its query is in flight. -/
def Covered (f : Fetching) : Prop :=
  f.state.disposed = false → f.state.loading = true → f.state.query ∈ f.asked

/-- It is enough that the page is in flight if the message does not end the wait for it. -/
theorem covered_take {f : Fetching} {m : Message}
    (h : ¬ f.state.EndsWait m → f.Covered) : (f.take m).Covered := by
  intro hopen hloading
  cases hs : f.state.disposed with
  | true =>
    have ht : (f.take m).state.disposed = true := (ListState.disposed_update_iff _ _).mpr (.inl hs)
    rw [ht] at hopen; cases hopen
  | false =>
    rcases (ListState.reaction_update hs m).mem_or_waits hloading with hask | ⟨hl, hq, hm⟩
    · exact Multiset.mem_add.mpr (.inr (List.mem_filterMap.mpr ⟨_, hask, rfl⟩))
    · have hmem : f.state.query ∈ f.asked := h hm hs hl
      rw [← hq] at hmem
      exact Multiset.mem_add.mpr (.inl hmem)

/-- A reply that does not end the wait is for another query, so the page waited for stays in
flight. -/
theorem Covered.erase {f : Fetching} (h : f.Covered) {query : ListQuery} {m : Message}
    (hm : Answer query m) (hwait : ¬ f.state.EndsWait m) :
    Covered { f with asked := f.asked.erase query } := by
  intro hopen hloading
  cases hm with
  | loaded =>
    -- The reply is dropped without touching the mark, and the fetch waited for is another one.
    have hne : f.state.query ≠ query := fun heq => hwait heq.symm
    exact (Multiset.mem_erase_of_ne hne).mpr (h hopen hloading)
  | failed | rejected => exact absurd trivial hwait

theorem Step.covered {f g : Fetching} (h : Step f g) (hf : f.Covered) : g.Covered := by
  cases h with
  | message => exact covered_take fun _ => hf
  | answered _ hm => exact covered_take fun hwait => hf.erase hm hwait
  | polled => exact hf
  | pollLoaded | pollRejected => exact covered_take fun _ => hf
  | pollFailed => exact hf

theorem covered_of_opened {s : ListState} (hs : s.Opened) : Covered { state := s } := by
  obtain ⟨mode, query, rfl⟩ := hs.exists_ofQuery
  intro _ hloading
  cases hloading

/-- Whatever happens to a view that is opened, and in whatever order: every page is asked for by
the query that the view then has, and as long as the view is open and shows the loading mark, the
page of its query is in flight. So the mark is down when nothing is. -/
theorem loading_covered {s : ListState} (hs : s.Opened) {f : Fetching}
    (hf : Relation.ReflTransGen Step { state := s } f) :
    (∀ m query, .fetchPage query ∈ (f.state.update m).2 → query = (f.state.update m).1.query) ∧
      (f.state.disposed = false → f.state.loading = true → f.state.query ∈ f.asked) ∧
      (f.state.disposed = false → f.asked = 0 → f.state.loading = false) := by
  have hcovered : f.Covered := by
    induction hf with
    | refl => exact covered_of_opened hs
    | tail _ hstep ih => exact hstep.covered ih
  refine ⟨fun m query hq => ?_, hcovered, fun hopen hnone => ?_⟩
  · cases hd : f.state.disposed with
    | true => rw [ListState.update_of_disposed hd] at hq; cases hq
    | false => exact (ListState.reaction_update hd m).eq_query hq
  · by_contra hloading
    have hmem := hcovered hopen (by simpa using hloading)
    rw [hnone] at hmem
    exact Multiset.notMem_zero _ hmem

/-- The filter changes while the first page is in flight. Once that page has come, late, the view
still shows the mark, and the filtered page is still in flight. -/
theorem loading_covered_after_late_reply :
    let f : Fetching :=
      ({ state := .initial } : Fetching).take .refreshRequested
        |>.take (.statusFilterChanged (some .failed))
    let g := { f with asked := f.asked.erase {} }.take (.pageLoaded {} ⟨[], 0⟩)
    g.state.loading = true ∧ g.state.query ∈ g.asked := by
  intro f g
  have hf : Relation.ReflTransGen Step { state := .initial } f :=
    .tail (.single (.message .refreshRequested)) (.message _)
  have hmem : ({} : ListQuery) ∈ f.asked := Multiset.mem_add.mpr (.inl (by decide))
  have hg : Relation.ReflTransGen Step { state := .initial } g :=
    .tail hf (.answered hmem (.loaded _))
  have hloading : g.state.loading = true := rfl
  exact ⟨hloading, (loading_covered .initial hg).2.1 rfl hloading⟩

end Fetching

end TaskDesk
