import TaskDesk.Clock.Agenda

/-!
# What is taken off an agenda

Whatever is taken next stood somewhere on the agenda. Everything else stays there in its order.

## Main results

- `Agenda.eq_append_of_dueBy?` — the entry that is taken, between the ones that stay
- `Agenda.exists_dueBy?_none` — an agenda that is not empty is never stuck
-/

namespace TaskDesk.Agenda

variable {τ : Type}

/-- The earliest entry stands somewhere on the agenda, and the others keep their order. -/
theorem eq_append_of_earliest? {es rest : List (Entry τ)} {e : Entry τ}
    (h : earliest? es = some (e, rest)) :
    ∃ before after, es = before ++ e :: after ∧ rest = before ++ after := by
  induction es generalizing e rest with
  | nil => cases h
  | cons x xs ih =>
    simp only [earliest?] at h
    split at h
    · next hnone =>
      obtain ⟨rfl, rfl⟩ := Prod.mk.inj (Option.some.inj h)
      cases xs with
      | nil => exact ⟨[], [], rfl, rfl⟩
      | cons y ys =>
        simp only [earliest?] at hnone
        split at hnone
        · cases hnone
        · split at hnone <;> cases hnone
    · next f others hf =>
      split at h
      · obtain ⟨rfl, rfl⟩ := Prod.mk.inj (Option.some.inj h)
        obtain ⟨before, after, hxs, hothers⟩ := ih hf
        exact ⟨x :: before, after, by rw [hxs]; rfl, by rw [hothers]; rfl⟩
      · obtain ⟨rfl, rfl⟩ := Prod.mk.inj (Option.some.inj h)
        exact ⟨[], xs, rfl, rfl⟩

/-- The entry that is due by a time stands somewhere on the agenda, and the others keep their
order. -/
theorem eq_append_of_dueBy? {limit : Option Nat} {es rest : List (Entry τ)} {e : Entry τ}
    (h : dueBy? limit es = some (e, rest)) :
    (∃ before after, es = before ++ e :: after ∧ rest = before ++ after) ∧
      ∀ t ∈ limit, e.due ≤ t := by
  unfold dueBy? at h
  split at h
  · cases h
  · next he =>
    split at h
    · obtain ⟨rfl, rfl⟩ := Prod.mk.inj (Option.some.inj h)
      exact ⟨eq_append_of_earliest? he, nofun⟩
    · next t =>
      split at h
      · next hdue =>
        obtain ⟨rfl, rfl⟩ := Prod.mk.inj (Option.some.inj h)
        refine ⟨eq_append_of_earliest? he, fun t' ht' => ?_⟩
        rwa [← Option.some.inj ht']
      · cases h

/-- Without a limit something is taken off every agenda that is not empty. -/
theorem exists_dueBy?_none {es : List (Entry τ)} (h : es ≠ []) :
    ∃ e rest, dueBy? none es = some (e, rest) := by
  have hearliest : ∃ p, earliest? es = some p := by
    cases es with
    | nil => exact absurd rfl h
    | cons e es =>
      simp only [earliest?]
      split
      · exact ⟨_, rfl⟩
      · split <;> exact ⟨_, rfl⟩
  obtain ⟨⟨e, rest⟩, he⟩ := hearliest
  exact ⟨e, rest, by rw [dueBy?, he]⟩

end TaskDesk.Agenda
