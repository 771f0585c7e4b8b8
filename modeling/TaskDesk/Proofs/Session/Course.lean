import TaskDesk.Proofs.Session.Clearing
import TaskDesk.Proofs.Session.Telling

/-!
# The course of one activity

Among the activities of a session one can be followed: it goes on by its own steps, waits on the
agenda while others go on, is taken up again, and comes to its end. On the way it makes calls,
learns what became of them, and gives notices. The end of a tick is its end also if the next tick of
the run begins at once.

## Main definitions

- `Deed` — what is noted about an activity
- `Session.deeds` — what is noted about its next step
- `Stage` — where it is: it goes on, waits or is over
- `Session.Course` — its way, in any order with the other activities

## Main results

- `Session.Course.exists_turns` — a course is a way that the session takes
- `Session.exists_course` — every way that the session takes has a course in it
- `Session.exists_noticed_step` — a step gives exactly the notices that are noted
-/

namespace TaskDesk

/-- The words of a notice and their tone. -/
def Event.notice? : Event → Option (NoticeLevel × String)
  | notice level text => some (level, text)
  | _ => none

/-- What is noted about an activity. -/
inductive Deed where
  /-- The call of an effect is made while the list is in that state. -/
  | made (state : ListState) (effect : Effect)
  /-- The call of an effect has an outcome, retries included. -/
  | landed (effect : Effect) (outcome : Except ApiError ApiResponse)
  /-- The fetch of a tick has an outcome, retries included. -/
  | polled (query : ListQuery) (outcome : Except ApiError ApiResponse)
  /-- A notice is given. -/
  | told (level : NoticeLevel) (text : String)

/-- The notice that is given. -/
def Deed.notice? : Deed → Option (NoticeLevel × String)
  | told level text => some (level, text)
  | _ => none

/-- The activity is a tick that has not begun. -/
def Activity.isTick : Activity → Bool
  | .tick _ => true
  | _ => false

/-- Where an activity is. -/
inductive Stage where
  /-- It is the one that is going on. -/
  | goes
  /-- It waits on the agenda, as that. -/
  | waits (activity : Activity)
  | ended

namespace Session

variable {κ : Type} [Vault κ]

/-- What is noted about the next step of an activity. -/
def deeds (s : Session κ) : Activity → List Deed
  | .work { effects := .notify level text :: _, .. } => [.told level text]
  | .work { effects := e :: _, .. } => if e.isCall then [.made s.state e] else []
  | .call (.landed (.effect e _) outcome) => [.landed e outcome]
  | .call (.landed (.poll query _) outcome) => [.polled query outcome]
  | _ => []

/-- The step of the activity that is going on. -/
def stepOf (s : Session κ) (a : Activity) : Session κ :=
  { s with running := none }.step a

/-- Where the activity is after its step: it goes on at once, or it is what waits from then on. The
next tick of its run is another activity. -/
def stageAfter (s : Session κ) (a : Activity) : Stage :=
  match (s.stepOf a).running with
  | some b => if b.isTick then .ended else .goes
  | none =>
    match (s.stepOf a).agenda.drop s.agenda.length with
    | e :: _ => if e.job.isTick then .ended else .waits e.job
    | [] => .ended

/-- The way of the activity that is going on at first, with what is noted about it and where it is.
While it waits, and once it is over, the session may take any turns. -/
inductive Course (s : Session κ) : List Deed → Stage → Session κ → Prop
  | start : Course s [] .goes s
  /-- It takes its next step. -/
  | goOn {t : Session κ} {deeds : List Deed} {a : Activity} (h : Course s deeds .goes t)
      (ha : t.running = some a) : Course s (deeds ++ t.deeds a) (t.stageAfter a) (t.stepOf a)
  /-- It waits instead. -/
  | wait {t : Session κ} {deeds : List Deed} {a : Activity} (h : Course s deeds .goes t)
      (ha : t.running = some a) (hmay : a.MayWait) (due : Nat) (urgent : Bool) :
      Course s deeds (.waits a)
        { t with running := none, agenda := t.agenda ++ [{ due, urgent, job := a }] }
  /-- The clock, the backend or the credentials change. -/
  | outside {t : Session κ} {deeds : List Deed} (h : Course s deeds .goes t) (world : World κ) :
      Course s deeds .goes { t with world }
  /-- Something else happens while it waits. -/
  | meanwhile {t u : Session κ} {deeds : List Deed} {a : Activity} {new : List Mark}
      (h : Course s deeds (.waits a) t) (hturn : Turn t new u) (hleft : ∃ e ∈ u.agenda, e.job = a) :
      Course s deeds (.waits a) u
  /-- It is taken up again. -/
  | takeUp {t : Session κ} {deeds : List Deed} {a : Activity} (h : Course s deeds (.waits a) t)
      (before : List (Agenda.Entry Activity)) {e : Agenda.Entry Activity}
      {after : List (Agenda.Entry Activity)} (hnone : t.running = none)
      (hagenda : t.agenda = before ++ e :: after) (hjob : e.job = a) :
      Course s deeds .goes (t.takeUp e (before ++ after))
  /-- Something happens after its end. -/
  | behind {t u : Session κ} {deeds : List Deed} {new : List Mark} (h : Course s deeds .ended t)
      (hturn : Turn t new u) : Course s deeds .ended u

/-! ## Courses and turns -/

/-- A course goes on by turns of the session. -/
theorem Course.exists_turns {s t : Session κ} {deeds : List Deed} {stage : Stage}
    (h : Course s deeds stage t) : ∃ marks, Turns s marks t := by
  induction h with
  | start => exact ⟨[], .refl⟩
  | goOn _ ha ih =>
    obtain ⟨marks, hturns⟩ := ih
    exact ⟨_, hturns.tail (.goOn ha)⟩
  | wait _ ha hmay due urgent ih =>
    obtain ⟨marks, hturns⟩ := ih
    exact ⟨_, hturns.tail (.wait ha hmay due urgent)⟩
  | outside _ world ih =>
    obtain ⟨marks, hturns⟩ := ih
    exact ⟨_, hturns.tail (.outside world)⟩
  | meanwhile _ hturn _ ih | behind _ hturn ih =>
    obtain ⟨marks, hturns⟩ := ih
    exact ⟨_, hturns.tail hturn⟩
  | takeUp _ before hnone hagenda _ ih =>
    obtain ⟨marks, hturns⟩ := ih
    exact ⟨_, hturns.tail (.takeUp before hnone hagenda)⟩

/-- The activity is where the stage says. -/
def IsAt (t : Session κ) : Stage → Prop
  | .goes => t.running.isSome = true
  | .waits a => ∃ e ∈ t.agenda, e.job = a
  | .ended => True

theorem isAt_stageAfter (s : Session κ) (a : Activity) : (s.stepOf a).IsAt (s.stageAfter a) := by
  unfold stageAfter
  split
  · next b hb =>
    split
    · trivial
    · exact Option.isSome_of_eq_some hb
  · split
    · next e rest hdrop =>
      split
      · trivial
      · have hmem : e ∈ (s.stepOf a).agenda.drop s.agenda.length := by simp [hdrop]
        exact ⟨e, List.mem_of_mem_drop hmem, rfl⟩
    · trivial

/-- An entry of the agenda stays there, unless it is the one that is taken up. -/
theorem Turn.agenda_or_takeUp {t u : Session κ} {new : List Mark} (h : Turn t new u)
    {f : Agenda.Entry Activity} (hf : f ∈ t.agenda) :
    f ∈ u.agenda ∨
      ∃ before after, t.running = none ∧ t.agenda = before ++ f :: after ∧
        u = t.takeUp f (before ++ after) := by
  cases h with
  | @goOn a ha =>
    obtain ⟨later, hagenda, -⟩ := leads_step { t with running := none } a
    rw [hagenda]
    exact .inl (List.mem_append_left _ hf)
  | wait | spawn => exact .inl (List.mem_append_left _ hf)
  | dispatch | dispose | outside => exact .inl hf
  | @takeUp before e after hnone hagenda =>
    rw [hagenda, List.mem_append, List.mem_cons] at hf
    rcases hf with hf | rfl | hf
    · exact .inl (List.mem_append_left after hf)
    · exact .inr ⟨before, after, hnone, hagenda, rfl⟩
    · exact .inl (List.mem_append_right before hf)

/-- Every way that the session takes has a course of the activity in it that is going on at first,
and at each point the activity is where the course says. -/
theorem exists_course {s t : Session κ} {marks : List Mark} (hs : s.running.isSome = true)
    (h : Turns s marks t) : ∃ deeds stage, Course s deeds stage t ∧ t.IsAt stage := by
  induction h with
  | refl => exact ⟨[], .goes, .start, hs⟩
  | @tail t u marks new _ hturn ih =>
    obtain ⟨deeds, stage, hcourse, hat⟩ := ih
    cases stage with
    | ended => exact ⟨deeds, .ended, hcourse.behind hturn, trivial⟩
    | waits a =>
      obtain ⟨f, hf, rfl⟩ := hat
      rcases hturn.agenda_or_takeUp hf with hleft | ⟨before, after, hnone, hagenda, rfl⟩
      · exact ⟨deeds, .waits f.job, hcourse.meanwhile hturn ⟨f, hleft, rfl⟩, f, hleft, rfl⟩
      · exact ⟨deeds, .goes, hcourse.takeUp before hnone hagenda rfl, rfl⟩
    | goes =>
      have hgoes : t.running ≠ none := Option.isSome_iff_ne_none.mp hat
      cases hturn with
      | goOn ha => exact ⟨_, _, hcourse.goOn ha, t.isAt_stageAfter _⟩
      | wait ha hmay due urgent =>
        exact ⟨_, _, hcourse.wait ha hmay due urgent, _,
          List.mem_append_right _ (List.mem_singleton_self _), rfl⟩
      | outside world => exact ⟨_, _, hcourse.outside world, hat⟩
      | takeUp _ hnone | dispatch hnone | spawn hnone | dispose hnone => exact absurd hnone hgoes

/-! ## What stays -/

theorem Turn.config_eq {s t : Session κ} {new : List Mark} (h : Turn s new t) :
    t.config = s.config := by
  cases h with
  | @goOn a ha => exact config_step { s with running := none } a
  | wait | takeUp | dispatch | spawn | dispose | outside => rfl

/-- A closed view stays closed. -/
theorem Turn.disposed_eq {s t : Session κ} {new : List Mark} (h : Turn s new t)
    (ht : t.state.disposed = false) : s.state.disposed = false := by
  rcases h.takes with ⟨m, -, hstate⟩ | ⟨hstate, -⟩
  · rw [hstate] at ht
    have hopen : ¬ (s.state.disposed = true ∨ m = .disposed) := by
      rw [← ListState.disposed_update_iff]
      simpa using ht
    simpa using fun hclosed => hopen (.inl hclosed)
  · rwa [← hstate]

/-! ## Notices -/

/-- A step gives exactly the notices that are noted about it. -/
theorem exists_noticed_step (s : Session κ) (a : Activity) :
    ∃ told, (s.stepOf a).world.events = s.world.events ++ told ∧
      told.filterMap Event.notice? = (s.deeds a).filterMap Deed.notice? := by
  obtain ⟨told, sent, htells, hevents, -⟩ := exists_tells_step { s with running := none } a
  refine ⟨told, hevents, ?_⟩
  cases htells with
  | notified | ended | awaited | ticked => rfl
  | @performed e rest he =>
    cases e with
    | notify level text => exact absurd rfl (he level text)
    | _ => rfl
  | @took m =>
    change (Option.toList _).filterMap Event.notice? = []
    cases s.state.refreshed? m <;> rfl
  | @flew next _ _ htold =>
    have hnone : (s.deeds (.call next)).filterMap Deed.notice? = [] := by
      cases next with
      | landed purpose outcome => cases purpose <;> rfl
      | go => rfl
    rw [hnone]
    refine List.filterMap_eq_nil_iff.mpr fun e he => ?_
    obtain ⟨scope, rfl⟩ := htold e he
    rfl

end Session

end TaskDesk
