import TaskDesk.Proofs.Clock.Poller
import TaskDesk.Proofs.Clock.Turn

/-!
# The discipline of a poller

What was noted about a poller says everything about its runs: whether one was stopped, whether a
tick of it is in flight and whether it has ended. The agenda holds what carries a run on. From that
follows when a tick may begin, in every order of what happens.

## Main definitions

- `PollRun.Accounts` — what was noted since a run was started, and the agenda, agree with the run
- `Timeline.Accounted` — so it is for every run

## Main results

- `Timeline.Turns.accounted` — the notes account for every run, whatever happens
- `Timeline.keeps_discipline` — when ticks begin, when a poller is active, when a run has ended
-/

namespace TaskDesk

namespace TimelineJob

/-- The run that a job belongs to. -/
def run : TimelineJob → Nat
  | wait run | begin run | finish run _ _ => run

/-- The job ends a tick of the run. -/
def isFinish (number : Nat) : TimelineJob → Bool
  | finish run _ _ => run == number
  | _ => false

/-- The job leads to the next tick of the run. -/
def LeadsOn (number : Nat) (job : TimelineJob) : Prop :=
  job = wait number ∨ job = begin number

theorem isFinish_of_run_ne {number : Nat} {job : TimelineJob} (h : job.run ≠ number) :
    job.isFinish number = false := by
  cases job with
  | wait | begin => rfl
  | finish => exact beq_false_of_ne h

theorem LeadsOn.run_eq {number : Nat} {job : TimelineJob} (h : job.LeadsOn number) :
    job.run = number := by
  rcases h with rfl | rfl <;> rfl

theorem LeadsOn.isFinish_eq {number : Nat} {job : TimelineJob} (h : job.LeadsOn number) :
    job.isFinish number = false := by
  rcases h with rfl | rfl <;> rfl

/-- How many ticks of the run the agenda ends. -/
def finishes (number : Nat) (agenda : List (Agenda.Entry TimelineJob)) : Nat :=
  agenda.countP fun e => e.job.isFinish number

theorem finishes_append (number : Nat) (es fs : List (Agenda.Entry TimelineJob)) :
    finishes number (es ++ fs) = finishes number es + finishes number fs :=
  List.countP_append

theorem finishes_append_cons (number : Nat) (before after : List (Agenda.Entry TimelineJob))
    (e : Agenda.Entry TimelineJob) :
    finishes number (before ++ e :: after) =
      finishes number (before ++ after) + (e.job.isFinish number).toNat := by
  unfold finishes
  rw [List.countP_append, List.countP_append, List.countP_cons, ← Nat.add_assoc]
  cases e.job.isFinish number <;> rfl

theorem finishes_eq_zero {number : Nat} {es : List (Agenda.Entry TimelineJob)}
    (h : ∀ e ∈ es, e.job.isFinish number = false) : finishes number es = 0 :=
  List.countP_eq_zero.mpr fun e he => by simp [h e he]

end TimelineJob

namespace PollNote

/-- Nothing about the run. -/
def Spares (number : Nat) (note : PollNote) : Prop :=
  ¬ note.Ends number ∧ note.isBegin number = false ∧ note.isReturn number = false

/-- Something that ends every run there was. -/
def EndsAll (note : PollNote) : Prop :=
  ∀ number, note.Ends number ∧ note.isBegin number = false ∧ note.isReturn number = false

end PollNote

/-! ## One run -/

namespace PollRun

/-- What was noted since a run was started, and what waits on the agenda, agree with the run. -/
structure Accounts (number start : Nat) (since : List PollNote)
    (agenda : List (Agenda.Entry TimelineJob)) (r : PollRun) : Prop where
  interval_pos : 0 < r.interval
  /-- No tick is planned for earlier than one interval after the start. -/
  due_le : start + r.interval ≤ r.due
  begin_due_le : ∀ e ∈ agenda, e.job = .begin number → start + r.interval ≤ e.due
  stopped_iff : r.stopped = true ↔ ∃ note ∈ since, note.Ends number
  endMarked : r.EndMarked
  /-- At most one tick began that has not returned. -/
  begins_eq : since.countP (PollNote.isBegin number) =
    since.countP (PollNote.isReturn number) + r.ticking.toNat
  finishes_eq : TimelineJob.finishes number agenda = r.ticking.toNat
  /-- Something carries on a run that goes on. -/
  carried : r.stopped = false → r.ticking = false → ∃ e ∈ agenda, e.job.LeadsOn number

namespace Accounts

variable {number start : Nat} {since : List PollNote} {r : PollRun}
  {agenda before after extra : List (Agenda.Entry TimelineJob)} {e : Agenda.Entry TimelineJob}

/-- A run that was just started. -/
theorem fresh {now interval : Nat} (hpos : 0 < interval)
    (hagenda : ∀ e ∈ agenda, e.job.run ≠ number) :
    Accounts number now [] (agenda ++ [{ due := now, job := .wait number }])
      { interval, due := now + interval } where
  interval_pos := hpos
  due_le := Nat.le_refl _
  begin_due_le e he hjob := by
    rcases List.mem_append.mp he with he | he
    · exact absurd (by rw [hjob]; rfl) (hagenda e he)
    · rw [List.mem_singleton.mp he] at hjob
      cases hjob
  stopped_iff := by simp
  endMarked := rfl
  begins_eq := rfl
  finishes_eq := by
    rw [TimelineJob.finishes_append, TimelineJob.finishes_eq_zero fun e he =>
      TimelineJob.isFinish_of_run_ne (hagenda e he)]
    rfl
  carried _ _ := ⟨_, List.mem_concat_self, .inl rfl⟩

/-- Jobs of other runs that are put on the agenda change nothing. -/
theorem more (h : Accounts number start since agenda r)
    (hextra : ∀ e ∈ extra, e.job.run ≠ number) :
    Accounts number start since (agenda ++ extra) r :=
  { h with
    begin_due_le := by
      intro e he hjob
      rcases List.mem_append.mp he with he | he
      · exact h.begin_due_le e he hjob
      · exact absurd (by rw [hjob]; rfl) (hextra e he)
    finishes_eq := by
      rw [TimelineJob.finishes_append, h.finishes_eq, TimelineJob.finishes_eq_zero fun e he =>
        TimelineJob.isFinish_of_run_ne (hextra e he), Nat.add_zero]
    carried := by
      intro hs ht
      obtain ⟨e, he, hleads⟩ := h.carried hs ht
      exact ⟨e, List.mem_append_left _ he, hleads⟩ }

/-- A job of another run that leaves the agenda changes nothing. -/
theorem less (h : Accounts number start since (before ++ e :: after) r)
    (hother : e.job.run ≠ number) : Accounts number start since (before ++ after) r :=
  { h with
    begin_due_le := fun x hx => h.begin_due_le x (by grind)
    finishes_eq := by
      have hcount := h.finishes_eq
      rwa [TimelineJob.finishes_append_cons, TimelineJob.isFinish_of_run_ne hother] at hcount
    carried := by
      intro hs ht
      obtain ⟨x, hx, hleads⟩ := h.carried hs ht
      have hne : x ≠ e := by
        rintro rfl
        exact hother hleads.run_eq
      exact ⟨x, by grind, hleads⟩ }

/-- What is noted about other runs changes nothing. -/
theorem note (h : Accounts number start since agenda r) {new : List PollNote}
    (hnew : ∀ note ∈ new, note.Spares number) :
    Accounts number start (since ++ new) agenda r :=
  { h with
    stopped_iff := by
      rw [h.stopped_iff]
      constructor
      · rintro ⟨note, hmem, hends⟩
        exact ⟨note, List.mem_append_left _ hmem, hends⟩
      · rintro ⟨note, hmem, hends⟩
        rcases List.mem_append.mp hmem with hmem | hmem
        · exact ⟨note, hmem, hends⟩
        · exact absurd hends (hnew note hmem).1
    begins_eq := by
      have hbegins : new.countP (PollNote.isBegin number) = 0 :=
        List.countP_eq_zero.mpr fun note hmem => by simp [(hnew note hmem).2.1]
      have hreturns : new.countP (PollNote.isReturn number) = 0 :=
        List.countP_eq_zero.mpr fun note hmem => by simp [(hnew note hmem).2.2]
      rw [List.countP_append, List.countP_append, hbegins, hreturns]
      exact h.begins_eq }

/-- The run is stopped with the poller, or was already. -/
theorem halt (h : Accounts number start since agenda r) {note : PollNote} (hnote : note.EndsAll) :
    Accounts number start (since ++ [note]) agenda (if r.stopped then r else r.stop) := by
  obtain ⟨hends, hbegin, hreturn⟩ := hnote number
  have hnoted : ∃ note' ∈ since ++ [note], note'.Ends number :=
    ⟨note, List.mem_concat_self, hends⟩
  have hbegins : (since ++ [note]).countP (PollNote.isBegin number) =
      (since ++ [note]).countP (PollNote.isReturn number) + r.ticking.toNat := by
    simpa [List.countP_append, hbegin, hreturn] using h.begins_eq
  cases hs : r.stopped with
  | true => exact { h with stopped_iff := iff_of_true hs hnoted, begins_eq := hbegins }
  | false =>
    exact
      { h with
        stopped_iff := iff_of_true rfl hnoted
        endMarked := r.endMarked_stop
        begins_eq := hbegins
        carried := nofun }

/-- A job of the run that ends no tick leaves the agenda, and what it leads to is put there. -/
theorem lead (h : Accounts number start since (before ++ e :: after) r)
    (hjob : e.job.LeadsOn number)
    (hextra : ∀ x ∈ extra, x.job = .begin number ∧ start + r.interval ≤ x.due)
    (hgoes : r.stopped = false → r.ticking = false → extra ≠ []) :
    Accounts number start since (before ++ after ++ extra) r :=
  { h with
    begin_due_le := by
      intro x hx hbegin
      rcases List.mem_append.mp hx with hx | hx
      · exact h.begin_due_le x (by grind) hbegin
      · exact (hextra x hx).2
    finishes_eq := by
      have hcount := h.finishes_eq
      have hnone : TimelineJob.finishes number extra = 0 :=
        TimelineJob.finishes_eq_zero fun x hx => by rw [(hextra x hx).1]; rfl
      rw [TimelineJob.finishes_append_cons, hjob.isFinish_eq] at hcount
      rw [TimelineJob.finishes_append, hnone]
      exact hcount
    carried := by
      intro hs ht
      obtain ⟨x, hx⟩ := List.exists_mem_of_ne_nil extra (hgoes hs ht)
      exact ⟨x, List.mem_append_right _ hx, .inr (hextra x hx).1⟩ }

/-- A tick of the run begins. -/
theorem beginTick (h : Accounts number start since (before ++ e :: after) r)
    (hjob : e.job = .begin number) (hs : r.stopped = false) (ht : r.ticking = false)
    (now tick : Nat) (control : PollControl) {x : Agenda.Entry TimelineJob}
    (hx : x.job = .finish number tick control) :
    Accounts number start (since ++ [.began number now]) (before ++ after ++ [x])
      (r.beginTick now) where
  interval_pos := h.interval_pos
  due_le := by
    have hdue := h.due_le
    dsimp only [PollRun.beginTick]
    split <;> omega
  begin_due_le y hy hbegin := by
    rcases List.mem_append.mp hy with hy | hy
    · exact h.begin_due_le y (by grind) hbegin
    · rw [List.mem_singleton.mp hy, hx] at hbegin
      cases hbegin
  stopped_iff := by
    refine iff_of_false (by simp [PollRun.beginTick, hs]) ?_
    rintro ⟨note, hmem, hends⟩
    rcases List.mem_append.mp hmem with hmem | hmem
    · exact absurd (h.stopped_iff.mpr ⟨note, hmem, hends⟩) (by simp [hs])
    · rw [List.mem_singleton.mp hmem] at hends
      exact hends
  endMarked := h.endMarked.beginTick hs now
  begins_eq := by
    have hbegins := h.begins_eq
    rw [ht] at hbegins
    simp [List.countP_append, PollNote.isBegin, PollNote.isReturn, PollRun.beginTick, hbegins]
  finishes_eq := by
    have hcount := h.finishes_eq
    rw [TimelineJob.finishes_append_cons, hjob, ht] at hcount
    have hnone : TimelineJob.finishes number (before ++ after) = 0 := hcount
    rw [TimelineJob.finishes_append, hnone]
    simp [TimelineJob.finishes, hx, TimelineJob.isFinish, PollRun.beginTick]
  carried _ ht := by cases ht

/-- A tick that the agenda ends is in flight. -/
theorem ticking_of_mem (h : Accounts number start since agenda r) (he : e ∈ agenda)
    (hjob : e.job.isFinish number = true) : r.ticking = true := by
  cases ht : r.ticking with
  | true => rfl
  | false =>
    have hcount := h.finishes_eq
    rw [ht, Bool.toNat_false, TimelineJob.finishes, List.countP_eq_zero] at hcount
    exact absurd hjob (hcount e he)

/-- No tick of the run is in flight exactly if all that began have returned. -/
theorem idle_iff (h : Accounts number start since agenda r) :
    PollNote.Idle number since ↔ r.ticking = false := by
  have hbegins := h.begins_eq
  unfold PollNote.Idle
  cases ht : r.ticking <;> rw [ht] at hbegins <;> simp [hbegins]

/-- The tick of the run returns, and the next one is planned if the run goes on. -/
theorem endTick {tick : Nat} {control : PollControl}
    (h : Accounts number start since (before ++ e :: after) r)
    (hjob : e.job = .finish number tick control)
    (hextra : ∀ x ∈ extra, x.job = .begin number ∧ start + r.interval ≤ x.due)
    (hgoes : (r.endTick control).stopped = false → extra ≠ []) :
    Accounts number start (since ++ [.returned number control]) (before ++ after ++ extra)
      (r.endTick control) := by
  have hfinish : e.job.isFinish number = true := by simp [hjob, TimelineJob.isFinish]
  have ht : r.ticking = true := h.ticking_of_mem List.mem_append_cons_self hfinish
  refine
    { interval_pos := by rw [r.interval_endTick]; exact h.interval_pos
      due_le := by rw [r.interval_endTick, r.due_endTick]; exact h.due_le
      begin_due_le := fun x hx hbegin => ?_
      stopped_iff := ?_
      endMarked := h.endMarked.endTick control
      begins_eq := ?_
      finishes_eq := ?_
      carried := fun hs _ => ?_ }
  · rw [r.interval_endTick]
    rcases List.mem_append.mp hx with hx | hx
    · exact h.begin_due_le x (by grind) hbegin
    · exact (hextra x hx).2
  · rw [PollRun.stopped_endTick, h.stopped_iff]
    constructor
    · rintro (⟨note, hmem, hends⟩ | hstop)
      · exact ⟨note, List.mem_append_left _ hmem, hends⟩
      · exact ⟨_, List.mem_concat_self, rfl, hstop⟩
    · rintro ⟨note, hmem, hends⟩
      rcases List.mem_append.mp hmem with hmem | hmem
      · exact .inl ⟨note, hmem, hends⟩
      · rw [List.mem_singleton.mp hmem] at hends
        exact .inr hends.2
  · have hbegins := h.begins_eq
    rw [ht] at hbegins
    simp [List.countP_append, PollNote.isBegin, PollNote.isReturn, hbegins]
  · have hcount := h.finishes_eq
    have hnone : TimelineJob.finishes number extra = 0 :=
      TimelineJob.finishes_eq_zero fun x hx => by rw [(hextra x hx).1]; rfl
    rw [TimelineJob.finishes_append_cons, hfinish, ht] at hcount
    rw [TimelineJob.finishes_append, hnone, r.ticking_endTick]
    exact Nat.succ.inj hcount
  · obtain ⟨x, hx⟩ := List.exists_mem_of_ne_nil extra (hgoes hs)
    exact ⟨x, List.mem_append_right _ hx, .inr (hextra x hx).1⟩

end Accounts

end PollRun

/-! ## Every run -/

namespace Timeline

/-- What was noted accounts for a run. -/
def Covers (notes : List PollNote) (t : Timeline) (number : Nat) : Prop :=
  ∃ r start since, t.poller.run? number = some r ∧
    PollNote.Since notes number start r.interval since ∧
    number + since.countP PollNote.isStart = t.poller.currentNumber ∧
    r.Accounts number start since t.agenda

/-- What was noted accounts for every run, and the agenda is about runs that were started. -/
structure Accounted (notes : List PollNote) (t : Timeline) : Prop where
  starts_eq : notes.countP PollNote.isStart = t.poller.currentNumber
  has_run : ∀ e ∈ t.agenda, t.poller.Has e.job.run
  covers : ∀ number, t.poller.Has number → t.Covers notes number

theorem accounted_nil : Accounted [] {} where
  starts_eq := rfl
  has_run := nofun
  covers _ h := absurd h.2 (Nat.not_le_of_gt h.1)

section

variable {notes new : List PollNote} {t u : Timeline} {e : Agenda.Entry TimelineJob}
  {before after extra : List (Agenda.Entry TimelineJob)}

/-- A job of one run changes that run alone. -/
theorem Accounted.change {run : Nat} (h : Accounted notes t)
    (hagenda : t.agenda = before ++ e :: after) (hrun : e.job.run = run) (f : PollRun → PollRun)
    (extra : List (Agenda.Entry TimelineJob)) (hpoller : u.poller = t.poller.modify run f)
    (hu : u.agenda = before ++ after ++ extra) (hextra : ∀ x ∈ extra, x.job.run = run)
    (hnew : ∀ note ∈ new, note.isStart = false ∧ ∀ n, n ≠ run → note.Spares n)
    (hown : ∀ r start since, t.poller.run? run = some r →
      r.Accounts run start since (before ++ e :: after) →
      (f r).interval = r.interval ∧
        (f r).Accounts run start (since ++ new) (before ++ after ++ extra)) :
    Accounted (notes ++ new) u := by
  have hhas : t.poller.Has run := hrun ▸ h.has_run e (hagenda ▸ List.mem_append_cons_self)
  have hstarts : new.countP PollNote.isStart = 0 :=
    List.countP_eq_zero.mpr fun note hmem => by simp [(hnew note hmem).1]
  have hcurrent : u.poller.currentNumber = t.poller.currentNumber := by
    rw [hpoller, Poller.currentNumber_modify]
  refine ⟨?_, fun x hx => ?_, fun number hnumber => ?_⟩
  · rw [List.countP_append, hstarts, h.starts_eq, hcurrent]
    rfl
  · rw [hpoller, Poller.has_modify]
    rw [hu] at hx
    rcases List.mem_append.mp hx with hx | hx
    · exact h.has_run x (by rw [hagenda]; grind)
    · rw [hextra x hx]
      exact hhas
  · rw [hpoller, Poller.has_modify] at hnumber
    obtain ⟨r, start, since, hr, hsince, hlater, haccounts⟩ := h.covers number hnumber
    rw [hagenda] at haccounts
    have hlater : number + (since ++ new).countP PollNote.isStart = u.poller.currentNumber := by
      rw [List.countP_append, hstarts, hcurrent]
      exact hlater
    by_cases hsame : number = run
    · subst hsame
      obtain ⟨hinterval, hown⟩ := hown r start since hr haccounts
      refine ⟨f r, start, since ++ new, ?_, hinterval ▸ hsince.append new, hlater, hu ▸ hown⟩
      rw [hpoller, Poller.run?_modify_self hnumber, hr]
      rfl
    · have hother : e.job.run ≠ number := hrun ▸ Ne.symm hsame
      refine ⟨r, start, since ++ new, ?_, hsince.append new, hlater, ?_⟩
      · rw [hpoller, Poller.run?_modify_of_ne hhas hnumber (Ne.symm hsame), hr]
      · rw [hu]
        refine ((haccounts.less hother).more fun x hx => ?_).note
          fun note hmem => (hnew note hmem).2 number hsame
        rw [hextra x hx]
        exact Ne.symm hsame

/-- The next tick of a run, if one is planned. -/
def planned (t : Timeline) (run : Nat) : List (Agenda.Entry TimelineJob) :=
  ((t.poller.nextDue? run).map fun due =>
    { due := max t.now due, urgent := due ≤ t.now, job := .begin run }).toList

theorem planTick_eq (t : Timeline) (run : Nat) :
    t.planTick run = { t with agenda := t.agenda ++ t.planned run } := by
  unfold planTick planned
  split
  · next due h => simp [h, plan]
  · next h => simp [h]

/-- The next tick is planned for when the run says, and if the run goes on. -/
theorem planned_spec (t : Timeline) {number : Nat} (start : Nat) {r : PollRun}
    (hr : t.poller.run? number = some r)
    (hpos : 0 < r.interval) (hdue : start + r.interval ≤ r.due) :
    (∀ x ∈ t.planned number, x.job = .begin number ∧ start + r.interval ≤ x.due) ∧
      (r.stopped = false → t.planned number ≠ []) := by
  have hinterval : r.interval ≠ 0 := Nat.ne_of_gt hpos
  unfold planned Poller.nextDue?
  rw [hr]
  cases hs : r.stopped with
  | true => simp [hs]
  | false =>
    simp only [hs, Bool.false_eq_true, hinterval, or_self, if_false, Option.map_some,
      Option.toList_some, List.mem_singleton, forall_eq, true_and]
    exact ⟨Nat.le_trans hdue (Nat.le_max_right ..), fun _ => List.cons_ne_nil _ _⟩

theorem run_of_mem_planned {run : Nat} : ∀ x ∈ t.planned run, x.job.run = run := by
  intro x hx
  unfold planned at hx
  obtain ⟨due, -, rfl⟩ := Option.map_eq_some_iff.mp (Option.mem_toList.mp hx)
  rfl

/-- A tick that begins is to end. -/
theorem beginTick_of_some {run : Nat} {q : Poller}
    (h : t.poller.beginTick? run t.now = some q) :
    ∃ x tick control, x.job = .finish run tick control ∧ (t.beginTick run).poller = q ∧
      (t.beginTick run).agenda = t.agenda ++ [x] := by
  unfold beginTick
  rw [h]
  exact ⟨_, _, _, rfl, rfl, rfl⟩

theorem Accounted.wait {entry : Agenda.Entry TimelineJob} {run : Nat} (h : Accounted notes t)
    (hagenda : t.agenda = before ++ entry :: after) (hjob : entry.job = .wait run) (now : Nat) :
    Accounted (notes ++ []) ({ t with now, agenda := before ++ after }.planTick run) := by
  refine h.change hagenda (by rw [hjob]; rfl) id
    (planned { t with now, agenda := before ++ after } run) ?_ ?_ run_of_mem_planned nofun
    fun r start since hr hbefore => ⟨rfl, ?_⟩
  · rw [Poller.modify_id, planTick_eq]
  · rw [planTick_eq]
  · obtain ⟨hextra, hgoes⟩ := planned_spec { t with now, agenda := before ++ after } start hr
      hbefore.interval_pos hbefore.due_le
    rw [List.append_nil]
    exact hbefore.lead (.inl hjob) hextra fun hs _ => hgoes hs

theorem Accounted.beginTick {entry : Agenda.Entry TimelineJob} {run : Nat} (h : Accounted notes t)
    (hagenda : t.agenda = before ++ entry :: after) (hjob : entry.job = .begin run) (now : Nat) :
    Accounted (notes ++ Timeline.notes { t with now } (.begin run))
      ({ t with now, agenda := before ++ after }.beginTick run) := by
  have hrun : entry.job.run = run := by rw [hjob]; rfl
  cases hbegins : t.poller.beginTick? run now with
  | none =>
    have hnotes : Timeline.notes { t with now } (.begin run) = [] := by
      simp [Timeline.notes, hbegins]
    rw [hnotes]
    refine h.change hagenda hrun id [] ?_ ?_ nofun nofun
      fun r start since hr hbefore => ⟨rfl, ?_⟩
    · simp [Timeline.beginTick, hbegins, Poller.modify_id]
    · simp [Timeline.beginTick, hbegins]
    · have hidle : ¬ (r.stopped = false ∧ r.ticking = false) := by
        rintro ⟨hs, ht⟩
        have hsome : t.poller.beginTick? run now = some _ :=
          Poller.beginTick?_eq_some_iff.mpr ⟨r, hr, hs, ht, rfl⟩
        cases hbegins.symm.trans hsome
      rw [List.append_nil since]
      exact hbefore.lead (.inr hjob) nofun fun hs ht => absurd ⟨hs, ht⟩ hidle
  | some q =>
    obtain ⟨r, hr, hs, ht, rfl⟩ := Poller.beginTick?_eq_some_iff.mp hbegins
    obtain ⟨x, tick, control, hx, hpoller, hadded⟩ :=
      beginTick_of_some (t := { t with now, agenda := before ++ after }) hbegins
    have hnotes : Timeline.notes { t with now } (.begin run) = [.began run now] := by
      simp [Timeline.notes, hbegins]
    rw [hnotes]
    refine h.change hagenda hrun (·.beginTick now) [x] hpoller hadded ?_ ?_
      fun r' start since hr' hbefore => ⟨rfl, ?_⟩
    · simp [hx, TimelineJob.run]
    · simp only [List.mem_singleton, forall_eq]
      exact ⟨rfl, fun n hn => ⟨id, beq_false_of_ne hn.symm, rfl⟩⟩
    · obtain rfl := Option.some.inj (hr.symm.trans hr')
      exact hbefore.beginTick hjob hs ht now tick control hx

theorem Accounted.endTick {entry : Agenda.Entry TimelineJob} {run tick : Nat}
    {control : PollControl} (h : Accounted notes t) (hagenda : t.agenda = before ++ entry :: after)
    (hjob : entry.job = .finish run tick control) (now : Nat) :
    Accounted (notes ++ [.returned run control])
      ({ t with now, agenda := before ++ after }.endTick run tick control) := by
  have hrun : entry.job.run = run := by rw [hjob]; rfl
  have hhas : t.poller.Has run := hrun ▸ h.has_run entry (hagenda ▸ List.mem_append_cons_self)
  let ended : Timeline :=
    { t with
      now
      agenda := before ++ after
      poller := t.poller.endTick run control
      marks := t.marks ++ [⟨now, run, tick, true⟩] }
  have hended {r : PollRun} (hr : t.poller.run? run = some r) :
      ended.poller.run? run = some (r.endTick control) := by
    change (t.poller.modify run (·.endTick control)).run? run = _
    rw [Poller.run?_modify_self hhas, hr]
    rfl
  refine h.change hagenda hrun (·.endTick control) (ended.planned run) ?_ ?_ run_of_mem_planned ?_
    fun r start since hr hbefore => ⟨r.interval_endTick control, ?_⟩
  · rw [Timeline.endTick, planTick_eq]
    rfl
  · rw [Timeline.endTick, planTick_eq]
  · simp only [List.mem_singleton, forall_eq]
    exact ⟨rfl, fun n hn => ⟨fun hends => hn hends.1.symm, rfl, beq_false_of_ne hn.symm⟩⟩
  · obtain ⟨hextra, hgoes⟩ := ended.planned_spec start (hended hr)
      (by simpa using hbefore.interval_pos) (by simpa using hbefore.due_le)
    rw [r.interval_endTick] at hextra
    exact hbefore.endTick hjob hextra hgoes

/-- Whatever waits on the agenda and goes on, the notes account for all runs. -/
theorem Accounted.takeUp {entry : Agenda.Entry TimelineJob} (h : Accounted notes t)
    (hagenda : t.agenda = before ++ entry :: after) (now : Nat) :
    Accounted (notes ++ Timeline.notes { t with now } entry.job)
      ({ t with now, agenda := before ++ after }.perform entry.job) := by
  cases hjob : entry.job with
  | wait run => exact h.wait hagenda hjob now
  | begin run => exact h.beginTick hagenda hjob now
  | finish run tick control => exact h.endTick hagenda hjob now

theorem started_endsAll (run now interval : Nat) :
    (PollNote.started run now interval).EndsAll :=
  fun _ => ⟨trivial, rfl, rfl⟩

/-- Whatever stops the latest run, the notes account for all runs. -/
theorem Accounted.halt (h : Accounted notes t) {note : PollNote} (hnote : note.EndsAll) {n : Nat}
    (hn : t.poller.Has n) :
    ∃ r start since, t.poller.stop.run? n = some r ∧
      PollNote.Since (notes ++ [note]) n start r.interval since ∧
      n + since.countP PollNote.isStart = t.poller.currentNumber + [note].countP PollNote.isStart ∧
      r.Accounts n start since t.agenda := by
  obtain ⟨r, start, since, hr, hsince, hlater, haccounts⟩ := h.covers n hn
  have hstarts : n + (since ++ [note]).countP PollNote.isStart =
      t.poller.currentNumber + [note].countP PollNote.isStart := by
    rw [List.countP_append, ← Nat.add_assoc, hlater]
  have hhalt := haccounts.halt hnote
  by_cases hlatest : n = t.poller.currentNumber
  · refine ⟨_, start, since ++ [note], ?_, ?_, hstarts, hhalt⟩
    · rw [Poller.stop_eq_modify, ← hlatest, Poller.run?_modify_self hn, hr]
      rfl
    · have hinterval : (if r.stopped then r else r.stop).interval = r.interval := by
        split <;> rfl
      rw [hinterval]
      exact hsince.append [note]
  · -- A run that was followed by another one is stopped already.
    have hfollowed : ∃ note ∈ since, PollNote.isStart note = true := by
      have hlt := Nat.lt_of_le_of_ne hn.2 hlatest
      exact List.countP_pos_iff.mp (by omega)
    have hs : r.stopped = true := by
      obtain ⟨start', hmem, hstart⟩ := hfollowed
      refine haccounts.stopped_iff.mpr ⟨start', hmem, ?_⟩
      cases start' with
      | started => trivial
      | _ => cases hstart
    rw [if_pos hs] at hhalt
    refine ⟨r, start, since ++ [note], ?_, hsince.append [note], hstarts, hhalt⟩
    have hpos : 0 < t.poller.currentNumber := Nat.lt_of_lt_of_le hn.1 hn.2
    rw [Poller.stop_eq_modify, Poller.run?_modify_of_ne ⟨hpos, Nat.le_refl _⟩ hn (Ne.symm hlatest),
      hr]

theorem Accounted.stop (h : Accounted notes t) {note : PollNote} (hnote : note.EndsAll)
    (hstart : note.isStart = false) : Accounted (notes ++ [note]) t.stop where
  starts_eq := by
    simpa [List.countP_append, hstart, Timeline.stop] using h.starts_eq
  has_run e he := by
    have hhas := h.has_run e he
    rwa [Poller.Has, ← Poller.currentNumber_stop] at hhas
  covers n hn := by
    rw [Timeline.stop, Poller.Has, Poller.currentNumber_stop] at hn
    obtain ⟨r, start, since, hr, hsince, hlater, haccounts⟩ := h.halt hnote hn
    refine ⟨r, start, since, hr, hsince, ?_, haccounts⟩
    simpa [hstart, Timeline.stop] using hlater

theorem Accounted.start (h : Accounted notes t) {interval : Nat} (plans : List TickPlan)
    (hpos : 0 < interval) :
    Accounted (notes ++ [.started (t.poller.currentNumber + 1) t.now interval])
      (t.start interval plans) where
  starts_eq := by
    simp [List.countP_append, Timeline.start, PollNote.isStart, h.starts_eq]
  has_run e he := by
    rw [Poller.Has, Timeline.start, Poller.currentNumber_start]
    rcases List.mem_append.mp he with he | he
    · obtain ⟨hfirst, hlast⟩ := h.has_run e he
      exact ⟨hfirst, Nat.le_succ_of_le hlast⟩
    · rw [List.mem_singleton.mp he]
      simp [TimelineJob.run]
  covers n hn := by
    rw [Poller.Has, Timeline.start, Poller.currentNumber_start] at hn
    by_cases hnew : n = t.poller.currentNumber + 1
    · subst hnew
      have hothers : ∀ e ∈ t.agenda, e.job.run ≠ t.poller.currentNumber + 1 := by
        intro e he
        exact Nat.ne_of_lt (Nat.lt_succ_of_le (h.has_run e he).2)
      refine ⟨_, t.now, [], t.poller.run?_start_self t.now interval,
        PollNote.since_concat .., ?_, ?_⟩
      · simp [Timeline.start]
      · rw [Timeline.start, Poller.currentNumber_start]
        exact .fresh hpos hothers
    · have hold : t.poller.Has n := ⟨hn.1, by omega⟩
      obtain ⟨r, start, since, hr, hsince, hlater, haccounts⟩ :=
        h.halt (started_endsAll (t.poller.currentNumber + 1) t.now interval) hold
      refine ⟨r, start, since, ?_, hsince, ?_, ?_⟩
      · rw [Timeline.start, Poller.run?_start_of_has hold, hr]
      · rw [hlater, Timeline.start, Poller.currentNumber_start]
        rfl
      · refine haccounts.more fun e he => ?_
        rw [List.mem_singleton.mp he]
        simpa [TimelineJob.run] using Ne.symm hnew

theorem Turn.accounted (hturn : Turn t new u) (h : Accounted notes t) :
    Accounted (notes ++ new) u := by
  cases hturn with
  | start interval plans hpos => exact h.start plans hpos
  | stop | drop => exact h.stop (fun _ => ⟨trivial, rfl, rfl⟩) rfl
  | takeUp before hagenda => exact h.takeUp hagenda _
  | elapse now hle => rw [List.append_nil]; exact ⟨h.starts_eq, h.has_run, h.covers⟩

/-- Whatever happens, the notes account for every run. -/
theorem Turns.accounted (hturns : Turns {} notes t) : Accounted notes t := by
  induction hturns with
  | refl => exact accounted_nil
  | tail _ hturn ih => exact hturn.accounted ih

/-! ## What an observer can tell -/

/-- A future of a run that was started resolves exactly if the notes say that the run is over. -/
theorem Accounted.hasEnded_iff {n start interval : Nat} {since : List PollNote}
    (h : Accounted notes t) (hn : t.poller.Has n)
    (hsince : PollNote.Since notes n start interval since)
    (hlater : n + since.countP PollNote.isStart = t.poller.currentNumber) :
    t.poller.hasEnded n = true ↔
      (∃ note ∈ since, note.Ends n) ∧ PollNote.Idle n since := by
  obtain ⟨r, start', since', hr, hsince', hlater', haccounts⟩ := h.covers n hn
  obtain rfl := hsince'.unique hsince (by omega)
  rw [Poller.hasEnded, hr, haccounts.idle_iff, ← haccounts.stopped_iff]
  simp [haccounts.endMarked.ended_eq haccounts.interval_pos]

/-- A tick begins if it is due, its run goes on and no tick of the run is in flight. -/
theorem Accounted.of_began {n time : Nat} (h : Accounted notes t)
    (hturn : Turn t [.began n time] u) :
    ∃ start interval since, PollNote.Since notes n start interval since ∧
      start + interval ≤ time ∧ PollNote.Idle n since ∧ ∀ note ∈ since, ¬ note.Ends n := by
  generalize hnew : [PollNote.began n time] = new at hturn
  cases hturn with
  | start | stop | drop | elapse => cases hnew
  | @takeUp before entry after hagenda =>
    cases hjob : entry.job with
    | wait run => rw [hjob] at hnew; cases hnew
    | finish run tick control => rw [hjob] at hnew; cases hnew
    | begin run =>
      rw [hjob, Timeline.notes] at hnew
      split at hnew
      · next hbegins =>
        obtain ⟨rfl, rfl⟩ := PollNote.began.inj (List.head_eq_of_cons_eq hnew)
        obtain ⟨q, hq⟩ := Option.isSome_iff_exists.mp hbegins
        obtain ⟨r, hr, hs, ht, -⟩ := Poller.beginTick?_eq_some_iff.mp hq
        have hmem : entry ∈ t.agenda := hagenda ▸ List.mem_append_cons_self
        have hhas : t.poller.Has n := by
          have hrun := h.has_run entry hmem
          rwa [hjob] at hrun
        obtain ⟨r', start, since, hr', hsince, -, haccounts⟩ := h.covers n hhas
        obtain rfl := Option.some.inj (hr.symm.trans hr')
        refine ⟨start, r.interval, since, hsince, ?_, haccounts.idle_iff.mpr ht, ?_⟩
        · exact Nat.le_trans (haccounts.begin_due_le entry hmem hjob) (Nat.le_max_right ..)
        · intro note hnote hends
          rw [haccounts.stopped_iff.mpr ⟨note, hnote, hends⟩] at hs
          cases hs
      · cases hnew

/-- Something carries on the latest run: its tick in flight is to return, or its next tick is to
come, and begins whenever it comes. -/
def GoesOn (t : Timeline) (since : List PollNote) : Prop :=
  (¬ PollNote.Idle t.poller.currentNumber since →
    ∃ e ∈ t.agenda, e.job.isFinish t.poller.currentNumber = true) ∧
  (PollNote.Idle t.poller.currentNumber since →
    (∃ e ∈ t.agenda, e.job.LeadsOn t.poller.currentNumber) ∧
      ∀ now, Timeline.notes { t with now } (.begin t.poller.currentNumber) =
        [.began t.poller.currentNumber now])

/-- The latest run is active exactly if nothing has ended it, and then something carries it on. -/
theorem Accounted.latest (h : Accounted notes t) (hpos : 0 < t.poller.currentNumber) :
    ∃ start interval since,
      PollNote.Since notes t.poller.currentNumber start interval since ∧
        since.countP PollNote.isStart = 0 ∧
        (t.poller.isActive = true ↔ ∀ note ∈ since, ¬ note.Ends t.poller.currentNumber) ∧
        (t.poller.isActive = true → t.GoesOn since) := by
  obtain ⟨r, start, since, hr, hsince, hlater, haccounts⟩ := h.covers _ ⟨hpos, Nat.le_refl _⟩
  have hactive : t.poller.isActive = !r.stopped := by
    rw [Poller.isActive_eq, ← Poller.run?_currentNumber, hr, Option.any_some, PollRun.isActive,
      haccounts.endMarked.ended_eq haccounts.interval_pos]
    cases r.stopped <;> rfl
  refine ⟨start, r.interval, since, hsince, by omega, ?_, fun hgoes => ⟨fun hbusy => ?_, ?_⟩⟩
  · rw [hactive, Bool.not_eq_true', ← Bool.not_eq_true, haccounts.stopped_iff]
    simp
  · have ht : r.ticking = true := by simpa using fun ht => hbusy (haccounts.idle_iff.mpr ht)
    have hcount := haccounts.finishes_eq
    rw [ht] at hcount
    exact List.countP_pos_iff.mp (Nat.lt_of_lt_of_eq Nat.one_pos hcount.symm)
  · intro hidle
    have ht : r.ticking = false := haccounts.idle_iff.mp hidle
    have hs : r.stopped = false := by simpa [hactive] using hgoes
    refine ⟨haccounts.carried hs ht, fun now => ?_⟩
    have hbegins : t.poller.beginTick? t.poller.currentNumber now = some _ :=
      Poller.beginTick?_eq_some_iff.mpr ⟨r, hr, hs, ht, rfl⟩
    simp [Timeline.notes, hbegins]

end

/-- In every order of what happens to a poller its runs keep these rules. A tick begins at the
earliest one interval after the start of its run, when every tick of the run that began before has
returned and nothing has ended the run since its start. Before anything is started the poller is not
active, and what waits for the end of a run waits for nothing. After that the poller is active
exactly as long as nothing has ended the latest run, and then something carries the run on. What
waits for the end of that run goes on exactly when something has ended it and its last tick has
returned, whatever is started later. Stopping again changes nothing. -/
theorem keeps_discipline {s t : Timeline} {notes later : List PollNote} (h : Turns {} notes s)
    (hlater : Turns s later t) :
    (∀ n time u, Turn s [.began n time] u →
      ∃ start interval since, PollNote.Since notes n start interval since ∧
        start + interval ≤ time ∧ PollNote.Idle n since ∧ ∀ note ∈ since, ¬ note.Ends n) ∧
    ((∀ note ∈ notes, note.isStart = false) ∧ s.poller.isActive = false ∧
        t.poller.hasEnded s.poller.currentNumber = true ∨
      ∃ start interval since,
        PollNote.Since notes s.poller.currentNumber start interval since ∧
          (∀ note ∈ since, note.isStart = false) ∧
          (s.poller.isActive = true ↔
            ∀ note ∈ since, ¬ note.Ends s.poller.currentNumber) ∧
          (s.poller.isActive = true → s.GoesOn since) ∧
          (t.poller.hasEnded s.poller.currentNumber = true ↔
            (∃ note ∈ since ++ later, note.Ends s.poller.currentNumber) ∧
              PollNote.Idle s.poller.currentNumber (since ++ later))) ∧
    s.stop.stop = s.stop := by
  have hs : Accounted notes s := h.accounted
  have ht : Accounted (notes ++ later) t := (h.trans hlater).accounted
  refine ⟨fun n time u hturn => hs.of_began hturn, ?_, ?_⟩
  · rcases Nat.eq_zero_or_pos s.poller.currentNumber with hzero | hpos
    · have hnone : notes.countP PollNote.isStart = 0 := hs.starts_eq.trans hzero
      have hruns : s.poller.runs = [] := List.length_eq_zero_iff.mp hzero
      refine .inl ⟨by simpa [List.countP_eq_zero] using hnone, ?_, by rw [hzero]; rfl⟩
      rw [Poller.isActive_eq, Poller.current?, hruns]
      rfl
    · obtain ⟨start, interval, since, hsince, hlast, hactive, hgoes⟩ := hs.latest hpos
      have hstarts : (notes ++ later).countP PollNote.isStart = t.poller.currentNumber :=
        ht.starts_eq
      rw [List.countP_append, hs.starts_eq] at hstarts
      refine .inr ⟨start, interval, since, hsince, ?_, hactive, hgoes, ?_⟩
      · simpa [List.countP_eq_zero] using hlast
      · refine ht.hasEnded_iff ⟨hpos, by omega⟩ (hsince.append later) ?_
        rw [List.countP_append, hlast, Nat.zero_add]
        exact hstarts
  · simp only [Timeline.stop, Poller.stop_stop]

/-- A poller whose first tick took longer than the interval and failed. -/
private def afterFailure : Timeline :=
  (({} : Timeline).start 10 [⟨.failed, 15⟩]).run (fun _ => false) none 3

/-- The first tick takes longer than the interval and fails. The second one begins as soon as the
first has returned, and is still in flight when another run is started. -/
theorem keeps_discipline_after_failure :
    ∃ (notes : List PollNote) (s t : Timeline),
      Turns {} notes s ∧ Turns s [.began 1 25, .started 2 25 7] t ∧
        notes = [.started 1 0 10, .began 1 10, .returned 1 .failed] ∧
        s.poller.isActive = true ∧ t.poller.hasEnded 1 = false ∧
        ∃ start interval since, PollNote.Since notes 1 start interval since ∧
          start + interval ≤ 25 ∧ PollNote.Idle 1 since := by
  have hstarted : Turns {} _ _ := (Turn.start 10 [⟨.failed, 15⟩] (by decide)).turns
  have hbegan := (hstarted.tail (.takeUp [] rfl)).tail (.takeUp [] rfl)
  have hreturned := hbegan.tail (.takeUp [] rfl)
  change Turns {} [.started 1 0 10, .began 1 10, .returned 1 .failed] afterFailure at hreturned
  have hagain := Turn.takeUp [] (show afterFailure.agenda = [] ++ [_] from rfl)
  change Turn afterFailure [.began 1 25] _ at hagain
  refine ⟨_, _, _, hreturned, hagain.turns.tail (.start 7 [] (by decide)), rfl, rfl, rfl, ?_⟩
  obtain ⟨hbegins, -, -⟩ := keeps_discipline hreturned .refl
  obtain ⟨start, interval, since, hsince, hdue, hidle, -⟩ := hbegins 1 25 _ hagain
  exact ⟨start, interval, since, hsince, hdue, hidle⟩

end Timeline

end TaskDesk
