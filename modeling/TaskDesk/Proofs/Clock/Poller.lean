import TaskDesk.Clock.Poller

/-!
# Which run of a poller goes on

Only the latest run of a poller may go on: starting again stops the run before, and nothing takes
a stop back. So a tick begins only while the poller is active, whichever run it belongs to.

## Main definitions

- `PollRun.isActive` — the run goes on
- `PollRun.EndMarked` — the run is marked as ended when it has ended
- `Poller.Sound` — the runs before the latest one are stopped
- `Poller.Has` — there was a run of that number

## Main results

- `Poller.run?_modify_self`, `Poller.run?_modify_of_ne` — a change of one run leaves the others
- `Poller.stop_eq_modify`, `Poller.stop_stop` — stopping is a change of the latest run, made once
- `Poller.Sound.isActive_of_beginTick?` — only an active poller ticks
- `Poller.isActive_endTick` — the end of a tick stops nothing unless it says so
-/

namespace TaskDesk

namespace PollRun

/-- The run goes on. -/
def isActive (r : PollRun) : Bool :=
  !r.stopped && !r.ended

@[simp] theorem isActive_stop (r : PollRun) : r.stop.isActive = false :=
  rfl

/-! ## The end of a tick -/

@[simp] theorem interval_endTick (r : PollRun) (control : PollControl) :
    (r.endTick control).interval = r.interval := by
  unfold endTick
  by_cases h : r.stopped = true ∨ control = .stop <;> simp [h, stop]

@[simp] theorem due_endTick (r : PollRun) (control : PollControl) :
    (r.endTick control).due = r.due := by
  unfold endTick
  by_cases h : r.stopped = true ∨ control = .stop <;> simp [h, stop]

@[simp] theorem ticking_endTick (r : PollRun) (control : PollControl) :
    (r.endTick control).ticking = false := by
  unfold endTick
  by_cases h : r.stopped = true ∨ control = .stop <;> simp [h, stop]

theorem stopped_endTick {r : PollRun} {control : PollControl} :
    (r.endTick control).stopped = true ↔ r.stopped = true ∨ control = .stop := by
  unfold endTick
  by_cases h : r.stopped = true ∨ control = .stop
  · simp [h, stop]
  · simpa [h] using fun hs => h (.inl hs)

theorem isActive_endTick (r : PollRun) {control : PollControl} (h : control ≠ .stop) :
    (r.endTick control).isActive = r.isActive := by
  unfold endTick
  by_cases hs : r.stopped = true
  · simp [hs, isActive, stop]
  · simp [hs, h, isActive]

theorem isActive_endTick_of_not {r : PollRun} (h : r.isActive = false) (control : PollControl) :
    (r.endTick control).isActive = false := by
  by_cases hc : control = .stop
  · simp [endTick, hc]
  · rw [isActive_endTick r hc, h]

/-! ## The mark of the end -/

/-- A run is marked as ended if it was stopped, no tick is in flight and it has an interval, and
only then. -/
def EndMarked (r : PollRun) : Prop :=
  r.ended = (r.stopped && !r.ticking && r.interval != 0)

theorem EndMarked.ended_eq {r : PollRun} (h : r.EndMarked) (hpos : 0 < r.interval) :
    r.ended = (r.stopped && !r.ticking) := by
  have hinterval : (r.interval != 0) = true := bne_iff_ne.mpr (Nat.ne_of_gt hpos)
  rw [h, hinterval, Bool.and_true]

theorem endMarked_stop (r : PollRun) : r.stop.EndMarked :=
  rfl

theorem EndMarked.beginTick {r : PollRun} (h : r.EndMarked) (hs : r.stopped = false) (now : Nat) :
    (r.beginTick now).EndMarked := by
  simp only [EndMarked, hs, Bool.false_and] at h
  simp [EndMarked, PollRun.beginTick, h, hs]

theorem EndMarked.endTick {r : PollRun} (h : r.EndMarked) (control : PollControl) :
    (r.endTick control).EndMarked := by
  by_cases hc : r.stopped = true ∨ control = .stop
  · have hstops : r.endTick control = { r with ticking := false }.stop := if_pos hc
    rw [hstops]
    exact endMarked_stop _
  · have hgoes : r.endTick control = { r with ticking := false } := if_neg hc
    have hs : r.stopped = false := by simpa using fun hs => hc (.inl hs)
    simp only [EndMarked, hs, Bool.false_and] at h
    rw [hgoes, EndMarked, h, hs]
    rfl

end PollRun

namespace Poller

/-- The runs before the latest one are stopped, and a run that has ended was stopped. -/
structure Sound (p : Poller) : Prop where
  stopped_of_pos {i : Nat} {r : PollRun} (hr : p.runs[i]? = some r) (hi : 0 < i) :
    r.stopped = true
  stopped_of_ended {i : Nat} {r : PollRun} (hr : p.runs[i]? = some r) (h : r.ended = true) :
    r.stopped = true

theorem isActive_eq (p : Poller) : p.isActive = p.current?.any PollRun.isActive :=
  rfl

/-! ## Runs by their number -/

/-- There was a run of that number. -/
def Has (p : Poller) (number : Nat) : Prop :=
  0 < number ∧ number ≤ p.currentNumber

theorem run?_currentNumber (p : Poller) : p.run? p.currentNumber = p.current? := by
  unfold run? currentNumber current?
  cases p.runs with
  | nil => rfl
  | cons r rest => simp

@[simp] theorem currentNumber_modify (p : Poller) (number : Nat) (f : PollRun → PollRun) :
    (p.modify number f).currentNumber = p.currentNumber := by
  unfold modify currentNumber
  split
  · rfl
  · exact List.length_modify ..

theorem modify_id (p : Poller) (number : Nat) : p.modify number id = p := by
  unfold modify
  split
  · rfl
  · rw [List.modify_id]

theorem has_modify {p : Poller} {number m : Nat} {f : PollRun → PollRun} :
    (p.modify m f).Has number ↔ p.Has number := by
  rw [Has, Has, currentNumber_modify]

theorem run?_modify_self {p : Poller} {number : Nat} (h : p.Has number) (f : PollRun → PollRun) :
    (p.modify number f).run? number = (p.run? number).map f := by
  have hpos : number ≠ 0 := Nat.ne_of_gt h.1
  simp only [run?, modify, if_neg hpos, List.length_modify, List.getElem?_modify_eq,
    Option.map_eq_map]

theorem run?_modify_of_ne {p : Poller} {number m : Nat} (hm : p.Has m) (h : p.Has number)
    (hne : m ≠ number) (f : PollRun → PollRun) : (p.modify m f).run? number = p.run? number := by
  obtain ⟨hmpos, hmle⟩ := hm
  obtain ⟨hpos, hle⟩ := h
  have hplace : p.runs.length - m ≠ p.runs.length - number := by
    unfold currentNumber at hmle hle
    omega
  simp only [run?, modify, if_neg (Nat.ne_of_gt hpos), if_neg (Nat.ne_of_gt hmpos),
    List.length_modify, List.getElem?_modify_ne _ _ hplace]

/-! ## Starting and stopping -/

/-- Stopping a poller is a change of its latest run. -/
theorem stop_eq_modify (p : Poller) :
    p.stop = p.modify p.currentNumber fun r => if r.stopped then r else r.stop := by
  unfold stop modify currentNumber
  split
  · next h => simp [h]
  · next r rest h =>
    have hpos : (r :: rest).length ≠ 0 := Nat.succ_ne_zero _
    rw [h, if_neg hpos, Nat.sub_self]
    rfl

@[simp] theorem currentNumber_stop (p : Poller) : p.stop.currentNumber = p.currentNumber := by
  rw [stop_eq_modify, currentNumber_modify]

/-- What is stopped already stays as it is. -/
theorem stop_stop (p : Poller) : p.stop.stop = p.stop := by
  cases p with
  | mk runs =>
    cases runs with
    | nil => rfl
    | cons r rest => cases hr : r.stopped <;> simp [stop, hr, PollRun.stop]

@[simp] theorem currentNumber_start (p : Poller) (now interval : Nat) :
    (p.start now interval).currentNumber = p.currentNumber + 1 :=
  congrArg (· + 1) p.currentNumber_stop

theorem run?_start_self (p : Poller) (now interval : Nat) :
    (p.start now interval).run? (p.currentNumber + 1) =
      some { interval, due := now + interval } := by
  rw [← currentNumber_start p now interval, run?_currentNumber]
  rfl

/-- A new run takes no other run's place. -/
theorem run?_start_of_has {p : Poller} {number : Nat} (h : p.Has number) (now interval : Nat) :
    (p.start now interval).run? number = p.stop.run? number := by
  obtain ⟨hpos, hle⟩ := h
  have hle : number ≤ p.stop.runs.length := by
    rwa [← currentNumber_stop, currentNumber] at hle
  unfold run?
  rw [if_neg (Nat.ne_of_gt hpos), if_neg (Nat.ne_of_gt hpos)]
  have hplace : (p.start now interval).runs.length - number =
      p.stop.runs.length - number + 1 := by
    change p.stop.runs.length + 1 - number = _
    omega
  rw [hplace]
  rfl

@[simp] theorem isActive_start (p : Poller) (now interval : Nat) :
    (p.start now interval).isActive = true :=
  rfl

@[simp] theorem isActive_stop (p : Poller) : p.stop.isActive = false := by
  unfold stop
  split
  · next h => simp [isActive, current?, h]
  · next r rest h =>
    by_cases hr : r.stopped = true
    · simp [isActive, current?, hr]
    · simp [isActive, current?, hr, PollRun.stop]

theorem sound_nil : Sound {} where
  stopped_of_pos hr := by cases hr
  stopped_of_ended hr := by cases hr

theorem Sound.stopped_of_mem_stop {p : Poller} (h : p.Sound) {r : PollRun}
    (hr : r ∈ p.stop.runs) : r.stopped = true := by
  unfold stop at hr
  split at hr
  · next hruns => rw [hruns] at hr; cases hr
  · next latest rest hruns =>
    rcases List.mem_cons.mp hr with rfl | hr
    · split
      · assumption
      · rfl
    · obtain ⟨i, hi⟩ := List.mem_iff_getElem?.mp hr
      refine h.stopped_of_pos (i := i + 1) ?_ (Nat.succ_pos i)
      rw [hruns, List.getElem?_cons_succ, hi]

theorem Sound.stop {p : Poller} (h : p.Sound) : p.stop.Sound where
  stopped_of_pos hr _ := h.stopped_of_mem_stop (List.mem_of_getElem? hr)
  stopped_of_ended hr _ := h.stopped_of_mem_stop (List.mem_of_getElem? hr)

theorem Sound.start {p : Poller} (h : p.Sound) (now interval : Nat) :
    (p.start now interval).Sound where
  stopped_of_pos {i r} hr hi := by
    cases i with
    | zero => cases hi
    | succ i => exact h.stopped_of_mem_stop (List.mem_of_getElem? hr)
  stopped_of_ended {i r} hr hended := by
    cases i with
    | zero => cases hr; cases hended
    | succ i => exact h.stopped_of_mem_stop (List.mem_of_getElem? hr)

/-! ## Ticks -/

/-- A tick begins exactly if its run was not stopped and has no tick in flight. -/
theorem beginTick?_eq_some_iff {p q : Poller} {number now : Nat} :
    p.beginTick? number now = some q ↔
      ∃ r, p.run? number = some r ∧ r.stopped = false ∧ r.ticking = false ∧
        q = p.modify number (·.beginTick now) := by
  unfold beginTick?
  constructor
  · intro h
    split at h
    · cases h
    · next r hr =>
      split at h
      · cases h
      · next hgo =>
        obtain ⟨hs, ht⟩ := not_or.mp hgo
        exact ⟨r, hr, by simpa using hs, by simpa using ht, (Option.some.inj h).symm⟩
  · rintro ⟨r, hr, hs, ht, rfl⟩
    simp [hr, hs, ht]

/-- A change of some run is a change of the latest one or leaves that one alone. -/
theorem current?_modify (p : Poller) (number : Nat) (f : PollRun → PollRun) :
    (p.modify number f).current? = p.current? ∨
      (p.modify number f).current? = p.current?.map f := by
  unfold modify current?
  split
  · exact .inl rfl
  · cases p.runs with
    | nil => left; simp
    | cons r rest =>
      cases (r :: rest).length - number with
      | zero => exact .inr rfl
      | succ i => exact .inl rfl

/-- A change that takes no stop back and ends no run that is not stopped keeps the order of the
runs. -/
theorem Sound.modify {p : Poller} (h : p.Sound) (number : Nat) {f : PollRun → PollRun}
    (hstopped : ∀ r, r.stopped = true → (f r).stopped = true)
    (hended : ∀ r, (f r).ended = true → r.ended = true ∨ (f r).stopped = true) :
    (p.modify number f).Sound := by
  unfold Poller.modify
  split
  · exact h
  · have hrun {i : Nat} {q : PollRun}
        (hq : (p.runs.modify (p.runs.length - number) f)[i]? = some q) :
        ∃ r, p.runs[i]? = some r ∧ (q = r ∨ q = f r) := by
      rw [List.getElem?_modify] at hq
      obtain ⟨r, hr, rfl⟩ := Option.map_eq_some_iff.mp hq
      refine ⟨r, hr, ?_⟩
      split
      · exact .inr rfl
      · exact .inl rfl
    refine ⟨fun {i q} hq hi => ?_, fun {i q} hq he => ?_⟩
    · obtain ⟨r, hr, rfl | rfl⟩ := hrun hq
      · exact h.stopped_of_pos hr hi
      · exact hstopped r (h.stopped_of_pos hr hi)
    · obtain ⟨r, hr, rfl | rfl⟩ := hrun hq
      · exact h.stopped_of_ended hr he
      · rcases hended r he with he | hs
        · exact hstopped r (h.stopped_of_ended hr he)
        · exact hs

/-- A run that goes on is the latest one. -/
theorem Sound.isActive_of_run? {p : Poller} (h : p.Sound) {number : Nat} {r : PollRun}
    (hr : p.run? number = some r) (hs : r.stopped = false) : p.isActive = true := by
  unfold run? at hr
  split at hr
  · cases hr
  · have hnot : r.stopped ≠ true := by simp [hs]
    have hended : r.ended = false := by
      simpa using fun he => hnot (h.stopped_of_ended hr he)
    have hzero : p.runs.length - number = 0 :=
      Nat.eq_zero_of_not_pos fun hpos => hnot (h.stopped_of_pos hr hpos)
    rw [hzero] at hr
    simp [isActive_eq, current?, List.head?_eq_getElem?, hr, PollRun.isActive, hs, hended]

/-- A tick begins only while the poller is active, and leaves it active. -/
theorem Sound.isActive_of_beginTick? {p q : Poller} (h : p.Sound) {number now : Nat}
    (hq : p.beginTick? number now = some q) :
    q.Sound ∧ p.isActive = true ∧ q.isActive = true := by
  unfold beginTick? at hq
  split at hq
  · cases hq
  · next r hr =>
    split at hq
    · cases hq
    · next hgo =>
      have hs : r.stopped = false := by simpa using fun hs => hgo (.inl hs)
      have hactive : p.isActive = true := h.isActive_of_run? hr hs
      obtain rfl := Option.some.inj hq
      refine ⟨h.modify _ (fun _ hs => hs) (fun _ he => .inl he), hactive, ?_⟩
      rcases p.current?_modify number (·.beginTick now) with hc | hc
      · rw [isActive_eq, hc, ← isActive_eq, hactive]
      · rw [isActive_eq, hc, Option.any_map]
        exact hactive

theorem Sound.endTick {p : Poller} (h : p.Sound) (number : Nat) (control : PollControl) :
    (p.endTick number control).Sound := by
  refine h.modify _ (fun r hs => ?_) (fun r he => ?_)
  · simp [PollRun.endTick, PollRun.stop, hs]
  · by_cases hc : r.stopped = true ∨ control = .stop
    · right; simp [PollRun.endTick, PollRun.stop, hc]
    · left; simpa [PollRun.endTick, hc] using he

/-- The end of a tick stops nothing unless the tick decided so. -/
theorem isActive_endTick (p : Poller) (number : Nat) {control : PollControl}
    (h : control ≠ .stop) : (p.endTick number control).isActive = p.isActive := by
  rcases p.current?_modify number (·.endTick control) with hc | hc
  · rw [endTick, isActive_eq, hc, ← isActive_eq]
  · rw [endTick, isActive_eq, hc, Option.any_map, isActive_eq]
    congr 1
    funext r
    exact r.isActive_endTick h

/-- The end of a tick starts nothing. -/
theorem isActive_endTick_of_not {p : Poller} (h : p.isActive = false) (number : Nat)
    (control : PollControl) : (p.endTick number control).isActive = false := by
  rcases p.current?_modify number (·.endTick control) with hc | hc
  · rw [endTick, isActive_eq, hc, ← isActive_eq, h]
  · rw [endTick, isActive_eq, hc, Option.any_map]
    rw [isActive_eq] at h
    cases hr : p.current? with
    | none => rfl
    | some r =>
      rw [hr] at h
      exact PollRun.isActive_endTick_of_not h control

end Poller

end TaskDesk
