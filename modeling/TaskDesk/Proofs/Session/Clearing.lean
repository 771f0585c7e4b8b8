import TaskDesk.Proofs.Api.Addressing
import TaskDesk.Proofs.Session.Closing

/-!
# What clearing takes away

Clearing is meant for the tasks that the filters of the view let through. Which ones the backend
takes away is said by the request alone, and the request is sent some time after the operator asked,
when the filters may be others already. So every such request is traced back to the moment at which
the state machine took the message. A list of video tasks may have a filter by kind that lets no
video task through; no request of it carries the kind.

## Main definitions

- `ApiRequest.Clears` — the tasks that a request takes away by a filter
- `ListView.AdmitsStatus`, `ListView.AdmitsKind` — the tasks that the filters of a view let through
- `Activity.AskedIn` — an activity clears only what was asked for

## Main results

- `ListSource.clears_clearCall` — what is taken away for two filters
- `Session.clears_as_filtered` — it is what the filters let through, but for video tasks under a
  filter for images
- `Session.clears_under_image_filter` — the exception
-/

namespace TaskDesk

/-! ## What a request takes away -/

/-- A request to clear takes the task away. Admin tasks are cleared by the members of the body,
where a member that is not there lets everything through; the endpoints for video tasks reach no
others. -/
def ApiRequest.Clears (r : ApiRequest) (task : TaskRecord) : Prop :=
  match r.method with
  | .get => False
  | .post =>
    r.path = adminTasksPath ++ "/clear" ∧
      ∃ members, r.body = some (.obj members) ∧
        (∀ v ∈ members.lookup "type", v = .str task.kind.label) ∧
        ∀ v ∈ members.lookup "status", v = .str task.status.label
  | .delete =>
    task.kind = .video ∧
      (r.path = tasksPath .video ++ "/all" ∨
        r.path = tasksPath .video ++ "/status/" ++ task.status.label)

def ListView.AdmitsStatus (view : ListView) (task : TaskRecord) : Prop :=
  ∀ status ∈ view.statusFilter, task.status.label = status.label

def ListView.AdmitsKind (view : ListView) (task : TaskRecord) : Prop :=
  ∀ kind ∈ view.kindFilter, task.kind = kind

namespace ListSource

variable {task : TaskRecord}

/-- Of the admin tasks those are taken away that both filters let through. -/
theorem clears_clearCall_adminTasks (kind : Option TaskKind) (status : Option TaskStatus) :
    (adminTasks.clearCall kind status).request.Clears task ↔
      (∀ s ∈ status, task.status.label = s.label) ∧ ∀ k ∈ kind, task.kind = k := by
  obtain ⟨members, hbody, htype, hstatus⟩ := TaskOperation.exists_body_clearTasks kind status
  constructor
  · rintro ⟨-, others, hothers, hkinds, hstatuses⟩
    obtain rfl := Json.obj.inj (Option.some.inj (hbody.symm.trans hothers))
    rw [htype] at hkinds
    rw [hstatus] at hstatuses
    refine ⟨fun s hs => ?_, fun k hk => TaskKind.label_injective ?_⟩
    · exact (Json.str.inj (hstatuses _ (Option.mem_map_of_mem _ hs))).symm
    · exact (Json.str.inj (hkinds _ (Option.mem_map_of_mem _ hk))).symm
  · rintro ⟨hstatuses, hkinds⟩
    refine ⟨rfl, members, hbody, fun v hv => ?_, fun v hv => ?_⟩
    · obtain ⟨k, hk, rfl⟩ := Option.map_eq_some_iff.mp (htype.symm.trans hv)
      rw [hkinds k hk]
    · obtain ⟨s, hs, rfl⟩ := Option.map_eq_some_iff.mp (hstatus.symm.trans hv)
      rw [hstatuses s hs]

/-- The place for the tasks of a status stands for that status alone. -/
theorem eq_label_of_path_videoTasks {kind : Option TaskKind} {status : TaskStatus} {label : String}
    (h : (videoTasks.clearCall kind (some status)).request.path = tasksPath .video ++ "/all" ∨
      (videoTasks.clearCall kind (some status)).request.path =
        tasksPath .video ++ "/status/" ++ label) : label = status.label := by
  have hplace : (videoTasks.clearCall kind (some status)).request.path =
      tasksPath .video ++ ("/status/" ++ status.label) :=
    String.append_assoc
  rw [hplace, String.append_assoc, String.append_right_inj, String.append_right_inj] at h
  rcases h with hall | hlabel
  · -- The place for all tasks is no place for the tasks of a status.
    simp [← String.toList_inj] at hall
  · exact ((String.append_right_inj _).mp hlabel).symm

/-- Of the video tasks those are taken away that the filter by status lets through. -/
theorem clears_clearCall_videoTasks (kind : Option TaskKind) (status : Option TaskStatus) :
    (videoTasks.clearCall kind status).request.Clears task ↔
      (∀ s ∈ status, task.status.label = s.label) ∧ task.kind = .video := by
  cases status with
  | none =>
    constructor
    · rintro ⟨hkind, -⟩
      exact ⟨nofun, hkind⟩
    · rintro ⟨-, hkind⟩
      exact ⟨hkind, .inl rfl⟩
  | some status =>
    constructor
    · rintro ⟨hkind, hpath⟩
      refine ⟨fun s hs => ?_, hkind⟩
      obtain rfl := Option.some.inj hs
      exact eq_label_of_path_videoTasks hpath
    · rintro ⟨hstatus, hkind⟩
      refine ⟨hkind, .inr ?_⟩
      rw [hstatus status rfl]
      rfl

/-- What is taken away for two filters depends on the source. -/
theorem clears_clearCall (source : ListSource) (kind : Option TaskKind)
    (status : Option TaskStatus) :
    (source.clearCall kind status).request.Clears task ↔
      (∀ s ∈ status, task.status.label = s.label) ∧
        match source with
        | adminTasks => ∀ k ∈ kind, task.kind = k
        | videoTasks => task.kind = .video := by
  cases source with
  | adminTasks => exact clears_clearCall_adminTasks kind status
  | videoTasks => exact clears_clearCall_videoTasks kind status

/-- What clearing takes away for the filters of a view, they let through, but for video tasks under
a filter for images. -/
theorem admits_of_clears {source : ListSource} {view : ListView}
    (h : (source.clearCall view.kindFilter view.statusFilter).request.Clears task) :
    view.AdmitsStatus task ∧
      (view.AdmitsKind task ∨ source = .videoTasks ∧ view.kindFilter = some .image) := by
  obtain ⟨hstatus, hkind⟩ := (source.clears_clearCall _ _).mp h
  refine ⟨hstatus, ?_⟩
  cases source with
  | adminTasks => exact .inl hkind
  | videoTasks =>
    by_cases himage : view.kindFilter = some .image
    · exact .inr ⟨rfl, himage⟩
    · refine .inl fun kind hfilter => ?_
      cases kind with
      | video => exact hkind
      | image => exact absurd hfilter himage

theorem not_clears_fetchCall (source : ListSource) (query : ListQuery) :
    ¬ (source.fetchCall query).request.Clears task := by
  cases source <;> exact id

theorem not_clears_deleteCall (source : ListSource) (ids : List TaskId) :
    ¬ (source.deleteCall ids).request.Clears task := by
  cases source with
  | adminTasks =>
    rintro ⟨hpath, -⟩
    have hother : adminTasksPath ++ "/batch/delete" ≠ adminTasksPath ++ "/clear" := by decide
    exact hother hpath
  | videoTasks =>
    have hdeeper (rest : String) : tasksPath .video ≠ tasksPath .video ++ "/" ++ rest := by
      intro h
      have hlength := congrArg String.length h
      have hslash : "/".length = 1 := rfl
      rw [String.length_append, String.length_append] at hlength
      omega
    rintro ⟨-, hpath | hpath⟩
    · exact hdeeper "all" hpath
    · refine hdeeper ("status/" ++ task.status.label) (hpath.trans ?_)
      rw [String.append_assoc, TaskOperation.slash_status, ← String.append_assoc]

end ListSource

/-! ## What was asked for -/

/-- If the effect is to clear tasks, then an open view was asked to while it had those filters. -/
def Effect.AskedIn (marks : List Mark) : Effect → Prop
  | .clearTasks kind status =>
    ∃ state : ListState, .took state .clearTasksRequested ∈ marks ∧ state.disposed = false ∧
      state.view.kindFilter = kind ∧ state.view.statusFilter = status
  | _ => True

/-- Whatever the activity still carries out or sends was asked for. -/
def Activity.AskedIn (source : ListSource) (marks : List Mark) : Activity → Prop
  | .work w => ∀ e ∈ w.effects, e.AskedIn marks
  | .call next =>
    (∀ e rest, next.purpose = .effect e rest → ∀ f ∈ rest.effects, f.AskedIn marks) ∧
      ∀ r ∈ next.request?, ∃ (e : Effect) (call : ApiCall),
        e.AskedIn marks ∧ e.call? source = some call ∧ r = call.request
  | .wait _ | .tick _ => True

variable {source : ListSource} {marks : List Mark}

theorem Effect.AskedIn.append {e : Effect} (h : e.AskedIn marks) (new : List Mark) :
    e.AskedIn (marks ++ new) := by
  cases e with
  | clearTasks kind status =>
    obtain ⟨state, hstate, hopen, hfilters⟩ := h
    exact ⟨state, List.mem_append_left new hstate, hopen, hfilters⟩
  | _ => trivial

theorem Activity.AskedIn.append {a : Activity} (h : a.AskedIn source marks) (new : List Mark) :
    a.AskedIn source (marks ++ new) := by
  cases a with
  | work w => exact fun e he => (h e he).append new
  | call next =>
    refine ⟨fun e rest hpurpose f hf => (h.1 e rest hpurpose f hf).append new, fun r hr => ?_⟩
    obtain ⟨e, call, he, hcall⟩ := h.2 r hr
    exact ⟨e, call, he.append new, hcall⟩
  | wait | tick => trivial

/-- What an activity sends is the request of an effect that was asked for. -/
theorem Activity.AskedIn.exists_call {a : Activity} (h : a.AskedIn source marks) :
    ∀ r ∈ a.request?, ∃ (e : Effect) (call : ApiCall),
      e.AskedIn marks ∧ e.call? source = some call ∧ r = call.request := by
  cases a with
  | call next => exact h.2
  | work | wait | tick => nofun

theorem ListState.askedIn_update {s : ListState} {m : Message} {e : Effect}
    (he : e ∈ (s.update m).2) : e.AskedIn (marks ++ [.took s m]) := by
  by_cases hopen : s.disposed = false
  · have hdemands := s.demands_update m
    generalize (s.update m).2 = effects at he hdemands
    have hcall (h : e.isCall = false) : e.AskedIn (marks ++ [.took s m]) := by
      cases e with
      | clearTasks => cases h
      | _ => trivial
    cases hdemands with
    | nothing h => exact hcall (h e he)
    | page notices h =>
      rcases List.mem_append.mp he with he | he
      · exact hcall (h e he)
      · rw [List.mem_singleton.mp he]
        trivial
    | deletion =>
      rw [List.mem_singleton.mp he]
      trivial
    | clearing =>
      rw [List.mem_singleton.mp he]
      exact ⟨s, List.mem_append_right _ (List.mem_singleton.mpr rfl), hopen, rfl, rfl⟩
  · rw [ListState.update_of_disposed (by simpa using hopen)] at he
    cases he

theorem World.request?_launch {π κ : Type} [Vault κ] (w : World κ) (p : RetryPolicy)
    (c : ApiCall) (purpose : π) : ∀ r ∈ (w.launch p c purpose).request?, r = c.request := by
  intro r hr
  unfold World.launch at hr
  split at hr
  · cases hr
  · exact (Option.mem_some.mp hr).symm

namespace Session

variable {κ : Type}

/-! ## The configuration stays -/

variable [Vault κ]

theorem config_perform (s : Session κ) (e : Effect) (rest : Work) :
    (s.perform e rest).config = s.config := by
  cases e <;> rfl

theorem config_proceedCall (s : Session κ) (next : FlightNext Purpose) :
    (s.proceedCall next).config = s.config := by
  cases next with
  | landed purpose outcome => exact (keeps_land _ _ _).config_eq
  | go delay step =>
    simp only [proceedCall]
    split
    · rfl
    · exact (keeps_goOn _ _ _ _).config_eq

theorem config_step (s : Session κ) (a : Activity) : (s.step a).config = s.config := by
  cases a with
  | work w =>
    obtain ⟨effects, queue, origin⟩ := w
    cases effects with
    | cons e effects => exact s.config_perform e _
    | nil =>
      cases queue with
      | cons m queue => rfl
      | nil => exact (keeps_endWork _ _).config_eq
  | call next => exact s.config_proceedCall next
  | wait run => exact (keeps_awaitTick _ _).config_eq
  | tick run =>
    simp only [step, beginTick]
    split <;> rfl

/-! ## Every step carries out what was asked for -/

/-- The call that takes off is the call of the effect that is carried out. -/
theorem request?_perform {s : Session κ} {e : Effect} {rest : Work} {next : FlightNext Purpose}
    (h : (s.perform e rest).running = some (.call next)) :
    ∃ call, e.call? s.config.source = some call ∧ ∀ r ∈ next.request?, r = call.request := by
  unfold perform at h
  split at h
  · next call hcall =>
    refine ⟨call, hcall, ?_⟩
    obtain rfl : s.world.launch s.policy call (.effect e rest) = next := by
      simpa [continueCall] using h
    exact World.request?_launch _ _ _ _
  · cases h

theorem request?_beginTick {s : Session κ} {run : Nat} {next : FlightNext Purpose}
    (h : (s.beginTick run).running = some (.call next)) :
    ∀ r ∈ next.request?, r = (s.config.source.fetchCall s.state.query).request := by
  unfold beginTick at h
  split at h
  · cases h
  · obtain rfl := Activity.call.inj (Option.some.inj h)
    exact World.request?_launch _ _ _ _

omit [Vault κ] in
/-- Waiting for a tick leads to no call. -/
theorem LedTo.not_call {s t : Session κ} {run : Nat} {next : FlightNext Purpose}
    (h : s.LedTo (.wait run) t) : t.running ≠ some (.call next) := by
  intro hrunning
  obtain ⟨later, -, hleads⟩ := h
  rw [hrunning] at hleads
  cases hleads with
  | awaited hqueues => cases hqueues

/-- Whatever takes off was asked for. -/
theorem asked_of_takeoff {s : Session κ} {a : Activity} (ha : a.AskedIn s.config.source marks)
    (hcalls : a.purpose? = none) {next : FlightNext Purpose}
    (h : (s.step a).running = some (.call next)) :
    ∀ r ∈ next.request?, ∃ (e : Effect) (call : ApiCall),
      e.AskedIn marks ∧ e.call? s.config.source = some call ∧ r = call.request := by
  intro r hr
  cases a with
  | work w =>
    obtain ⟨effects, queue, origin⟩ := w
    cases effects with
    | cons e effects =>
      obtain ⟨call, hcall, hrequest⟩ := request?_perform h
      exact ⟨e, call, ha e List.mem_cons_self, hcall, hrequest r hr⟩
    | nil =>
      cases queue with
      | cons m queue => cases h
      | nil => exact absurd h (s.ledTo_endWork (.wait 0) origin).not_call
  | call => cases hcalls
  | wait run => exact absurd h (s.ledTo_awaitTick s rfl (.wait run) run).not_call
  | tick run =>
    exact ⟨.fetchPage s.state.query, _, trivial, rfl, request?_beginTick h r hr⟩

omit [Vault κ] in
/-- What goes on or waits after a step was asked for, if what takes off in it was. -/
theorem Leads.askedIn {s : Session κ} {a : Activity} {now : Option Activity}
    {later : List Activity} (h : s.Leads a now later) (ha : a.AskedIn source marks)
    (htakeoff : a.purpose? = none → ∀ next, now = some (.call next) →
      ∀ r ∈ next.request?, ∃ (e : Effect) (call : ApiCall),
        e.AskedIn marks ∧ e.call? source = some call ∧ r = call.request) :
    (∀ b ∈ now, b.AskedIn source (marks ++ s.marks a)) ∧
      ∀ b ∈ later, b.AskedIn source (marks ++ s.marks a) := by
  have hnow {b : Activity} (hb : b.AskedIn source marks) (new : List Mark) :
      (∀ c ∈ some b, c.AskedIn source (marks ++ new)) ∧
        ∀ c ∈ ([] : List Activity), c.AskedIn source (marks ++ new) :=
    ⟨Activity.forall_mem_some (hb.append new), List.forall_mem_nil _⟩
  have hqueued {b : Activity} (hb : b.AskedIn source marks) (new : List Mark)
      (hqueues : b.Queues now later) :
      (∀ c ∈ now, c.AskedIn source (marks ++ new)) ∧
        ∀ c ∈ later, c.AskedIn source (marks ++ new) := by
    cases hqueues with
    | now => exact hnow hb new
    | later => exact ⟨Activity.forall_mem_none, List.forall_mem_singleton.mpr (hb.append new)⟩
  cases h with
  | @launched e rest next he hnext =>
    have hcall : (Activity.call next).AskedIn source marks := by
      refine ⟨fun e' rest' hpurpose f hf => ?_, htakeoff rfl next rfl⟩
      obtain ⟨rfl, rfl⟩ := Purpose.effect.inj (hnext.symm.trans hpurpose)
      exact ha f (List.mem_cons_of_mem e hf)
    exact hnow hcall _
  | @performed e rest runs he =>
    have hrest : (Activity.work rest).AskedIn source marks :=
      fun f hf => ha f (List.mem_cons_of_mem e hf)
    refine ⟨(hnow hrest _).1, List.forall_mem_map.mpr fun run _ => ?_⟩
    trivial
  | took =>
    -- Here a request to clear can begin, and the mark of this very step vouches for it.
    exact ⟨Activity.forall_mem_some fun e he => ListState.askedIn_update he, List.forall_mem_nil _⟩
  | @flew next after _ _ hpurpose hrequest hqueues =>
    have hafter : (Activity.call after).AskedIn source marks := by
      refine ⟨fun e rest hrest => ha.1 e rest (hpurpose ▸ hrest), fun r hr => ?_⟩
      rcases hrequest with heq | hnone
      · exact ha.2 r (heq ▸ hr)
      · rw [hnone] at hr
        cases hr
    exact hqueued hafter _ hqueues
  | @landed e rest outcome m =>
    have hrest : (Activity.work { rest with queue := rest.queue ++ [m] }).AskedIn source marks :=
      ha.1 e rest rfl
    exact hnow hrest _
  | @polled query run outcome m origin =>
    have hwork : (Activity.work { queue := [m], origin }).AskedIn source marks :=
      List.forall_mem_nil _
    exact hnow hwork _
  | @ticked run poller query next hbegin hnext =>
    have hcall : (Activity.call next).AskedIn source marks := by
      refine ⟨fun e rest hpurpose => ?_, htakeoff rfl next rfl⟩
      rw [hnext] at hpurpose
      cases hpurpose
    exact hnow hcall _
  | @awaited _ run _ _ hqueues =>
    have htick : (Activity.tick run).AskedIn source marks := trivial
    exact hqueued htick _ hqueues
  | ended => exact ⟨Activity.forall_mem_none, List.forall_mem_nil _⟩

/-- What holds of a session at every step: whatever is under way was asked for. -/
structure AskedIn (config : ViewConfig) (marks : List Mark) (s : Session κ) : Prop where
  config_eq : s.config = config
  running : ∀ a ∈ s.running, a.AskedIn config.source marks
  agenda : ∀ e ∈ s.agenda, e.job.AskedIn config.source marks

variable {config : ViewConfig}

theorem AskedIn.step {s : Session κ} (h : s.AskedIn config marks) {a : Activity}
    (ha : a.AskedIn config.source marks) :
    (s.step a).AskedIn config (marks ++ s.marks a) := by
  obtain ⟨later, hagenda, hleads⟩ := s.leads_step a
  obtain ⟨hrunning, hlater⟩ := hleads.askedIn ha fun hcalls next hnext => by
    rw [← h.config_eq] at ha ⊢
    exact asked_of_takeoff ha hcalls hnext
  refine ⟨(s.config_step a).trans h.config_eq, hrunning, ?_⟩
  rw [hagenda]
  refine List.forall_mem_append.mpr ⟨fun e he => ?_, List.forall_mem_map.mp hlater⟩
  exact (h.agenda e he).append _

theorem Turn.askedIn {s t : Session κ} {new : List Mark} (h : Turn s new t)
    (hs : s.AskedIn config marks) : t.AskedIn config (marks ++ new) := by
  have hkept (a : Activity) (ha : a.AskedIn config.source marks) :
      a.AskedIn config.source (marks ++ new) :=
    ha.append new
  have hholds : t.Holds (Activity.AskedIn config.source (marks ++ new))
      (Activity.AskedIn config.source (marks ++ new)) := by
    refine h.holds ⟨hs.running, hs.agenda⟩ ?_ hkept (fun a _ => hkept a) hkept hkept ?_
    · rintro a ha rfl
      have hidle : AskedIn config marks { s with running := none } :=
        { hs with running := Activity.forall_mem_none }
      have hnext := hidle.step (hs.running a ha)
      exact ⟨hnext.running, hnext.agenda⟩
    · intro m origin
      have hwork : (Activity.work { queue := [m], origin }).AskedIn config.source (marks ++ new) :=
        List.forall_mem_nil _
      exact ⟨hwork, hwork⟩
  refine ⟨?_, hholds.running, hholds.agenda⟩
  cases h with
  | goOn => exact (config_step _ _).trans hs.config_eq
  | _ => exact hs.config_eq

theorem Turns.askedIn {policy : RetryPolicy} {world : World κ} {s : Session κ}
    (h : Turns (opened config policy world) marks s) : s.AskedIn config marks := by
  induction h with
  | refl => exact ⟨rfl, Activity.forall_mem_none, List.forall_mem_nil _⟩
  | tail _ hturn ih => exact hturn.askedIn ih

/-- A step sends only what its activity was about to send. -/
theorem exists_sent_step (s : Session κ) (a : Activity) :
    ∃ sent, (s.step a).world.attempts = s.world.attempts ++ sent ∧
      ∀ x ∈ sent, x.request ∈ a.request? := by
  obtain ⟨told, sent, htells, -, hattempts⟩ := s.exists_tells_step a
  refine ⟨sent, hattempts, ?_⟩
  cases htells with
  | flew _ hsent => exact hsent
  | _ => exact List.forall_mem_nil _

/-- Once an open view has taken the message, the call for its filters takes off before anything else
goes on. -/
theorem exists_turns_clear {s : Session κ} {queue : List Message} {origin : Origin}
    (h : s.running = some (.work { queue := .clearTasksRequested :: queue, origin }))
    (hopen : s.state.disposed = false) :
    ∃ t, Turns s [.took s.state .clearTasksRequested] t ∧
      t.running = some (.call (t.world.launch t.policy
        (s.config.source.clearCall s.state.view.kindFilter s.state.view.statusFilter)
        (.effect (.clearTasks s.state.view.kindFilter s.state.view.statusFilter)
          { queue, origin }))) := by
  have hupdate : s.state.update .clearTasksRequested =
      (s.state, [.clearTasks s.state.view.kindFilter s.state.view.statusFilter]) := by
    rw [ListState.update, hopen]
    rfl
  obtain ⟨t, hturn, hrunning, hconfig⟩ : ∃ t, Turn s [.took s.state .clearTasksRequested] t ∧
      t.running = some (.work
        { effects := [.clearTasks s.state.view.kindFilter s.state.view.statusFilter]
          queue, origin }) ∧ t.config = s.config := by
    refine ⟨_, .goOn h, ?_, config_step _ _⟩
    simp only [step, proceed, apply, hupdate]
  refine ⟨_, hturn.turns.tail (.goOn hrunning), ?_⟩
  rw [← hconfig]
  rfl

/-- In every order of what the activities of a session, its operator, the clock and the backend do:
a view that is asked to clear sends off the call for the filters that it has at that moment, and
whatever is sent to clear tasks was asked for so. It takes away only tasks that both filters let
through, but for video tasks under a filter for images. -/
theorem clears_as_filtered (config : ViewConfig) (policy : RetryPolicy) (world : World κ)
    {marks : List Mark} {s : Session κ} (h : Turns (opened config policy world) marks s) :
    (∀ queue origin,
      s.running = some (.work { queue := .clearTasksRequested :: queue, origin }) →
      s.state.disposed = false →
      ∃ t, Turns s [.took s.state .clearTasksRequested] t ∧
        t.running = some (.call (t.world.launch t.policy
          (config.source.clearCall s.state.view.kindFilter s.state.view.statusFilter)
          (.effect (.clearTasks s.state.view.kindFilter s.state.view.statusFilter)
            { queue, origin })))) ∧
      ∀ a, s.running = some a →
        ∃ sent, (step { s with running := none } a).world.attempts = s.world.attempts ++ sent ∧
          ∀ x ∈ sent, ∀ task, x.request.Clears task →
            ∃ state : ListState, .took state .clearTasksRequested ∈ marks ∧
              state.disposed = false ∧
              x.request = (config.source.clearCall state.view.kindFilter
                state.view.statusFilter).request ∧
              state.view.AdmitsStatus task ∧
              (state.view.AdmitsKind task ∨
                config.source = .videoTasks ∧ state.view.kindFilter = some .image) := by
  have hasked := h.askedIn
  constructor
  · intro queue origin hrunning hopen
    rw [← hasked.config_eq]
    exact exists_turns_clear hrunning hopen
  · intro a ha
    obtain ⟨sent, hattempts, hsent⟩ := exists_sent_step { s with running := none } a
    refine ⟨sent, hattempts, fun x hx task hclears => ?_⟩
    obtain ⟨e, call, he, hcall, hrequest⟩ := (hasked.running a ha).exists_call _ (hsent x hx)
    rw [hrequest] at hclears ⊢
    cases e with
    | fetchPage query =>
      obtain rfl := Option.some.inj hcall
      exact absurd hclears (config.source.not_clears_fetchCall query)
    | batchDelete ids =>
      obtain rfl := Option.some.inj hcall
      exact absurd hclears (config.source.not_clears_deleteCall ids)
    | clearTasks kind status =>
      obtain rfl := Option.some.inj hcall
      obtain ⟨state, hmark, hopen, rfl, rfl⟩ := he
      exact ⟨state, hmark, hopen, rfl, ListSource.admits_of_clears hclears⟩
    | startPolling | stopPolling | notify => cases hcall

/-- A world with both credentials. -/
private def unlocked : World MemoryVault :=
  { vault := ⟨{ admin := some "key", token := some "token" }⟩ }

/-- A list of admin tasks that shows failed images clears failed images only. -/
theorem clears_as_filtered_failed_images :
    ∃ (marks : List Mark) (s : Session MemoryVault) (a : Activity) (sent : List Attempt),
      Turns (opened { status := some .failed, kind := some .image } {} unlocked) marks s ∧
        s.running = some a ∧
        (step { s with running := none } a).world.attempts = s.world.attempts ++ sent ∧
        sent ≠ [] ∧
        ∀ x ∈ sent, ∀ task, x.request.Clears task →
          task.status.label = "failed" ∧ task.kind = .image := by
  have hasked : Turns (opened { status := some .failed, kind := some .image } {} unlocked) _ _ :=
    (Turn.dispatch rfl .clearTasksRequested).turns
  have hflight := (hasked.tail (.goOn rfl)).tail (.goOn rfl)
  obtain ⟨-, hsends⟩ := clears_as_filtered _ _ _ hflight
  obtain ⟨sent, hattempts, hsent⟩ := hsends _ rfl
  refine ⟨_, _, _, sent, hflight, rfl, hattempts, ?_, fun x hx task hclears => ?_⟩
  · rintro rfl
    cases hattempts
  · obtain ⟨state, hmark, -, -, hstatus, hkind⟩ := hsent x hx task hclears
    obtain ⟨rfl, -⟩ := Mark.took.inj (List.mem_singleton.mp hmark)
    obtain hkind | ⟨hsource, -⟩ := hkind
    · exact ⟨hstatus _ rfl, hkind _ rfl⟩
    · cases hsource

/-- A list of video tasks under a filter for images clears all video tasks. -/
theorem clears_under_image_filter :
    ¬ ∀ (config : ViewConfig) (policy : RetryPolicy) (world : World MemoryVault)
        (marks : List Mark) (s : Session MemoryVault) (a : Activity),
      Turns (opened config policy world) marks s → s.running = some a →
        ∃ sent, (step { s with running := none } a).world.attempts = s.world.attempts ++ sent ∧
          ∀ x ∈ sent, ∀ task, x.request.Clears task →
            ∃ state : ListState, .took state .clearTasksRequested ∈ marks ∧
              state.view.AdmitsStatus task ∧ state.view.AdmitsKind task := by
  intro h
  have hasked : Turns (opened { source := .videoTasks, kind := some .image } {} unlocked) _ _ :=
    (Turn.dispatch rfl .clearTasksRequested).turns
  have hflight := (hasked.tail (.goOn rfl)).tail (.goOn rfl)
  obtain ⟨sent, hattempts, hsent⟩ := h _ _ _ _ _ _ hflight rfl
  obtain rfl := List.append_cancel_left hattempts
  let video : TaskRecord := { (default : TaskRecord) with kind := .video }
  obtain ⟨state, hmark, -, hkind⟩ := hsent _ List.mem_cons_self video ⟨rfl, .inl rfl⟩
  obtain ⟨rfl, -⟩ := Mark.took.inj (List.mem_singleton.mp hmark)
  cases hkind _ rfl

end Session

end TaskDesk
