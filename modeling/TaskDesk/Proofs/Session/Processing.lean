import Mathlib.Order.WellFounded
import TaskDesk.Proofs.Session.Clearing
import TaskDesk.Proofs.Session.Exchange
import TaskDesk.Proofs.Session.Telling

/-!
# The processing of a message ends

A session deals with a message until no effect and no message is left. Every call that it makes on
the way is tried a few times and then reports something, whatever the backend does; and what is
reported leads to further calls only as an exchange does. Between two steps everything about the
session may change but its list: the world, the poller and the other activities. So the processing
ends on every such way.

## Main definitions

- `Session.proceeds?` — where the processing is after a step
- `Session.Proceeds` — one step, in any session with that list
- `Session.Processes` — some steps, with the calls made and the messages taken
- `Phase` — what is left to do in the round of one message

## Main results

- `Phase.step` — a step stays in the round, with less to do, or ends it by the report of its call
- `Session.processing_ends` — no processing goes on for ever, nor gets stuck, and how many calls it
  makes
-/

namespace TaskDesk

/-! ## What is left of a call -/

theorem RetryPolicy.pos_of_judge {p : RetryPolicy} {left delay : Nat}
    {outcome : Except ApiError ApiResponse} (h : p.judge left outcome = .again delay) :
    0 < left := by
  cases outcome with
  | error e =>
    simp only [judge] at h
    split at h
    · next hagain => exact hagain.2
    · cases h
  | ok r =>
    simp only [judge] at h
    split at h
    · split at h <;> cases h
    · split at h
      · next hagain => exact hagain.2
      · cases h

/-- The steps that a flight can still take. -/
def FlightStep.rank {π : Type} : FlightStep π → Nat
  | send f => 4 * f.left + 4
  | receive f _ => 4 * f.left + 2

/-- A wait is one more step. -/
def FlightNext.rank {π : Type} : FlightNext π → Nat
  | .go delay step => step.rank + min 1 delay
  | .landed _ _ => 0

section Flight

variable {π κ : Type} [Vault κ]

theorem FlightStep.rank_run_lt (w : World κ) (step : FlightStep π) :
    (step.run w).1.rank < step.rank := by
  cases step with
  | send f =>
    simp only [FlightStep.run, FlightNext.rank, rank]
    omega
  | receive f outcome =>
    simp only [FlightStep.run, rank]
    split
    · exact Nat.succ_pos _
    · exact Nat.succ_pos _
    · exact Nat.succ_pos _
    · next hagain =>
      have hleft := RetryPolicy.pos_of_judge hagain
      simp only [FlightNext.rank, rank]
      omega

theorem World.rank_launch_le (w : World κ) (p : RetryPolicy) (c : ApiCall) (purpose : π) :
    (w.launch p c purpose).rank ≤ 4 * p.retries + 4 := by
  unfold World.launch
  split
  · exact Nat.zero_le _
  · exact le_rfl

end Flight

/-! ## Where a processing is -/

/-- Nothing is left to deal with. -/
def Activity.isOver : Activity → Bool
  | .work { effects := [], queue := [], .. } => true
  | _ => false

/-- The call that the next step of an activity makes. -/
def Activity.made : Activity → List Effect
  | .work { effects := e :: _, .. } => if e.isCall then [e] else []
  | _ => []

/-- The message that the next step of an activity lets the state machine take. -/
def Activity.taken : Activity → List Message
  | .work { effects := [], queue := m :: _, .. } => [m]
  | _ => []

/-- A point in the processing of a message: the state of the list, and where the processing goes
on. -/
structure Point where
  state : ListState
  activity : Activity

/-- Where the processing of a message begins. -/
def Point.start (s : ListState) (m : Message) (origin : Origin) : Point :=
  ⟨s, .work { queue := [m], origin }⟩

namespace Session

variable {κ : Type}

/-- The session has that list and is free to take a step of the processing. -/
structure At (s : Session κ) (config : ViewConfig) (policy : RetryPolicy) (p : Point) : Prop where
  config_eq : s.config = config
  policy_eq : s.policy = policy
  running_eq : s.running = none
  state_eq : s.state = p.state

variable [Vault κ]

/-- Where the processing is after a step: its activity goes on at once, or waits on the agenda. -/
def proceeds? (s : Session κ) (a : Activity) : Option Point :=
  let t := s.step a
  let waiting := (t.agenda.drop s.agenda.length).head?.map (·.job)
  (t.running.or waiting).map (⟨t.state, ·⟩)

variable (κ) in
/-- The processing goes on by a step, in any session with that list. -/
def Proceeds (config : ViewConfig) (policy : RetryPolicy) (p q : Point) : Prop :=
  p.activity.isOver = false ∧ ∃ s : Session κ, s.At config policy p ∧ s.proceeds? p.activity = some q

variable (κ) in
/-- Some steps of the processing, with the calls made and the messages taken. -/
inductive Processes (config : ViewConfig) (policy : RetryPolicy) :
    Point → List Effect → List Message → Point → Prop
  | refl (p : Point) : Processes config policy p [] [] p
  | head {p q r : Point} {calls : List Effect} {taken : List Message}
      (h : Proceeds κ config policy p q) (hrest : Processes config policy q calls taken r) :
      Processes config policy p (p.activity.made ++ calls) (p.activity.taken ++ taken) r

end Session

/-! ## The round of one message -/

/-- Where the processing is in the round of a message that came in a state, with the calls made and
the messages taken in that round. -/
inductive Phase (s : ListState) (m : Message) : List Effect → List Message → Point → Prop
  /-- The message is to be taken. -/
  | asks {origin : Origin} : Phase s m [] [] (.start s m origin)
  /-- Effects of it are to be carried out. -/
  | acts {effects : List Effect} {origin : Origin} (h : effects <:+ (s.update m).2) :
      Phase s m [] [m] ⟨s.after m, .work { effects, origin }⟩
  /-- Its call is under way. -/
  | waits {e : Effect} {next : FlightNext Purpose} {origin : Origin} (he : e ∈ (s.update m).2)
      (hcall : e.isCall = true) (hnext : next.purpose = .effect e { origin }) :
      Phase s m [e] [m] ⟨s.after m, .call next⟩

/-- How much is left to do in a round. -/
def Point.rank (policy : RetryPolicy) (p : Point) : Nat :=
  match p.activity with
  | .work w =>
    let next := w.queue.head?.elim 0 fun m => (p.state.update m).2.length + 1
    w.effects.length + next + (4 * policy.retries + 5)
  | .call next => next.rank
  | .wait _ | .tick _ => 0

/-- What a step makes of the round of a message. -/
inductive Phase.Next (source : ListSource) (policy : RetryPolicy) (s : ListState) (m : Message)
    (made : List Effect) (taken : List Message) (p q : Point) : Prop
  /-- The round goes on, with less to do. -/
  | within (h : Phase s m (made ++ p.activity.made) (taken ++ p.activity.taken) q)
      (hrank : q.rank policy < p.rank policy)
  /-- The call has reported, and the next round begins. -/
  | around {e : Effect} (he : e ∈ (s.update m).2) (hcall : e.isCall = true)
      (outcome : Except ApiError ApiResponse) (origin : Origin)
      (hmade : made = [e] ∧ p.activity.made = []) (htaken : taken = [m] ∧ p.activity.taken = [])
      (hq : q = .start (s.after m) (e.reply source outcome) origin)

namespace Phase

open Session

variable {κ : Type} [Vault κ] {config : ViewConfig} {policy : RetryPolicy} {s : ListState}
  {m : Message} {made : List Effect} {taken : List Message} {p : Point}

theorem proceeds?_of_running {t : Session κ} {a b : Activity} (h : (t.step a).running = some b) :
    t.proceeds? a = some ⟨(t.step a).state, b⟩ := by
  simp [proceeds?, h]

theorem step_asks {t : Session κ} {origin : Origin} (ht : t.At config policy (.start s m origin)) :
    ∃ q, t.proceeds? (.work { queue := [m], origin }) = some q ∧
      Next config.source policy s m [] [] (.start s m origin) q := by
  have hstate : t.state = s := ht.state_eq
  refine ⟨⟨s.after m, .work { effects := (s.update m).2, origin }⟩, ?_, .within ?_ ?_⟩
  · rw [← hstate]
    rfl
  · exact .acts (List.suffix_refl _)
  · simp [Point.rank, Point.start]

/-- An effect is carried out. If it is a call, the round waits for it, and nothing is left behind
it. -/
theorem step_acts {t : Session κ} {e : Effect} {rest : List Effect} {origin : Origin}
    (h : e :: rest <:+ (s.update m).2)
    (ht : t.At config policy ⟨s.after m, .work { effects := e :: rest, origin }⟩) :
    ∃ q, t.proceeds? (.work { effects := e :: rest, origin }) = some q ∧
      Next config.source policy s m [] [m] ⟨s.after m, .work { effects := e :: rest, origin }⟩
        q := by
  have hstate : (t.step (.work { effects := e :: rest, origin })).state = s.after m :=
    (state_perform _ _ _).trans ht.state_eq
  cases hcall : e.call? t.config.source with
  | some call =>
    have he := Effect.isCall_of_call?_eq_some hcall
    have hcalls : (Activity.work { effects := e :: rest, origin }).CallsLast := by
      intro f hf
      obtain ⟨before, hbefore⟩ := h
      refine ListState.isCall_of_mem_dropLast_update (s := s) (m := m) ?_
      rw [← hbefore, List.dropLast_append_cons]
      exact List.mem_append_right _ hf
    have hlast := @Activity.CallsLast.of_cons e { effects := rest, origin } hcalls
    obtain rfl : rest = [] := hlast.1 he
    have hrunning : (t.step (.work { effects := [e], origin })).running =
        some (.call (t.world.launch t.policy call (.effect e { origin }))) := by
      simp [step, proceed, perform, hcall, continueCall]
    refine ⟨_, proceeds?_of_running hrunning, .within ?_ ?_⟩
    · rw [hstate]
      simp only [Activity.made, Activity.taken, if_pos he]
      exact .waits (h.subset List.mem_cons_self) he (World.purpose_launch _ _ _ _)
    · have hrank := t.world.rank_launch_le t.policy call (Purpose.effect e { origin })
      rw [ht.policy_eq] at hrank
      simp only [Point.rank, ht.policy_eq]
      omega
  | none =>
    have he := Effect.isCall_of_call?_eq_none hcall
    have hrunning : (t.step (.work { effects := e :: rest, origin })).running =
        some (.work { effects := rest, origin }) := by
      simp [step, proceed, perform, hcall]
    refine ⟨_, proceeds?_of_running hrunning, .within ?_ ?_⟩
    · rw [hstate]
      simp only [Activity.made, Activity.taken, he]
      exact .acts ((List.suffix_cons e rest).trans h)
    · simp [Point.rank]

/-- A flight goes on, or it has landed. -/
theorem step_waits {t : Session κ} {e : Effect} {next : FlightNext Purpose} {origin : Origin}
    (he : e ∈ (s.update m).2) (hcall : e.isCall = true) (hnext : next.purpose = .effect e { origin })
    (ht : t.At config policy ⟨s.after m, .call next⟩) :
    ∃ q, t.proceeds? (.call next) = some q ∧
      Next config.source policy s m [e] [m] ⟨s.after m, .call next⟩ q := by
  have hstate : (t.step (.call next)).state = s.after m :=
    (state_proceedCall _ _).trans ht.state_eq
  cases next with
  | landed purpose outcome =>
    obtain rfl : purpose = .effect e { origin } := hnext
    refine ⟨_, proceeds?_of_running rfl, .around he hcall outcome origin ⟨rfl, rfl⟩ ⟨rfl, rfl⟩ ?_⟩
    rw [hstate, ← ht.config_eq]
    rfl
  | go delay step =>
    cases delay with
    | zero =>
      refine ⟨_, proceeds?_of_running rfl, .within ?_ ?_⟩
      · rw [hstate]
        exact .waits he hcall ((FlightStep.purpose_run _ _).trans hnext)
      · exact FlightStep.rank_run_lt _ _
    | succ delay =>
      refine ⟨⟨s.after m, .call (.go 0 step)⟩, ?_, .within (.waits he hcall hnext) ?_⟩
      · rw [← hstate]
        simp [proceeds?, Session.step, proceedCall, goOn]
      · simp [Point.rank, FlightNext.rank]

/-- A step stays in the round, with less to do, or ends it by the report of its call. -/
theorem step {t : Session κ} (h : Phase s m made taken p) (hover : p.activity.isOver = false)
    (ht : t.At config policy p) :
    ∃ q, t.proceeds? p.activity = some q ∧ Next config.source policy s m made taken p q := by
  cases h with
  | asks => exact step_asks ht
  | @acts effects origin h =>
    cases effects with
    | nil => cases hover
    | cons e rest => exact step_acts h ht
  | waits he hcall hnext => exact step_waits he hcall hnext ht

theorem next_of_proceeds (h : Phase s m made taken p) {q : Point}
    (hq : Proceeds κ config policy p q) : Next config.source policy s m made taken p q := by
  obtain ⟨hover, t, ht, hproceeds⟩ := hq
  obtain ⟨other, hother, hnext⟩ := h.step hover ht
  obtain rfl : other = q := Option.some.inj (hother.symm.trans hproceeds)
  exact hnext

/-! ## All rounds -/

/-- No processing goes on for ever: a round ends, and so does the exchange. -/
theorem acc (hs : s.Paged) (h : Phase s m made taken p) :
    Acc (fun next this => Proceeds κ config policy this next) p := by
  have hrounds : Acc (fun next this => Round config.source this next) (s, m) := Round.acc hs m
  generalize hx : (s, m) = x at hrounds
  induction hrounds generalizing s m made taken p with
  | intro x _ ih =>
    subst hx
    generalize hrank : p.rank policy = rank
    induction rank using Nat.strongRecOn generalizing made taken p with
    | ind rank ihRank =>
      refine ⟨_, fun q hq => ?_⟩
      cases h.next_of_proceeds hq with
      | within hphase hlt => exact ihRank _ (hrank ▸ hlt) hphase rfl
      | around he hcall outcome origin _ _ hstart =>
        subst hstart
        exact ih _ (.mk he hcall outcome) (hs.after m) .asks rfl

/-- The calls that a processing makes and the messages that it takes are those of an exchange. -/
theorem exchange (h : Phase s m made taken p) {q : Point} {calls : List Effect}
    {others : List Message} (hrun : Processes κ config policy p calls others q) :
    Exchange config.source s m (made ++ calls) (taken ++ others) ∧
      ∃ t n madeThen takenThen, Phase t n madeThen takenThen q := by
  induction hrun generalizing s m made taken with
  | refl p =>
    refine ⟨?_, s, m, made, taken, h⟩
    rw [List.append_nil, List.append_nil]
    cases h with
    | asks => exact .pending
    | acts => exact .took
    | waits he hcall => exact .called he hcall default .pending
  | head hproceeds _ ih =>
    cases h.next_of_proceeds hproceeds with
    | within hphase =>
      rw [← List.append_assoc, ← List.append_assoc]
      exact ih hphase
    | around he hcall outcome origin hmade htaken hstart =>
      subst hstart
      obtain ⟨hexchange, hphase⟩ := ih .asks
      obtain ⟨rfl, hmade⟩ := hmade
      obtain ⟨rfl, htaken⟩ := htaken
      rw [hmade, htaken]
      exact ⟨.called he hcall outcome hexchange, hphase⟩

end Phase

namespace Session

variable {κ : Type} [Vault κ]

/-! ## Sessions -/

/-- Whatever happens to a session, its list is one that messages lead to, and it is paged as its
source is. -/
theorem Turns.reached {config : ViewConfig} {policy : RetryPolicy} {world : World κ}
    {marks : List Mark} {s : Session κ} (h : Turns (opened config policy world) marks s) :
    s.state.Reached ∧ s.state.mode = config.source.mode := by
  induction h with
  | refl => exact ⟨.opened (.ofQuery _ _), rfl⟩
  | tail _ hturn ih =>
    obtain ⟨hreached, hmode⟩ := ih
    rcases hturn.takes with ⟨m, -, hstate⟩ | ⟨hstate, -⟩
    · rw [hstate]
      exact ⟨(hreached.update m).consumeDirty, (ListState.mode_update _ m).trans hmode⟩
    · rw [hstate]
      exact ⟨hreached, hmode⟩

/-- A list with one row a page, opened at its third page. -/
private def thirdOfOne : ViewConfig :=
  { pageSize := 1, startPage := 3 }

/-- A session with that list whose backend says that there are so many tasks, in one digit. -/
private def facing (digit : UInt8) (state : ListState) : Session MemoryVault :=
  { config := thirdOfOne
    world :=
      -- The body is an object whose one member is the total.
      { script :=
          [{ content :=
              .response ⟨200, [123, 34, 116, 111, 116, 97, 108, 34, 58, digit, 125]⟩ }]
        vault := ⟨{ admin := some "key" }⟩ }
    state }

/-- The processing from a point on, with what the backend says at each step. -/
private def processed : List UInt8 → Point → List Effect × List Message × Point
  | [], p => ([], [], p)
  | digit :: digits, p =>
    match p.activity.isOver, (facing digit p.state).proceeds? p.activity with
    | false, some q =>
      let (calls, taken, r) := processed digits q
      (p.activity.made ++ calls, p.activity.taken ++ taken, r)
    | _, _ => ([], [], p)

private theorem processes_processed (digits : List UInt8) (p : Point) :
    Processes MemoryVault thirdOfOne {} p (processed digits p).1 (processed digits p).2.1
      (processed digits p).2.2 := by
  induction digits generalizing p with
  | nil => exact .refl p
  | cons digit digits ih =>
    simp only [processed]
    split
    · next q hover hq =>
      exact .head ⟨hover, facing digit p.state, ⟨rfl, rfl, rfl, rfl⟩, hq⟩ (ih q)
    · exact .refl p

/-- From any list that a session can come to, the processing of a message ends, whatever the
backend reports from call to call and whatever else happens, as long as no other message is taken
meanwhile: it does not go on for ever, and at each point it is over or goes on in every session with
that list. Of the pages that are asked for on the way each one is further ahead than the one before,
so that they are at most as many as the number of the first one says. If all replies report the
same total they are at most two, and of a list paged by the client there is at most one. Besides
them at most one call is made, to delete tasks or to clear them. -/
theorem processing_ends (config : ViewConfig) (policy : RetryPolicy) (world : World κ)
    {marks : List Mark} {s : Session κ} (h : Turns (opened config policy world) marks s)
    (m : Message) (origin : Origin) :
    (¬ ∃ run : ℕ → Point, run 0 = .start s.state m origin ∧
        ∀ n, Proceeds κ config policy (run n) (run (n + 1))) ∧
      ∀ calls taken p, Processes κ config policy (.start s.state m origin) calls taken p →
        let queries := calls.filterMap Effect.query?
        (p.activity.isOver = true ∨
            ∀ t : Session κ, t.At config policy p → (t.proceeds? p.activity).isSome = true) ∧
          queries.Pairwise (fun q r => r.page < q.page) ∧
          (∀ first ∈ queries.head?, queries.length ≤ first.page) ∧
          ((∃ total, Message.AllReport total taken.tail) → queries.length ≤ 2) ∧
          (config.source = .videoTasks → queries.length ≤ 1) ∧
          (calls.filter fun e => e.query?.isNone).length ≤ 1 := by
  obtain ⟨hreached, hmode⟩ := h.reached
  have hstart : Phase s.state m [] [] (.start s.state m origin) := .asks
  constructor
  · intro hforever
    have hacc : Acc (fun next this => Proceeds κ config policy this next) _ :=
      hstart.acc hreached.paged
    exact not_acc_iff_exists_descending_chain.mpr hforever hacc
  · intro calls taken p hrun queries
    obtain ⟨hexchange, t, n, made, others, hphase⟩ := hstart.exchange hrun
    obtain ⟨deletions, asked, hcalls, hone, hnone, hfalling⟩ :=
      hexchange.exists_falling hreached.paged
    rw [List.nil_append] at hcalls
    subst hcalls
    have hqueries : queries = asked := by
      change (deletions ++ asked.map Effect.fetchPage).filterMap Effect.query? = asked
      rw [List.filterMap_append, List.filterMap_eq_nil_iff.mpr hnone, List.filterMap_map]
      exact List.filterMap_some
    have hdeletions : (asked.map Effect.fetchPage).filter (fun e => e.query?.isNone) = [] := by
      simp [Effect.query?]
    rw [hqueries]
    refine ⟨?_, hfalling.falls, hfalling.length_le, hfalling.length_le_two, fun hsource => ?_, ?_⟩
    · cases hover : p.activity.isOver with
      | true => exact .inl rfl
      | false =>
        refine .inr fun u hu => ?_
        obtain ⟨q, hq, -⟩ := hphase.step hover hu
        rw [hq]
        rfl
    · refine hfalling.length_le_one (hmode.trans ?_)
      rw [hsource]
      rfl
    · rw [List.filter_append, hdeletions, List.append_nil]
      exact (List.length_filter_le _ _).trans hone

/-- The end of the list comes nearer from reply to reply: the third page is asked for, the second one,
and the first one, which there is. -/
theorem processing_ends_after_three_pages :
    ∃ (calls : List Effect) (taken : List Message) (p : Point),
      Processes MemoryVault thirdOfOne {}
          (.start thirdOfOne.initialState .refreshRequested (.operator true)) calls taken p ∧
        p.activity.isOver = true ∧
        (calls.filterMap Effect.query?).map ListQuery.page = [3, 2, 1] ∧
        (calls.filterMap Effect.query?).length ≤ 3 := by
  let replies : List UInt8 := List.replicate 5 50 ++ List.replicate 11 49
  let start : Point := .start thirdOfOne.initialState .refreshRequested (.operator true)
  have hrun := processes_processed replies start
  have hopened : Turns (opened thirdOfOne {} (facing 50 {}).world) [] _ := .refl
  obtain ⟨-, hcalls⟩ := processing_ends _ _ _ hopened .refreshRequested (.operator true)
  obtain ⟨-, -, hfirst, -⟩ := hcalls _ _ _ hrun
  have hpages : ((processed replies start).1.filterMap Effect.query?).map ListQuery.page =
      [3, 2, 1] := by
    decide +kernel
  refine ⟨_, _, _, hrun, by decide +kernel, hpages, ?_⟩
  exact hfirst { page := 3, size := 1 } (by decide +kernel)

end Session

end TaskDesk
