import Mathlib
import TaskDesk.Api.Call
import TaskDesk.Proofs.Task.Status

/-!
# Which requests are alike

The identifier of a task is pasted into a path as it is, next to paths of the same collection that
mean something else. So a request does not always say which operation it is for: a task called `all`
is cancelled by the request that clears all video tasks. The cases in which two operations on tasks
have one request are listed here, and there are no others.

## Main definitions

- `TaskOperation` — a call of the backend or the opening of a progress stream
- `TaskOperation.OnTasks` — the operations on tasks
- `ApiRequest.Alike` — two requests are the same but for the credential
- `TaskOperation.Shadows` — the task of one operation is named like the place of another one

## Main results

- `TaskOperation.alike_iff` — operations with one request are the same or shadow each other
- `TaskOperation.not_told_apart` — cancelling can clear everything
-/

namespace TaskDesk

/-! ## Queries -/

theorem TaskKind.label_injective : Function.Injective TaskKind.label := by
  intro k l h
  have hread := congrArg TaskKind.ofLabel? h
  simpa using hread

theorem SortOrder.label_injective : Function.Injective SortOrder.label := by
  intro a b h
  cases a <;> cases b <;> first | rfl | exact absurd h (by decide)

/-- The query parameters of a list say what is asked for. -/
theorem ListQuery.eq_of_pairs_eq {q r : ListQuery} (hq : ∀ status ∈ q.status, status.IsParsed)
    (hr : ∀ status ∈ r.status, status.IsParsed) (h : q.pairs = r.pairs) : q = r := by
  obtain ⟨page, size, sortBy, order, status, kind⟩ := q
  obtain ⟨page', size', sortBy', order', status', kind'⟩ := r
  simp only [pairs, List.cons_append, List.nil_append, List.cons.injEq, Prod.mk.injEq,
    true_and] at h
  obtain ⟨hpage, hsize, rfl, horder, hfilters⟩ := h
  obtain rfl := Nat.repr_injective hpage
  obtain rfl := Nat.repr_injective hsize
  obtain rfl := SortOrder.label_injective horder
  have hlabels : status.map TaskStatus.label = status'.map TaskStatus.label ∧
      kind.map TaskKind.label = kind'.map TaskKind.label := by
    revert hfilters
    cases status <;> cases status' <;> cases kind <;> cases kind' <;> simp
  obtain rfl := TaskStatus.eq_of_map_label_eq hq hr hlabels.1
  obtain rfl := Option.map_injective TaskKind.label_injective hlabels.2
  rfl

/-! ## Requests -/

namespace ApiRequest

/-- The requests are the same but for the credential that they are sent with. -/
structure Alike (r s : ApiRequest) : Prop where
  method_eq : r.method = s.method
  path_eq : r.path = s.path
  query_eq : r.query = s.query
  body_eq : r.body = s.body

theorem Alike.symm {r s : ApiRequest} (h : r.Alike s) : s.Alike r :=
  ⟨h.method_eq.symm, h.path_eq.symm, h.query_eq.symm, h.body_eq.symm⟩

end ApiRequest

/-- What can be asked of the backend: a call, or the progress stream of a video task. -/
inductive TaskOperation where
  | call (call : ApiCall)
  | stream (id : TaskId)

namespace TaskOperation

def request : TaskOperation → ApiRequest
  | call c => c.request
  | stream id => streamRequest id

/-- The operations on tasks. Every status in them was read from a word. -/
inductive OnTasks : TaskOperation → Prop
  | list (query : ListQuery) (h : ∀ status ∈ query.status, status.IsParsed) :
      OnTasks (.call (.listTasks query))
  | detail (id : TaskId) : OnTasks (.call (.taskDetail id))
  | batchDelete (ids : List TaskId) : OnTasks (.call (.batchDelete ids))
  | clear (kind : Option TaskKind) (status : Option TaskStatus)
      (h : ∀ s ∈ status, s.IsParsed) : OnTasks (.call (.clearTasks kind status))
  | generation (kind : TaskKind) (id : TaskId) : OnTasks (.call (.generationTask kind id))
  | listVideos (status : Option TaskStatus) (h : ∀ s ∈ status, s.IsParsed) :
      OnTasks (.call (.listVideoTasks status))
  | cancel (id : TaskId) : OnTasks (.call (.cancelVideoTask id))
  | deleteVideos (ids : List TaskId) : OnTasks (.call (.deleteVideoTasks ids))
  | deleteByStatus (status : TaskStatus) (h : status.IsParsed) :
      OnTasks (.call (.deleteVideoTasksByStatus status))
  | clearVideos : OnTasks (.call .clearVideoTasks)
  | stream (id : TaskId) : OnTasks (.stream id)

/-- The first operation is on a task whose identifier, pasted into the path, makes it the path of
the second one. -/
inductive Shadows : TaskOperation → TaskOperation → Prop
  | all : Shadows (.call (.cancelVideoTask "all")) (.call .clearVideoTasks)
  | status (status : TaskStatus) :
      Shadows (.call (.cancelVideoTask ("status/" ++ status.label)))
        (.call (.deleteVideoTasksByStatus status))
  | stream (id : TaskId) :
      Shadows (.call (.generationTask .video (id ++ "/stream"))) (.stream id)

/-! ### Collections -/

/-- The kind of tasks whose collection an operation is about; the collection of the admin is of no
kind. -/
def collection : TaskOperation → Option TaskKind
  | .call (.generationTask kind _) => some kind
  | .call (.listVideoTasks _) | .call (.cancelVideoTask _) | .call (.deleteVideoTasks _) =>
    some .video
  | .call (.deleteVideoTasksByStatus _) | .call .clearVideoTasks | .stream _ => some .video
  | _ => none

/-- Where a collection is. -/
def collectionPath : Option TaskKind → String
  | none => adminTasksPath
  | some kind => tasksPath kind

/-- The path of an operation within its collection. -/
def inside : TaskOperation → String
  | .call (.taskDetail id) | .call (.generationTask _ id) | .call (.cancelVideoTask id) => "/" ++ id
  | .call (.batchDelete _) => "/batch/delete"
  | .call (.clearTasks _ _) => "/clear"
  | .call (.deleteVideoTasksByStatus status) => "/status/" ++ status.label
  | .call .clearVideoTasks => "/all"
  | .stream id => "/" ++ id ++ "/stream"
  | _ => ""

/-- No collection lies in another one. -/
theorem collectionPath_append_inj {k l : Option TaskKind} {r s : String}
    (h : collectionPath k ++ r = collectionPath l ++ s) : k = l ∧ r = s := by
  have hcollection : k = l := by
    refine Classical.byContradiction fun hne => ?_
    -- Two collections differ in the fifth character already.
    rcases k with _ | _ | _ <;> rcases l with _ | _ | _ <;>
      simp [collectionPath, adminTasksPath, tasksPath, ← String.toList_inj] at hne h
  subst hcollection
  exact ⟨rfl, (String.append_right_inj _).mp h⟩

theorem OnTasks.path_eq {o : TaskOperation} (h : o.OnTasks) :
    o.request.path = collectionPath o.collection ++ o.inside := by
  cases h with
  | list | listVideos | deleteVideos => exact String.append_empty.symm
  | batchDelete | clear | clearVideos => rfl
  | detail | generation | cancel | deleteByStatus => exact String.append_assoc
  | stream id => exact (congrArg (· ++ "/stream") String.append_assoc).trans String.append_assoc

variable {a b : TaskOperation}

/-! ### The operations on one collection -/

theorem OnTasks.of_get_admin (h : b.OnTasks) (hm : .get = b.request.method)
    (hc : none = b.collection) :
    (∃ query, (∀ status ∈ query.status, status.IsParsed) ∧ b = .call (.listTasks query)) ∨
      ∃ id, b = .call (.taskDetail id) := by
  cases h with
  | list query h => exact .inl ⟨query, h, rfl⟩
  | detail id => exact .inr ⟨id, rfl⟩
  | batchDelete | clear => cases hm
  | _ => cases hc

theorem OnTasks.of_post (h : b.OnTasks) (hm : .post = b.request.method) :
    (∃ ids, b = .call (.batchDelete ids)) ∨
      ∃ kind status, (∀ s ∈ status, s.IsParsed) ∧ b = .call (.clearTasks kind status) := by
  cases h with
  | batchDelete ids => exact .inl ⟨ids, rfl⟩
  | clear kind status h => exact .inr ⟨kind, status, h, rfl⟩
  | _ => cases hm

theorem OnTasks.of_get_image (h : b.OnTasks) (hm : .get = b.request.method)
    (hc : some .image = b.collection) : ∃ id, b = .call (.generationTask .image id) := by
  cases h with
  | generation kind id =>
    cases hc
    exact ⟨id, rfl⟩
  | _ => cases hc

theorem OnTasks.of_get_video (h : b.OnTasks) (hm : .get = b.request.method)
    (hc : some .video = b.collection) :
    (∃ id, b = .call (.generationTask .video id)) ∨
      (∃ status, (∀ s ∈ status, s.IsParsed) ∧ b = .call (.listVideoTasks status)) ∨
        ∃ id, b = .stream id := by
  cases h with
  | generation kind id =>
    cases hc
    exact .inl ⟨id, rfl⟩
  | listVideos status h => exact .inr (.inl ⟨status, h, rfl⟩)
  | stream id => exact .inr (.inr ⟨id, rfl⟩)
  | list | detail | batchDelete | clear => cases hc
  | _ => cases hm

theorem OnTasks.of_delete (h : b.OnTasks) (hm : .delete = b.request.method) :
    (∃ id, b = .call (.cancelVideoTask id)) ∨ (∃ ids, b = .call (.deleteVideoTasks ids)) ∨
      (∃ status, status.IsParsed ∧ b = .call (.deleteVideoTasksByStatus status)) ∨
        b = .call .clearVideoTasks := by
  cases h with
  | cancel id => exact .inl ⟨id, rfl⟩
  | deleteVideos ids => exact .inr (.inl ⟨ids, rfl⟩)
  | deleteByStatus status h => exact .inr (.inr (.inl ⟨status, h, rfl⟩))
  | clearVideos => exact .inr (.inr (.inr rfl))
  | _ => cases hm

/-! ### What a request says about its operation -/

theorem idsBody_injective : Function.Injective ApiCall.idsBody := by
  intro ids others h
  have hitems : ids.map Json.str = others.map Json.str := by
    simpa [ApiCall.idsBody, Json.object, Json.insert] using h
  exact (List.map_inj_right fun _ _ => Json.str.inj).mp hitems

/-- The body of a request to clear has a member for each filter that is set. -/
theorem exists_body_clearTasks (kind : Option TaskKind) (status : Option TaskStatus) :
    ∃ members, (ApiCall.clearTasks kind status).request.body = some (.obj members) ∧
      members.lookup "type" = kind.map (fun k => .str k.label) ∧
      members.lookup "status" = status.map (fun s => .str s.label) := by
  cases kind <;> cases status <;> exact ⟨_, rfl, rfl, rfl⟩

theorem filters_eq_of_body_eq {k l : Option TaskKind} {s t : Option TaskStatus}
    (hs : ∀ status ∈ s, status.IsParsed) (ht : ∀ status ∈ t, status.IsParsed)
    (h : (ApiCall.clearTasks k s).request.body = (ApiCall.clearTasks l t).request.body) :
    k = l ∧ s = t := by
  obtain ⟨members, hbody, hkind, hstatus⟩ := exists_body_clearTasks k s
  obtain ⟨others, hother, hkind', hstatus'⟩ := exists_body_clearTasks l t
  obtain rfl : members = others :=
    Json.obj.inj (Option.some.inj (hbody.symm.trans (h.trans hother)))
  have hstr : Function.Injective Json.str := fun _ _ => Json.str.inj
  constructor
  · exact Option.map_injective (hstr.comp TaskKind.label_injective) (hkind.symm.trans hkind')
  · refine TaskStatus.eq_of_map_label_eq hs ht (Option.map_injective hstr ?_)
    rw [Option.map_map, Option.map_map]
    exact hstatus.symm.trans hstatus'

theorem statuses_eq_of_query_eq {s t : Option TaskStatus} (hs : ∀ status ∈ s, status.IsParsed)
    (ht : ∀ status ∈ t, status.IsParsed)
    (h : (ApiCall.listVideoTasks s).request.query = (ApiCall.listVideoTasks t).request.query) :
    s = t := by
  refine TaskStatus.eq_of_map_label_eq hs ht ?_
  revert h
  cases s <;> cases t <;> simp [ApiCall.request]

theorem slash_status (label : String) : "/status/" ++ label = "/" ++ ("status/" ++ label) := by
  rw [← String.append_assoc]
  rfl

/-- Whatever has the request of a cancellation is the same, or the task is named like its place. -/
theorem cancel_eq_or_shadows {id : TaskId} (hb : b.OnTasks) (hm : .delete = b.request.method)
    (h : "/" ++ id = b.inside) :
    .call (.cancelVideoTask id) = b ∨ Shadows (.call (.cancelVideoTask id)) b := by
  obtain ⟨id', rfl⟩ | ⟨ids, rfl⟩ | ⟨status, -, rfl⟩ | rfl := hb.of_delete hm
  · obtain rfl : id = id' := (String.append_right_inj "/").mp h
    exact .inl rfl
  · simp [inside] at h
  · rw [inside, slash_status] at h
    obtain rfl : id = "status/" ++ status.label := (String.append_right_inj "/").mp h
    exact .inr (.status status)
  · obtain rfl : id = "all" := (String.append_right_inj "/").mp h
    exact .inr .all

theorem generation_eq_or_shadows {id : TaskId} (hb : b.OnTasks) (hm : .get = b.request.method)
    (hc : some .video = b.collection) (h : "/" ++ id = b.inside) :
    .call (.generationTask .video id) = b ∨ Shadows (.call (.generationTask .video id)) b := by
  obtain ⟨id', rfl⟩ | ⟨status, -, rfl⟩ | ⟨id', rfl⟩ := hb.of_get_video hm hc
  · obtain rfl : id = id' := (String.append_right_inj "/").mp h
    exact .inl rfl
  · simp [inside] at h
  · rw [inside, String.append_assoc] at h
    obtain rfl : id = id' ++ "/stream" := (String.append_right_inj "/").mp h
    exact .inr (.stream id')

/-- What changes admin tasks has a request of its own. -/
theorem eq_of_post (ha : a.OnTasks) (hb : b.OnTasks) (hm : .post = a.request.method)
    (h : a.request.Alike b.request) (hinside : a.inside = b.inside) : a = b := by
  have hm' := hm.trans h.method_eq
  obtain ⟨ids, rfl⟩ | ⟨kind, status, hs, rfl⟩ := ha.of_post hm
  · obtain ⟨ids', rfl⟩ | ⟨kind, status, -, rfl⟩ := hb.of_post hm'
    · rw [idsBody_injective (Option.some.inj h.body_eq)]
    · simp [inside] at hinside
  · obtain ⟨ids, rfl⟩ | ⟨kind', status', hs', rfl⟩ := hb.of_post hm'
    · simp [inside] at hinside
    · obtain ⟨rfl, rfl⟩ := filters_eq_of_body_eq hs hs' h.body_eq
      rfl

/-- What reads admin tasks has a request of its own. -/
theorem eq_of_get_admin (ha : a.OnTasks) (hb : b.OnTasks) (hm : .get = a.request.method)
    (hc : none = a.collection) (hc' : none = b.collection) (h : a.request.Alike b.request)
    (hinside : a.inside = b.inside) : a = b := by
  have hm' := hm.trans h.method_eq
  obtain ⟨query, hs, rfl⟩ | ⟨id, rfl⟩ := ha.of_get_admin hm hc
  · obtain ⟨query', hs', rfl⟩ | ⟨id, rfl⟩ := hb.of_get_admin hm' hc'
    · rw [ListQuery.eq_of_pairs_eq hs hs' h.query_eq]
    · simp [inside] at hinside
  · obtain ⟨query, -, rfl⟩ | ⟨id', rfl⟩ := hb.of_get_admin hm' hc'
    · simp [inside] at hinside
    · obtain rfl : id = id' := (String.append_right_inj "/").mp hinside
      rfl

/-- Two operations that read video tasks are the same, or one of them is on a task that is named
like the stream of another one. -/
theorem get_video_eq_or_shadows (ha : a.OnTasks) (hb : b.OnTasks) (hm : .get = a.request.method)
    (hc : some .video = a.collection) (hc' : some .video = b.collection)
    (h : a.request.Alike b.request) (hinside : a.inside = b.inside) :
    a = b ∨ a.Shadows b ∨ b.Shadows a := by
  have hm' := hm.trans h.method_eq
  obtain ⟨id, rfl⟩ | ⟨status, hs, rfl⟩ | ⟨id, rfl⟩ := ha.of_get_video hm hc
  · exact (generation_eq_or_shadows hb hm' hc' hinside).imp_right .inl
  · obtain ⟨id, rfl⟩ | ⟨status', hs', rfl⟩ | ⟨id, rfl⟩ := hb.of_get_video hm' hc'
    · simp [inside] at hinside
    · rw [statuses_eq_of_query_eq hs hs' h.query_eq]
      exact .inl rfl
    · simp [inside] at hinside
  · obtain ⟨id', rfl⟩ | ⟨status, -, rfl⟩ | ⟨id', rfl⟩ := hb.of_get_video hm' hc'
    · have hgeneration := generation_eq_or_shadows (.stream id) rfl rfl hinside.symm
      exact .inr (.inr (hgeneration.resolve_left nofun))
    · simp [inside] at hinside
    · obtain rfl : id = id' := by simpa [inside] using hinside
      exact .inl rfl

/-- Two operations that delete video tasks are the same, or one of them is on a task that is named
like all tasks or like those of a status. -/
theorem delete_eq_or_shadows (ha : a.OnTasks) (hb : b.OnTasks) (hm : .delete = a.request.method)
    (h : a.request.Alike b.request) (hinside : a.inside = b.inside) :
    a = b ∨ a.Shadows b ∨ b.Shadows a := by
  have hm' := hm.trans h.method_eq
  -- A cancellation on the other side is the same case with the sides turned round.
  have hcancel {id : TaskId} (hid : b = .call (.cancelVideoTask id)) :
      a = b ∨ a.Shadows b ∨ b.Shadows a := by
    rw [hid] at hinside ⊢
    exact (cancel_eq_or_shadows ha hm hinside.symm).imp Eq.symm .inr
  obtain ⟨id, rfl⟩ | ⟨ids, rfl⟩ | ⟨status, hs, rfl⟩ | rfl := ha.of_delete hm
  · exact (cancel_eq_or_shadows hb hm' hinside).imp_right .inl
  · obtain ⟨id, hid⟩ | ⟨ids', rfl⟩ | ⟨status, -, rfl⟩ | rfl := hb.of_delete hm'
    · exact hcancel hid
    · rw [idsBody_injective (Option.some.inj h.body_eq)]
      exact .inl rfl
    · simp [inside] at hinside
    · simp [inside] at hinside
  · obtain ⟨id, hid⟩ | ⟨ids, rfl⟩ | ⟨status', hs', rfl⟩ | rfl := hb.of_delete hm'
    · exact hcancel hid
    · simp [inside] at hinside
    · rw [TaskStatus.eq_of_label_eq hs hs' ((String.append_right_inj _).mp hinside)]
      exact .inl rfl
    · simp [inside, ← String.toList_inj] at hinside
  · obtain ⟨id, hid⟩ | ⟨ids, rfl⟩ | ⟨status, -, rfl⟩ | rfl := hb.of_delete hm'
    · exact hcancel hid
    · simp [inside] at hinside
    · simp [inside, ← String.toList_inj] at hinside
    · exact .inl rfl

/-- Two operations with one request are the same, or one of them is on a task that is named like
the place of the other one. -/
theorem eq_or_shadows (ha : a.OnTasks) (hb : b.OnTasks) (h : a.request.Alike b.request) :
    a = b ∨ a.Shadows b ∨ b.Shadows a := by
  have hpath := h.path_eq
  rw [ha.path_eq, hb.path_eq] at hpath
  obtain ⟨hc, hinside⟩ := collectionPath_append_inj hpath
  cases hm : a.request.method with
  | post => exact .inl (eq_of_post ha hb hm.symm h hinside)
  | delete => exact delete_eq_or_shadows ha hb hm.symm h hinside
  | get =>
    cases hca : a.collection with
    | none => exact .inl (eq_of_get_admin ha hb hm.symm hca.symm (hca.symm.trans hc) h hinside)
    | some kind =>
      cases kind with
      | video =>
        exact get_video_eq_or_shadows ha hb hm.symm hca.symm (hca.symm.trans hc) h hinside
      | image =>
        obtain ⟨id, rfl⟩ := ha.of_get_image hm.symm hca.symm
        obtain ⟨id', rfl⟩ := hb.of_get_image (hm.symm.trans h.method_eq) hc
        obtain rfl : id = id' := (String.append_right_inj "/").mp hinside
        exact .inl rfl

theorem Shadows.alike (h : a.Shadows b) : a.request.Alike b.request := by
  cases h with
  | all => exact ⟨rfl, rfl, rfl, rfl⟩
  | status status =>
    have hpath : tasksPath .video ++ "/" ++ ("status/" ++ status.label) =
        tasksPath .video ++ "/status/" ++ status.label := by
      rw [String.append_assoc, ← slash_status, ← String.append_assoc]
    exact ⟨rfl, hpath, rfl, rfl⟩
  | stream id => exact ⟨rfl, String.append_assoc.symm, rfl, rfl⟩

theorem Shadows.name_eq {id : TaskId} {status : TaskStatus}
    (h : Shadows (.call (.cancelVideoTask id)) (.call (.deleteVideoTasksByStatus status))) :
    id = "status/" ++ status.label := by
  cases h
  rfl

/-- Operations on tasks have one request exactly if they are the same or one of them is on a task
that is named like the place of the other one. -/
theorem alike_iff (ha : a.OnTasks) (hb : b.OnTasks) :
    a.request.Alike b.request ↔ a = b ∨ a.Shadows b ∨ b.Shadows a := by
  constructor
  · exact eq_or_shadows ha hb
  · rintro (rfl | h | h)
    · exact ⟨rfl, rfl, rfl, rfl⟩
    · exact h.alike
    · exact h.alike.symm

/-- A cancelled task that is called like a status takes all tasks of that status along, others do
not. -/
theorem alike_iff_named_like_status :
    OnTasks (.call (.cancelVideoTask "status/failed")) ∧
      OnTasks (.call (.deleteVideoTasksByStatus .failed)) ∧
      ApiRequest.Alike (request (.call (.cancelVideoTask "status/failed")))
        (request (.call (.deleteVideoTasksByStatus .failed))) ∧
      OnTasks (.call (.cancelVideoTask "failed")) ∧
      ¬ ApiRequest.Alike (request (.call (.cancelVideoTask "failed")))
        (request (.call (.deleteVideoTasksByStatus .failed))) := by
  have hfailed : OnTasks (.call (.deleteVideoTasksByStatus .failed)) :=
    .deleteByStatus .failed ⟨"failed", by decide⟩
  refine ⟨.cancel _, hfailed, ?_, .cancel _, ?_⟩
  · exact (alike_iff (.cancel _) hfailed).mpr (.inr (.inl (.status .failed)))
  · intro h
    obtain h | h | h := (alike_iff (.cancel _) hfailed).mp h
    · cases h
    · exact absurd h.name_eq (by decide)
    · cases h

/-- The request that cancels a task called `all` clears all video tasks. -/
theorem not_told_apart :
    ¬ ∀ a b : TaskOperation, a.OnTasks → b.OnTasks → a.request.Alike b.request → a = b := by
  intro h
  cases h (.call (.cancelVideoTask "all")) (.call .clearVideoTasks) (.cancel _) .clearVideos
    Shadows.all.alike

end TaskOperation

end TaskDesk
