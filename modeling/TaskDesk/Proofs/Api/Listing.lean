import TaskDesk.Proofs.Api.Rejection
import TaskDesk.Proofs.Task.Flat

/-!
# Lists of video tasks

The records of a list of video tasks are read one after the other, or the list is not read at all.
What a record becomes is a matter of the record alone, so what is said of one flat record holds of
every row that a list gets.

## Main results

- `ApiCall.readVideoTasks_eq` — a list is its records, read in order
- `World.videos_show_themselves` — what is answered, and what the rows of the answer show
-/

namespace TaskDesk

theorem ApiResponse.read_of_isSuccess {α : Type} {read : Json.Nested → Option α} {r : ApiResponse}
    {a : α} (hsuccess : r.isSuccess) (hbody : Json.readText? read r.body = some a) :
    r.read read = .ok a := by
  rw [ApiResponse.read, if_pos hsuccess, ApiResponse.body?, hbody]

theorem ApiResponse.status_ne_401 {r : ApiResponse} (h : r.isSuccess) : r.status ≠ 401 := by
  intro h401
  rw [isSuccess, h401] at h
  exact absurd h (by decide)

theorem ApiCall.readVideoTasks_eq {r : ApiResponse} {records : List Json} (hsuccess : r.isSuccess)
    (hbody : Json.readText? readVideoList? r.body = some records) :
    readVideoTasks r = records.mapM (TaskRecord.ofFlat .video) := by
  rw [readVideoTasks, ApiResponse.read_of_isSuccess hsuccess hbody]
  rfl

namespace World

variable {κ : Type} [Vault κ]

/-- A list of video tasks whose last response is a success answers one task for each record, in the
order of the records, if each of them can be read. Else it fails, and with what the first record
fails with that cannot be read; a record that is no object fails as such. A flat record without a
kind becomes a video that keeps a result and a payload of its own, and its row shows its links and
its prompt where it has none. -/
theorem videos_show_themselves (w : World κ) (p : RetryPolicy) (status : Option TaskStatus)
    (r : ApiResponse) (records : List Json)
    (hends : w.EndsOn (w.call p (.listVideoTasks status)).2 r) (hsuccess : r.isSuccess)
    (hbody : Json.readText? readVideoList? r.body = some records) :
    (∀ tasks : List TaskRecord, (w.call p (.listVideoTasks status)).1 = .ok tasks ↔
      List.Forall₂ (fun record t => TaskRecord.ofFlat .video record = .ok t) records tasks) ∧
    (∀ e, (w.call p (.listVideoTasks status)).1 = .error e ↔
      ∃ before record after, records = before ++ record :: after ∧
        (∀ earlier ∈ before, ∃ t, TaskRecord.ofFlat .video earlier = .ok t) ∧
        TaskRecord.ofFlat .video record = .error e) ∧
    (∀ before record after, records = before ++ record :: after →
      (∀ earlier ∈ before, ∃ t, TaskRecord.ofFlat .video earlier = .ok t) →
      (∀ members, record ≠ .obj members) →
        (w.call p (.listVideoTasks status)).1 =
          .error ⟨.decode, "task record is not an object"⟩) ∧
    (∀ members t, members.lookup "type" = none →
      TaskRecord.ofFlat .video (.obj members) = .ok t →
        ∀ selection, TaskRecord.Shows members t (TaskRow.of selection t)) := by
  have hanswer : (w.call p (.listVideoTasks status)).1 =
      records.mapM (TaskRecord.ofFlat .video) := by
    rw [call_of_endsOn hends (ApiResponse.status_ne_401 hsuccess)]
    exact ApiCall.readVideoTasks_eq hsuccess hbody
  simp only [hanswer]
  refine ⟨fun tasks => TaskRecord.mapM_eq_ok_iff, fun e => TaskRecord.mapM_eq_error_iff, ?_, ?_⟩
  · intro before record after hrecords hbefore hrecord
    refine TaskRecord.mapM_eq_error_iff.mpr ⟨before, record, after, hrecords, hbefore, ?_⟩
    exact TaskRecord.ofFlat_eq_notAnObject hrecord
  · exact fun members t hkind hread => TaskRecord.shows_of_ofFlat hkind hread

/-- A list with something in it that is no record cannot be read. A flat record can be shown: the
video has a link and no thumbnail, and its prompt is cut. -/
theorem videos_show_themselves_or_fail :
    let w : World MemoryVault :=
      { vault := ⟨{ token := some "t" }⟩
        script := [⟨.response ⟨200, Utf8.encode "\x7b\"tasks\":[null]\x7d"⟩, 0⟩] }
    let members : List (String × Json) :=
      [("id", .str "a"), ("prompt", .str "a cat that walks along the shore"),
        ("status", .str " Success"), ("thumbnail_url", .str " "), ("video_url", .str "http://v")]
    (w.call {} (.listVideoTasks none)).1 = .error ⟨.decode, "task record is not an object"⟩ ∧
      ∃ t, TaskRecord.ofFlat .video (.obj members) = .ok t ∧
        (TaskRow.of {} t).media = some { link := some "http://v" } ∧
        (TaskRow.of {} t).summary = "a cat that walks along the sho..." := by
  intro w members
  obtain ⟨-, -, hnone, hrow⟩ :=
    videos_show_themselves w {} none _ [.null] ⟨0, rfl, rfl⟩ rfl (by rfl)
  have hflat : (TaskRecord.read? (Json.obj (TaskRecord.unflatten .video members))).isSome := by
    decide +kernel
  obtain ⟨t, hread⟩ := Option.isSome_iff_exists.mp hflat
  have ht := TaskRecord.ofFlat_obj_eq_ok_iff.mpr hread
  have hshows := hrow members t rfl ht {}
  refine ⟨hnone [] .null [] rfl nofun nofun, t, ht, ?_, ?_⟩
  · exact hshows.media_eq " Success" "http://v" (.inl rfl) rfl (by decide) rfl (by decide)
  · exact hshows.summary_eq "a cat that walks along the shore" rfl rfl (by decide)

end World

end TaskDesk
