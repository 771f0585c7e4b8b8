import TaskDesk.Proofs.Api.Retrying
import TaskDesk.Proofs.Json.Record
import TaskDesk.Proofs.Media.Inline

/-!
# What is submitted

A request to generate something is checked before anything is sent. Its mode, its kind and whether
it has a reference image are independent of each other, so the check has to leave exactly the
combinations that its body is meant for: text for either kind, and an image for a video only. What
passes the check is posted as it is, once a task token is there to post it with.

## Main definitions

- `GenerationRequest.HasMessage` — a body with one message of the operator
- `GenerationRequest.AsksByText`, `GenerationRequest.AsksByImage`,
  `GenerationRequest.AsksForImage` — what the body of a request carries

## Main results

- `GenerationRequest.validate_eq_ok_iff` — the combinations that are accepted
- `GenerationRequest.validate_ne_tooLarge` — an image that was taken is never too large
- `World.call_submit_of_rejected`, `World.call_submit_of_locked`, `World.exists_attempts_submit` —
  whether and how often a request is posted
- `World.posted_as_accepted` — the check, the call and the body together
-/

namespace TaskDesk

namespace ReferenceImage

/-- An image that was taken says the bytes it was taken from, and they are not too many. -/
theorem of_ofBytes {bytes : List UInt8} {mime : String} {image : ReferenceImage}
    (h : ofBytes bytes mime = .ok image) :
    image.dataUrl = Media.dataLink mime (Base64.encode bytes) ∧
      image.size ≤ maxReferenceBytes := by
  rcases Nat.lt_or_ge maxReferenceBytes bytes.length with hsize | hsize
  · rw [ofBytes_of_lt hsize] at h
    nomatch h
  · rw [ofBytes_of_le hsize] at h
    obtain rfl := Except.ok.inj h
    exact ⟨rfl, hsize⟩

end ReferenceImage

namespace GenerationRequest

variable {r : GenerationRequest}

/-! ## The check -/

/-- Accepted are a prompt that is not blank and, for videos, an image that is not too large. -/
theorem validate_eq_ok_iff :
    r.validate = .ok () ↔
      r.mode = .text ∧ ¬ Text.isBlank r.prompt ∨
        r.mode = .image ∧ r.kind = .video ∧
          ∃ image, r.reference = some image ∧ image.size ≤ maxReferenceBytes := by
  unfold validate
  cases hmode : r.mode with
  | text => by_cases hblank : Text.isBlank r.prompt <;> simp [hblank]
  | image =>
    cases hkind : r.kind with
    | image => simp
    | video =>
      cases himage : r.reference with
      | none => simp
      | some image => simp

/-- An image whose size was looked at when it was taken is never too large. -/
theorem validate_ne_tooLarge (h : ∀ image, r.reference = some image →
      ∃ bytes mime, ReferenceImage.ofBytes bytes mime = .ok image) (limit actual : Nat) :
    r.validate ≠ .error (.referenceImageTooLarge limit actual) := by
  unfold validate
  cases r.mode with
  | text => by_cases hblank : Text.isBlank r.prompt <;> simp [hblank]
  | image =>
    cases r.kind with
    | image => simp
    | video =>
      cases himage : r.reference with
      | none => simp
      | some image =>
        obtain ⟨bytes, mime, htaken⟩ := h image himage
        simp [Nat.not_lt.mpr (ReferenceImage.of_ofBytes htaken).2]

/-! ## The body -/

/-- The body has one message, which is the operator's and has this content. -/
def HasMessage (body content : Json) : Prop :=
  ∃ message, body.member? "messages" = some (.arr [message]) ∧
    message.member? "role" = some (.str "user") ∧ message.member? "content" = some content

theorem hasMessage_userMessage {body content : Json}
    (h : body.member? "messages" = some (.arr [userMessage content])) :
    HasMessage body content := by
  refine ⟨_, h, ?_, ?_⟩ <;> rw [userMessage, Json.member?_object] <;> rfl

/-- The prompt is all that the message says, and it stands beside the message, too. -/
structure AsksByText (r : GenerationRequest) : Prop where
  message : HasMessage r.payload (.str r.prompt)
  prompt : r.payload.member? "prompt" = some (.str r.prompt)
  prompt_visible : ¬ Text.isBlank r.prompt

/-- The message says the link of an image and then what to do with it; there is no prompt. -/
structure AsksByImage (r : GenerationRequest) (image : ReferenceImage) : Prop where
  kind_eq : r.kind = .video
  reference_eq : r.reference = some image
  message : ∃ link text, HasMessage r.payload (.arr [link, text]) ∧
    link.member? "type" = some (.str "image_url") ∧
    (link.member? "image_url").bind (·.member? "url") = some (.str image.dataUrl) ∧
    text.member? "type" = some (.str "text") ∧
    text.member? "text" = some (.str
      (if Text.isBlank r.instruction then "Generate video from this image" else r.instruction))
  prompt_absent : r.payload.member? "prompt" = none

/-- The prompt, the model and a size. -/
structure AsksForImage (r : GenerationRequest) : Prop where
  prompt : r.payload.member? "prompt" = some (.str r.prompt)
  model : r.payload.member? "model" = some (.str r.model)
  size : ∃ size, r.payload.member? "size" = some (.str size)

theorem promptText_of_visible (h : ¬ Text.isBlank r.prompt) : r.promptText = r.prompt := by
  refine if_neg fun hempty => h ?_
  rw [hempty]
  rfl

theorem asksByText (hkind : r.kind = .video) (hmode : r.mode = .text)
    (hprompt : ¬ Text.isBlank r.prompt) : r.AsksByText := by
  have hbody : r.payload = Json.object
      [("model", .str r.model), ("video_config", r.videoSettings),
        ("messages", .arr [userMessage (.str r.prompt)]), ("prompt", .str r.prompt)] := by
    simp only [payload, hkind, videoPayload, hmode, promptText_of_visible hprompt]
  refine ⟨hasMessage_userMessage ?_, ?_, hprompt⟩ <;> rw [hbody, Json.member?_object] <;> rfl

theorem asksByImage (hkind : r.kind = .video) (hmode : r.mode = .image) {image : ReferenceImage}
    (himage : r.reference = some image) : r.AsksByImage image := by
  let link : Json := Json.object
    [("type", .str "image_url"), ("image_url", Json.object [("url", .str image.dataUrl)])]
  let text : Json := Json.object [("type", .str "text"), ("text", .str r.imageText)]
  have hbody : r.payload = Json.object
      [("model", .str r.model), ("video_config", r.videoSettings),
        ("messages", .arr [userMessage (.arr [link, text])])] := by
    simp only [payload, hkind, videoPayload, hmode, himage, link, text]
  refine ⟨hkind, himage, ⟨link, text, hasMessage_userMessage ?_, ?_, ?_, ?_, ?_⟩, ?_⟩
  · rw [hbody, Json.member?_object]
    rfl
  · rw [Json.member?_object]
    rfl
  · have hurl : link.member? "image_url" = some (Json.object [("url", .str image.dataUrl)]) := by
      rw [Json.member?_object]
      rfl
    rw [hurl, Option.bind_some, Json.member?_object]
    rfl
  · rw [Json.member?_object]
    rfl
  · rw [Json.member?_object]
    rfl
  · rw [hbody, Json.member?_object]
    rfl

theorem asksForImage (hkind : r.kind = .image) : r.AsksForImage := by
  have hbody : r.payload = r.imagePayload := by simp only [payload, hkind]
  refine ⟨?_, ?_, sizeForRatio r.ratio, ?_⟩ <;>
    rw [hbody, imagePayload, Json.member?_object] <;> rfl

end GenerationRequest

/-! ## The call -/

namespace World

variable {κ : Type} [Vault κ] {w : World κ} {p : RetryPolicy} {r : GenerationRequest}

/-- What is rejected is not sent. -/
theorem call_submit_of_rejected {fault : RequestFault} (h : r.validate = .error fault) :
    w.call p (.submit r) = (.error ⟨.validation, fault.message⟩, w) := by
  simp only [call, ApiCall.fault?, h]

theorem call_submit_of_accepted (h : r.validate = .ok ()) :
    w.call p (.submit r) =
      ((w.request (p.forCall (.submit r)) (ApiCall.submit r).request).1.bind
          (ApiCall.submit r).answer,
        (w.request (p.forCall (.submit r)) (ApiCall.submit r).request).2) := by
  simp only [call, ApiCall.fault?, h]

/-- Without a task token nothing is sent, either. -/
theorem call_submit_of_locked (h : r.validate = .ok ()) (hget : Vault.get w.vault .token = none) :
    w.call p (.submit r) = (.error (.missingCredential .token), w) := by
  have hheader : w.header? (ApiCall.submit r).request.auth =
      .error (.missingCredential .token) :=
    header?_eq_error rfl hget
  rw [call_submit_of_accepted h]
  simp only [World.request, hheader]
  rfl

/-- With a task token an accepted request is posted as it is, once or again and again. -/
theorem exists_attempts_submit (h : r.validate = .ok ()) {secret : String}
    (hget : Vault.get w.vault .token = some secret) :
    ∃ times : List Nat, times ≠ [] ∧
      (w.call p (.submit r)).2.attempts = w.attempts ++ times.map fun time =>
        { time, stream := false, header := some (.bearer secret)
          request :=
            { method := .post, path := r.endpoint, body := some r.payload
              auth := .bearer .token } } := by
  have hheader : w.header? (ApiCall.submit r).request.auth = .ok (some (.bearer secret)) := by
    change w.header? (.bearer .token) = _
    simp only [header?, hget]
  obtain ⟨n, hn⟩ := w.exists_last_attempt (p.forCall (.submit r))
  refine ⟨(List.range (n + 1)).map (w.sendTime (p.forCall (.submit r))), by simp, ?_⟩
  rw [call_submit_of_accepted h, request_eq hheader hn, RetryPolicy.leave_attempts, List.map_map]
  rfl

/-- A request that the check rejects fails with what is wrong about it, and nothing is sent. One
that the check accepts is posted with its body to the endpoint of its kind, if there is a task token
to post it with; without one nothing is sent. The body of an accepted request for a video from text
says the prompt, which is not blank, in its only message and beside it. In image mode the request is
for a video and has an image; the body has no prompt, and its only message says first the link of
the image, from which its bytes can be read unless its kind has a separator in it, and then the
instruction, or another text if that is blank. For an image the body has prompt, model and size. An
image that was taken is never found to be too large. -/
theorem posted_as_accepted (w : World κ) (p : RetryPolicy) (r : GenerationRequest) :
    (∀ fault, r.validate = .error fault →
      w.call p (.submit r) = (.error ⟨.validation, fault.message⟩, w)) ∧
    (r.validate = .ok () →
      (Vault.get w.vault .token = none →
        w.call p (.submit r) = (.error ⟨.validation, "no task token configured"⟩, w)) ∧
      (∀ secret, Vault.get w.vault .token = some secret → ∃ times : List Nat, times ≠ [] ∧
        (w.call p (.submit r)).2.attempts = w.attempts ++ times.map fun time =>
          { time, stream := false, header := some (.bearer secret)
            request :=
              { method := .post, path := r.endpoint, body := some r.payload
                auth := .bearer .token } }) ∧
      (r.mode = .text → r.kind = .video → r.AsksByText) ∧
      (r.mode = .image → ∃ image, r.AsksByImage image ∧
        ∀ bytes mime, ReferenceImage.ofBytes bytes mime = .ok image →
          ¬ ";base64,".toList <:+: mime.toList →
            Media.inlineBytes? image.dataUrl = some bytes) ∧
      (r.kind = .image → r.AsksForImage)) ∧
    ((∀ image, r.reference = some image →
        ∃ bytes mime, ReferenceImage.ofBytes bytes mime = .ok image) →
      ∀ limit actual, r.validate ≠ .error (.referenceImageTooLarge limit actual)) := by
  refine ⟨fun fault => call_submit_of_rejected, fun haccepted => ?_,
    GenerationRequest.validate_ne_tooLarge⟩
  refine ⟨call_submit_of_locked haccepted, fun secret => exists_attempts_submit haccepted, ?_, ?_,
    GenerationRequest.asksForImage⟩
  · intro hmode hkind
    rcases GenerationRequest.validate_eq_ok_iff.mp haccepted with ⟨-, hprompt⟩ | ⟨himage, -⟩
    · exact GenerationRequest.asksByText hkind hmode hprompt
    · rw [hmode] at himage
      nomatch himage
  · intro hmode
    rcases GenerationRequest.validate_eq_ok_iff.mp haccepted with ⟨htext, -⟩ | ⟨-, hkind, h⟩
    · rw [hmode] at htext
      nomatch htext
    · obtain ⟨image, himage, -⟩ := h
      refine ⟨image, GenerationRequest.asksByImage hkind hmode himage, ?_⟩
      intro bytes mime htaken hmime
      rw [(ReferenceImage.of_ofBytes htaken).1, Media.inlineBytes?_dataLink hmime,
        Base64.decode?_encode]

/-- A GIF of five bytes is posted after a hiccup, with the default instruction for a blank one, and
its bytes come back from the message. The same request for an image is rejected. -/
theorem posted_as_accepted_with_gif :
    let hello : List UInt8 := [104, 101, 108, 108, 111]
    let image : ReferenceImage := { bytes := hello, mime := "image/gif" }
    let r := (GenerationRequest.ofPrompt .video "").withReference image " "
    let w : World MemoryVault :=
      { vault := ⟨{ token := some "t" }⟩, script := [⟨.response ⟨503, []⟩, 0⟩] }
    r.AsksByImage image ∧ Media.inlineBytes? image.dataUrl = some hello ∧
      (∃ first rest, (w.call {} (.submit r)).2.attempts = first :: rest ∧
        first.request.path = "/v1/video/generations/async") ∧
      (w.call {} (.submit { r with kind := .image })).2.attempts = [] := by
  intro hello image r w
  have haccepted : r.validate = .ok () := by rfl
  obtain ⟨-, hsent, -⟩ := posted_as_accepted w {} r
  obtain ⟨-, hposted, -, himage, -⟩ := hsent haccepted
  obtain ⟨image', hasks, hbytes⟩ := himage rfl
  obtain rfl : image = image' := Option.some.inj hasks.reference_eq
  obtain ⟨times, htimes, hattempts⟩ := hposted "t" rfl
  have hrejected := (posted_as_accepted w {} { r with kind := .image }).1 .unsupportedImageInput rfl
  refine ⟨hasks, hbytes hello "image/gif" rfl (by decide), ?_, ?_⟩
  · cases times with
    | nil => exact absurd rfl htimes
    | cons time times => exact ⟨_, _, hattempts, rfl⟩
  · rw [hrejected]

/-- A request that is accepted is not sent without a task token, and the bytes of its image cannot
be read from its link if the kind of the image has a separator in it. -/
theorem accepted_but_lost :
    let hello : List UInt8 := [104, 101, 108, 108, 111]
    let image : ReferenceImage := { bytes := hello, mime := "x;base64,y" }
    let r := (GenerationRequest.ofPrompt .video "cat").withReference image ""
    let w : World MemoryVault :=
      { vault := ⟨{ admin := some "k" }⟩, script := [⟨.response ⟨200, []⟩, 0⟩] }
    r.validate = .ok () ∧ (w.call {} (.submit r)).2.attempts = [] ∧
      ReferenceImage.ofBytes hello "x;base64,y" = .ok image ∧ r.reference = some image ∧
      Media.inlineBytes? image.dataUrl = none := by
  refine ⟨rfl, rfl, rfl, rfl, ?_⟩
  decide

end World

end TaskDesk
