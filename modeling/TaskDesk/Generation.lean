import TaskDesk.Json.Value
import TaskDesk.Task.Kind
import TaskDesk.Text.Base64

/-!
# Generation requests

What an operator asks the backend to generate, the checks that a request has to pass before it
may be sent, and the body it is sent with.

## Main definitions

* `ReferenceImage`, `ReferenceImage.ofBytes`, `ReferenceImage.dataUrl`.
* `GenerationRequest`, `GenerationRequest.validate`, `GenerationRequest.payload`.
* `RequestFault`: why a request must not be sent, with `RequestFault.message`.
-/

namespace TaskDesk

/-- The largest reference image, in bytes. -/
def maxReferenceBytes : Nat := 10 * 1024 * 1024

/-- Why a request must not be sent. -/
inductive RequestFault where
  | emptyPrompt
  | missingReferenceImage
  | referenceImageTooLarge (limit actual : Nat)
  | unsupportedImageInput
deriving DecidableEq, Repr

namespace RequestFault

def message : RequestFault → String
  | emptyPrompt => "prompt is empty"
  | missingReferenceImage => "a reference image is required in image mode"
  | referenceImageTooLarge limit actual =>
    "reference image is " ++ toString actual ++ " bytes, limit is " ++ toString limit ++ " bytes"
  | unsupportedImageInput => "image input is not supported for image tasks"

end RequestFault

/-- Whether a generation starts from text alone or from a reference image. -/
inductive InputMode where
  | text
  | image
deriving DecidableEq, Repr, Inhabited

/-- An image that is sent along with a request. -/
structure ReferenceImage where
  bytes : List UInt8
  mime : String
  size : Nat := bytes.length

namespace ReferenceImage

/-- Takes bytes up to the largest size. -/
def ofBytes (bytes : List UInt8) (mime : String) : Except RequestFault ReferenceImage :=
  let size := bytes.length
  if size > maxReferenceBytes then .error (.referenceImageTooLarge maxReferenceBytes size)
  else .ok { bytes, mime, size }

def dataUrl (image : ReferenceImage) : String :=
  "data:" ++ image.mime ++ ";base64," ++ Base64.encode image.bytes

end ReferenceImage

/-- The image type that a file name stands for; PNG unless the name says otherwise. -/
def imageTypeOfPath (path : String) : String :=
  let cs := (Text.lowerAscii path).toList
  if ".jpg".toList.isSuffixOf cs || ".jpeg".toList.isSuffixOf cs then "image/jpeg"
  else if ".webp".toList.isSuffixOf cs then "image/webp"
  else if ".gif".toList.isSuffixOf cs then "image/gif"
  else "image/png"

/-- The image size for an aspect ratio; the square one for a ratio that is not listed. -/
def sizeForRatio (ratio : String) : String :=
  if ratio = "16:9" then "1280x720"
  else if ratio = "9:16" then "720x1280"
  else if ratio = "1:1" then "1024x1024"
  else if ratio = "3:2" ∨ ratio = "4:3" then "1792x1024"
  else if ratio = "2:3" ∨ ratio = "3:4" then "1024x1792"
  else "1024x1024"

/-- A request to generate something. -/
structure GenerationRequest where
  kind : TaskKind
  mode : InputMode := .text
  model : String
  prompt : String
  /-- The text that goes with a reference image. -/
  instruction : String := ""
  reference : Option ReferenceImage := none
  ratio : String := "3:2"
  resolution : String := "720p"
  seconds : Nat := 6
  preset : String := "normal"

namespace GenerationRequest

/-- The model for a kind unless another is named. -/
def defaultModel : TaskKind → String
  | .video => "grok-imagine-1.0-video"
  | .image => "grok-imagine-1.0"

/-- A request from text with everything else by default. -/
def ofPrompt (kind : TaskKind) (prompt : String) : GenerationRequest :=
  { kind, prompt, model := defaultModel kind }

/-- The same request, driven by a reference image. -/
def withReference (r : GenerationRequest) (image : ReferenceImage) (instruction : String) :
    GenerationRequest :=
  { r with mode := .image, reference := some image, instruction }

/-- The fault of a request, if it has one. -/
def validate (r : GenerationRequest) : Except RequestFault Unit :=
  match r.mode with
  | .text => if Text.isBlank r.prompt then .error .emptyPrompt else .ok ()
  | .image =>
    match r.kind, r.reference with
    | .image, _ => .error .unsupportedImageInput
    | .video, none => .error .missingReferenceImage
    | .video, some image =>
      if image.size > maxReferenceBytes then
        .error (.referenceImageTooLarge maxReferenceBytes image.size)
      else .ok ()

def endpoint (r : GenerationRequest) : String :=
  match r.kind with
  | .video => "/v1/video/generations/async"
  | .image => "/v1/images/generations/async"

def userMessage (content : Json) : Json :=
  Json.object [("role", .str "user"), ("content", content)]

def videoSettings (r : GenerationRequest) : Json :=
  Json.object
    [("aspect_ratio", .str r.ratio), ("video_length", .nat r.seconds),
      ("resolution_name", .str r.resolution), ("preset", .str r.preset)]

/-- The instruction beside a reference image, with a default for a blank one. -/
def imageText (r : GenerationRequest) : String :=
  if Text.isBlank r.instruction then "Generate video from this image" else r.instruction

/-- The prompt, with a default for an empty one. -/
def promptText (r : GenerationRequest) : String :=
  if r.prompt = "" then "video generation" else r.prompt

def videoPayload (r : GenerationRequest) : Json :=
  match r.mode, r.reference with
  | .image, some image =>
    Json.object
      [("model", .str r.model), ("video_config", r.videoSettings),
        ("messages", .arr
          [userMessage (.arr
            [Json.object
                [("type", .str "image_url"),
                  ("image_url", Json.object [("url", .str image.dataUrl)])],
              Json.object [("type", .str "text"), ("text", .str r.imageText)]])])]
  | _, _ =>
    Json.object
      [("model", .str r.model), ("video_config", r.videoSettings),
        ("messages", .arr [userMessage (.str r.promptText)]), ("prompt", .str r.prompt)]

def imagePayload (r : GenerationRequest) : Json :=
  Json.object
    [("model", .str r.model), ("prompt", .str r.prompt), ("size", .str (sizeForRatio r.ratio)),
      ("n", .nat 1), ("response_format", .str "url")]

def payload (r : GenerationRequest) : Json :=
  match r.kind with
  | .video => r.videoPayload
  | .image => r.imagePayload

end GenerationRequest

end TaskDesk
