import TaskDesk.Desk.Follow

/-!
# Running commands

## Main definitions

* `DeskAction.run`: what each command does.
* `Desk.run`: runs a command at a desk.
-/

namespace TaskDesk

namespace ListArguments

def viewConfig (a : ListArguments) (s : Settings) : ViewConfig :=
  { source := .adminTasks
    pageSize := a.size.getD s.pageSize
    interval := s.listInterval
    startPage := a.page
    status := statusFilter? a.status
    kind := a.kind }

end ListArguments

namespace VideoListArguments

def viewConfig (a : VideoListArguments) (s : Settings) : ViewConfig :=
  { source := .videoTasks
    pageSize := a.pageSize.getD s.pageSize
    interval := s.videoListInterval
    startPage := a.page
    status := statusFilter? a.status }

end VideoListArguments

namespace VideoArguments

/-- The request that the arguments ask for, without a reference image. -/
def request (a : VideoArguments) : GenerationRequest :=
  { GenerationRequest.ofPrompt .video a.prompt with
    ratio := a.ratio
    resolution := a.resolution
    seconds := a.duration
    preset := a.preset
    model := a.model.getD (GenerationRequest.defaultModel .video) }

end VideoArguments

namespace ImageArguments

def request (a : ImageArguments) : GenerationRequest :=
  { GenerationRequest.ofPrompt .image a.prompt with
    ratio := a.ratio
    model := a.model.getD (GenerationRequest.defaultModel .image) }

end ImageArguments

namespace SecretName

def scope : SecretName → Scope
  | admin => .admin
  | token => .token

end SecretName

namespace DeskAction

/-- Saves media that are part of their link. -/
def saveInline (link target : String) : DeskAction Unit := do
  match Media.inlineBytes? link with
  | none =>
    throw (.refused ("media is hosted at " ++ link ++ "; only inline media can be saved"))
  | some bytes =>
    onDisk (Disk.replaceFile Disk.noFault target bytes)
    sayLine ("Saved " ++ toString bytes.length ++ " bytes to " ++ target)

/-- Prints a task; saves its media if they are wanted. -/
def showTask (id : TaskId) (save : Option String) : DeskAction Unit := do
  let t : TaskRecord ← call (.taskDetail id)
  say (Screen.task t)
  match save with
  | none => return
  | some target =>
    match (Media.extract t.kind t.result).link with
    | none => throw (.refused ("task " ++ id ++ " has no media to save"))
    | some link => saveInline link target

/-- The request of a video with its reference image, which is read from a file. -/
def videoRequest (a : VideoArguments) : DeskAction GenerationRequest := do
  match a.image with
  | none => return a.request
  | some path =>
    match (← disk).read? path with
    | none => throw (.within ("reading " ++ path) .unreadable)
    | some bytes =>
      let image ← ofExcept .request (ReferenceImage.ofBytes bytes (imageTypeOfPath path))
      return a.request.withReference image a.prompt

def submitVideo (a : VideoArguments) : DeskAction Unit := do
  let r ← videoRequest a
  if a.stream then followStream (← submit r) else discard (submitAndWatch r)

/-- Submits an image and watches it; saves it if that is wanted. -/
def submitImage (a : ImageArguments) : DeskAction Unit := do
  let (id, watch) ← submitAndWatch a.request
  match a.save with
  | none => return
  | some target =>
    let t : TaskRecord ← callBeside watch (.generationTask .image id)
    unless t.status.isSuccess do
      throw (.refused ("task " ++ id ++ " ended as " ++ t.status.label))
    match (Media.extract .image t.result).link with
    | none => throw (.refused ("task " ++ id ++ " returned no image"))
    | some link => saveInline link target

def setAdminKey (key : String) : DeskAction Unit := do
  let key := Text.trim key
  if key = "" then throw (.refused "admin key is empty")
  changeVault (·.store .admin key)
  sayLine ("Admin key saved to " ++ (← get).world.vault.file.path)

/-- Saves a task token if the backend accepts it. -/
def verifyToken (token : String) : DeskAction Unit := do
  let token := Text.trim token
  if token = "" then throw (.refused "token is empty")
  within "token was not accepted" (discard (call (.verifyToken token)))
  changeVault (·.store .token token)
  sayLine "Token verified and saved"

def tellSecret (scope : Scope) : DeskAction Unit := do
  let secret := Vault.get (← get).world.vault scope
  sayLine (scope.label ++ " " ++ (secret.map Screen.mask).getD "not set")

def forgetSecret (scope : Scope) : DeskAction Unit := do
  changeVault (·.forget scope)
  sayLine ("Forgot the " ++ scope.label)

def run : Command → DeskAction Unit
  | .listTasks a => do showList (a.viewConfig (← get).settings) false
  | .watchTasks a => do showList (a.viewConfig (← get).settings) true
  | .showTask id save => showTask id save
  | .deleteTasks ids => callAndSay (.batchDelete ids) id (Effect.deletedText ids)
  | .clearTasks kind status =>
    callAndSay (.clearTasks kind (statusFilter? status)) id "Tasks cleared"
  | .listVideos a => do showList (a.viewConfig (← get).settings) false
  | .watchVideos a => do showList (a.viewConfig (← get).settings) true
  | .cancelVideo task => callAndSay (.cancelVideoTask task) id ("Cancelled " ++ task)
  | .deleteVideos ids => callAndSay (.deleteVideoTasks ids) id (Effect.deletedText ids)
  | .clearVideos status =>
    match statusFilter? status with
    | some status => callAndSay (.deleteVideoTasksByStatus status) id "Video tasks cleared"
    | none => callAndSay .clearVideoTasks id "Video tasks cleared"
  | .streamVideo id => followStream id
  | .submitVideo a => submitVideo a
  | .submitImage a => submitImage a
  | .setAdminKey key => setAdminKey key
  | .verifyToken token => verifyToken token
  | .tokenStatus => do
    tellSecret .admin
    tellSecret .token
  | .forgetSecret secret => forgetSecret secret.scope
  | .cacheStats => do say (Screen.cacheStats (← call .cacheStats))
  | .listCache kind page pageSize => do
    say (Screen.cachePage (← call (.cacheList kind page pageSize)))
  | .deleteCached kind name => callAndSay (.deleteCacheItem kind name) id ("Deleted " ++ name)
  | .clearCache kind =>
    callAndSay (.clearCache kind) id ("Cleared the " ++ kind.label ++ " cache")
  | .onlineStats => do say (Screen.onlineStats (← call .onlineStats))
  | .loadOnline => callAndSay .loadOnline id "Online assets loaded"
  | .clearOnline => callAndSay .clearOnline id "Online assets cleared"

end DeskAction

def Desk.run (d : Desk) (c : Command) : Except CommandFailure Unit × Desk :=
  (DeskAction.run c).on d

end TaskDesk
