import TaskDesk.Api.Call
import TaskDesk.Screen.List
import TaskDesk.Text.ByteSize

/-!
# Tasks and the cache on the screen

## Main definitions

* `Screen.task`: everything about one task.
* `Screen.cacheStats`, `Screen.onlineStats`, `Screen.cachePage`: the media cache.
* `Screen.mask`: a secret without giving it away.
-/

namespace TaskDesk.Screen

/-- The media of a task that came to a good end. -/
def mediaLines (t : TaskRecord) : List String :=
  if t.status.isSuccess then
    let media := Media.extract t.kind t.result
    (match media.link with
      | some link => "Media    " ++ shortLink link
      | none => "Media    (none found in result)") ::
      media.thumbnail.toList.map fun link => "Thumb    " ++ shortLink link
  else []

def task (t : TaskRecord) : String :=
  ofLines
    (["Task     " ++ t.id, "Type     " ++ t.kind.label,
        "Status   " ++ t.status.label ++ " (" ++ toString t.progress ++ "%)",
        "Created  " ++ Timestamp.text t.createdAt,
        "Prompt   " ++ Summary.ofPayload t.payload] ++
      t.error.toList.map ("Error    " ++ ·) ++ mediaLines t)

def cacheStats (c : CacheStats) : String :=
  ofLines
    ["Images  " ++ toString c.images, "Videos  " ++ toString c.videos,
      "Size    " ++ ByteSize.text c.bytes]

def onlineStats (c : OnlineStats) : String :=
  ofLines
    ["Images  " ++ toString c.images, "Videos  " ++ toString c.videos,
      "Total   " ++ toString c.total]

def cachePage (p : CachePage) : String :=
  ofLines
    ((toString p.total ++ " cached file(s)") ::
      p.items.map fun item => Text.padLeft 10 (ByteSize.text item.size) ++ "  " ++ item.name)

/-- That a secret is set; of one with more than four characters also the last four. -/
def mask (secret : String) : String :=
  let cs := secret.toList
  if cs.length ≤ 4 then "set"
  else "set (..." ++ String.ofList (cs.drop (cs.length - 4)) ++ ")"

end TaskDesk.Screen
