import TaskDesk.Text.Blank

/-!
# Kinds of tasks

A task generates an image or a video.

## Main definitions

* `TaskKind`, `TaskKind.label`.
* `TaskKind.ofLabel?`: the exact label; `TaskKind.parse?`: any spelling of it.
-/

namespace TaskDesk

/-- What a task generates. -/
inductive TaskKind where
  | image
  | video
deriving DecidableEq, Repr, Inhabited

namespace TaskKind

def label : TaskKind → String
  | image => "image"
  | video => "video"

/-- The kind that a word stands for, exactly. -/
def ofLabel? (word : String) : Option TaskKind :=
  if word = "image" then some .image
  else if word = "video" then some .video
  else none

/-- The kind that a text stands for, blank space around it and ASCII case aside. -/
def parse? (text : String) : Option TaskKind :=
  ofLabel? (Text.lowerAscii (Text.trim text))

@[simp] theorem ofLabel?_label (k : TaskKind) : ofLabel? k.label = some k := by
  cases k <;> rfl

end TaskKind

end TaskDesk
