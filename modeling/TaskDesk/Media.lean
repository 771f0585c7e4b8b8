import TaskDesk.Json.Value
import TaskDesk.Task.Kind
import TaskDesk.Text.Base64
import TaskDesk.Text.Scan

/-!
# Media in task results

Backends report results in several shapes. A result is first classified by its shape and then
resolved to a link and a thumbnail. Nothing is an error: what fits no shape has no media.

## Main definitions

* `ResultShape`, `ResultShape.classify`, `ResultShape.resolve`.
* `Media.extract`: both steps.
* `Media.videoLink?`, `Media.poster?`: links inside generated content.
* `Media.inlineBytes?`: the bytes of a data URL.

## Design notes

A link inside content is one of three patterns. `Text.matches` walks the content once from left
to right and passes over what a match took, so matches do not overlap.
-/

namespace TaskDesk

/-- The displayable media of a result. -/
structure Media where
  link : Option String := none
  thumbnail : Option String := none
deriving DecidableEq, Repr, Inhabited

/-- The known shapes of a result. -/
inductive ResultShape where
  /-- A link next to the content, if there is any. -/
  | directLink (link : String) (thumbnail content : Option String)
  /-- The first choice of a chat completion. -/
  | chatCompletion (content : String) (thumbnail : Option String)
  /-- A content string. -/
  | plainContent (content : String) (thumbnail : Option String)
  /-- The first entry of an image list. -/
  | imageData (first : List (String × Json))
  | unknown
deriving Repr, Inhabited

namespace Text

/-- The bodies of all matches, from left to right. `pattern` gives the body of a match at the
front of a text and how many characters the match takes; `skip` characters belong to the last
match. -/
def matchesFrom (pattern : List Char → Option (List Char × Nat)) :
    (skip : Nat) → List Char → List (List Char)
  | _, [] => []
  | skip + 1, _ :: cs => matchesFrom pattern skip cs
  | 0, c :: cs =>
    match pattern (c :: cs) with
    | some (body, taken) => body :: matchesFrom pattern (taken - 1) cs
    | none => matchesFrom pattern 0 cs

/-- The bodies of all matches that do not overlap, from left to right. -/
def matchesOf (pattern : List Char → Option (List Char × Nat)) (cs : List Char) :
    List (List Char) :=
  matchesFrom pattern 0 cs

end Text

namespace Media

def isEmpty (m : Media) : Bool :=
  m.link.isNone

/-- A non-empty body between an opening piece and the next closing character. -/
def delimited (opening : List Char) (closing : Char) (cs : List Char) :
    Option (List Char × Nat) :=
  match opening.isPrefixOf? cs with
  | none => none
  | some rest =>
    let body := rest.takeWhile (· ≠ closing)
    if body.isEmpty ∨ body.length = rest.length then none
    else some (body, opening.length + body.length + 1)

/-- Characters that a bare link may hold. -/
def isLinkChar (c : Char) : Bool :=
  !(isBlankChar c || c == '<' || c == ')' || c == '"')

/-- A link that begins with one of the two web schemes and goes on as long as it can. -/
def bareLink (cs : List Char) : Option (List Char × Nat) :=
  let scheme :=
    match "https://".toList.isPrefixOf? cs with
    | some rest => some ("https://".toList, rest)
    | none => ("http://".toList.isPrefixOf? cs).map fun rest => ("http://".toList, rest)
  match scheme with
  | none => none
  | some (opening, rest) =>
    let body := rest.takeWhile isLinkChar
    if body.isEmpty then none
    else some (opening ++ body, opening.length + body.length)

/-- The value of a `src` attribute. -/
def sourceAttribute : List Char → Option (List Char × Nat) :=
  delimited "src=\"".toList '"'

/-- The value of a `poster` attribute. -/
def posterAttribute : List Char → Option (List Char × Nat) :=
  delimited "poster=\"".toList '"'

/-- The target of a markdown link with the text `video`. -/
def markdownLink : List Char → Option (List Char × Nat) :=
  delimited "[video](".toList ')'

/-- The first `src` value from the first `<video` on. -/
def tagLink? (cs : List Char) : Option (List Char) :=
  match Text.splitAt? "<video".toList cs with
  | none => none
  | some (_, rest) => (Text.matchesOf sourceAttribute ("<video".toList ++ rest)).head?

/-- The video link in generated content: the source of a video tag, else the last markdown
link, else the last bare link. -/
def videoLink? (content : String) : Option String :=
  let cs := content.toList
  let found :=
    match tagLink? cs with
    | some link => some link
    | none =>
      -- Content may show previews before the final link.
      match (Text.matchesOf markdownLink cs).getLast? with
      | some link => some link
      | none => (Text.matchesOf bareLink cs).getLast?
  found.map String.ofList

def poster? (content : String) : Option String :=
  ((Text.matchesOf posterAttribute content.toList).head?).map String.ofList

end Media

/-- The text of a string that is not blank. -/
def Json.visibleText? (v : Option Json) : Option String :=
  match v with
  | some (.str s) => if Text.isBlank s then none else some s
  | _ => none

namespace ResultShape

/-- The content of the first choice, if there are choices at all. -/
def chatContent? (members : List (String × Json)) : Option String :=
  match members.lookup "choices" with
  | some (.arr (choice :: _)) =>
    -- A choice without a message text counts as empty content.
    let content := (choice.member? "message").bind (·.member? "content")
    some ((content.bind Json.str?).getD "")
  | _ => none

/-- The shape of a video result. -/
def classifyVideo (members : List (String × Json)) : ResultShape :=
  let thumbnail := Json.visibleText? (members.lookup "thumbnail_url")
  let chat := chatContent? members
  let content := chat <|> (members.lookup "content").bind Json.str?
  let direct :=
    Json.visibleText? (members.lookup "video_url") <|>
      Json.visibleText? (members.lookup "downloadUrl")
  -- A link of its own wins over links inside content.
  match direct with
  | some link => .directLink link thumbnail content
  | none =>
    match chat, content with
    | some text, _ => if text = "" then .unknown else .chatCompletion text thumbnail
    | none, some text => if text = "" then .unknown else .plainContent text thumbnail
    | none, none => .unknown

def classifyImage (members : List (String × Json)) : ResultShape :=
  match members.lookup "data" with
  | some (.arr (.obj first :: _)) => .imageData first
  | _ => .unknown

def classify (kind : TaskKind) : Json → ResultShape
  | .obj members =>
    match kind with
    | .image => classifyImage members
    | .video => classifyVideo members
  | _ => .unknown

/-- The link of an image entry: its URL, else its data as a data URL if the data can be read. -/
def imageLink? (first : List (String × Json)) : Option String :=
  match Json.visibleText? (first.lookup "url") with
  | some url => some url
  | none =>
    match Json.visibleText? (first.lookup "b64_json") with
    | some data =>
      if (Base64.decode? data).isSome then some ("data:image/png;base64," ++ data) else none
    | none => none

def resolve : ResultShape → Media
  | .directLink link thumbnail content =>
    { link := some link, thumbnail := thumbnail <|> content.bind Media.poster? }
  | .chatCompletion text thumbnail | .plainContent text thumbnail =>
    { link := Media.videoLink? text, thumbnail := thumbnail <|> Media.poster? text }
  | .imageData first => { link := imageLink? first }
  | .unknown => {}

end ResultShape

namespace Media

def extract (kind : TaskKind) (result : Option Json) : Media :=
  match result with
  | some r => (ResultShape.classify kind r).resolve
  | none => {}

/-- The bytes of a data URL of the form `data:<mime>;base64,<payload>`. -/
def inlineBytes? (url : String) : Option (List UInt8) :=
  match "data:".toList.isPrefixOf? url.toList with
  | none => none
  | some rest =>
    match Text.splitAt? ";base64,".toList rest with
    | none => none
    | some (_, payload) => Base64.decode? (String.ofList payload)

end Media

end TaskDesk
