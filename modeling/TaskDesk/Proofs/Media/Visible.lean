import Mathlib.Data.Option.Basic
import TaskDesk.Proofs.Media.VideoLink
import TaskDesk.Proofs.Text.Blank

/-!
# Links that can be seen

A result offers links in many places. Fields are looked at before they are taken, so a blank one
counts as missing, and a bare link begins with its scheme. What markup in generated content names is
taken as it is, as long as it is not empty. So a link or a thumbnail of nothing but blanks comes
from markup, and from there it is taken like any other.

## Main definitions

- `ResultShape.content?`, `ResultShape.directLink?`, `ResultShape.thumbnail?` — the parts of a
  video result
- `Media.markupLink?` — the link that markup in a text names
- `Media.Offers` — what a result offers as a link, in whatever place

## Main results

- `ResultShape.resolve_classifyVideo` — a video result by its parts
- `Media.exists_offers_of_link` — a link that is taken was offered
- `Media.blank_only_from_markup` — which blank links and thumbnails are taken
-/

namespace TaskDesk

/-! ## Texts that can be seen -/

theorem Json.isBlank_of_visibleText? {v : Option Json} {s : String}
    (h : visibleText? v = some s) : Text.isBlank s = false := by
  unfold visibleText? at h
  split at h
  · split at h
    · nomatch h
    · next hvisible =>
      obtain rfl := Option.some.inj h
      simpa using hvisible
  · nomatch h

theorem Json.eq_str_of_visibleText? {v : Option Json} {s : String}
    (h : visibleText? v = some s) : v = some (.str s) := by
  unfold visibleText? at h
  split at h
  · split at h
    · nomatch h
    · obtain rfl := Option.some.inj h
      rfl
  · nomatch h

/-! ## The parts of a result -/

namespace ResultShape

variable {members : List (String × Json)}

/-- The generated content of a video result. -/
def content? (members : List (String × Json)) : Option String :=
  chatContent? members <|> (members.lookup "content").bind Json.str?

/-- The link that a video result has in a field of its own. -/
def directLink? (members : List (String × Json)) : Option String :=
  Json.visibleText? (members.lookup "video_url") <|>
    Json.visibleText? (members.lookup "downloadUrl")

/-- The thumbnail that a video result has in a field of its own. -/
def thumbnail? (members : List (String × Json)) : Option String :=
  Json.visibleText? (members.lookup "thumbnail_url")

/-- A video result is made of its own link or else of its content, whichever shape that has. -/
theorem resolve_classifyVideo (members : List (String × Json)) :
    (classifyVideo members).resolve =
      match directLink? members with
      | some link =>
        { link := some link
          thumbnail := thumbnail? members <|> (content? members).bind Media.poster? }
      | none =>
        match content? members with
        | some text =>
          if text = "" then {}
          else
            { link := Media.videoLink? text
              thumbnail := thumbnail? members <|> Media.poster? text }
        | none => {} := by
  unfold classifyVideo directLink? content? thumbnail?
  cases Json.visibleText? (members.lookup "video_url") <|>
      Json.visibleText? (members.lookup "downloadUrl") with
  | some link => rfl
  | none =>
    cases chatContent? members with
    | some text =>
      by_cases htext : text = ""
      · rw [htext]
        rfl
      · simp only [Option.orElse_eq_orElse, Option.orElse_some, if_neg htext]
        rfl
    | none =>
      simp only [Option.orElse_eq_orElse, Option.orElse_none]
      cases (members.lookup "content").bind Json.str? with
      | none => rfl
      | some text =>
        by_cases htext : text = ""
        · rw [htext]
          rfl
        · simp only [if_neg htext]
          rfl

theorem isBlank_of_directLink? {link : String} (h : directLink? members = some link) :
    Text.isBlank link = false := by
  rcases (Option.orElse_eq_some _ _ _).mp h with h | ⟨-, h⟩ <;> exact Json.isBlank_of_visibleText? h

/-- The link of an image entry is its URL, or else its data behind the opening of a data URL. -/
theorem imageLink?_cases {first : List (String × Json)} {link : String}
    (h : imageLink? first = some link) :
    Json.visibleText? (first.lookup "url") = some link ∨
      ∃ data, Json.visibleText? (first.lookup "b64_json") = some data ∧
        link = "data:image/png;base64," ++ data := by
  unfold imageLink? at h
  split at h
  · next url hurl =>
    obtain rfl := Option.some.inj h
    exact .inl hurl
  · split at h
    · next data hdata =>
      split at h
      · exact .inr ⟨data, hdata, (Option.some.inj h).symm⟩
      · nomatch h
    · nomatch h

theorem isBlank_of_imageLink? {first : List (String × Json)} {link : String}
    (h : imageLink? first = some link) : Text.isBlank link = false := by
  rcases imageLink?_cases h with hurl | ⟨data, -, rfl⟩
  · exact Json.isBlank_of_visibleText? hurl
  · have hopening : Text.isBlank "data:image/png;base64," = false := by decide
    rw [Text.isBlank_append, hopening, Bool.false_and]

end ResultShape

namespace Media

open ResultShape

variable {members : List (String × Json)} {content link : String}

/-- The link that markup in a text names: the source of a video tag, else the target of the last
markdown link. -/
def markupLink? (content : String) : Option String :=
  ((tagLink? content.toList).or (Text.matchesOf markdownLink content.toList).getLast?).map
    String.ofList

theorem videoLink?_eq_or (content : String) :
    videoLink? content = (markupLink? content).or
      ((Text.matchesOf bareLink content.toList).getLast?.map String.ofList) := by
  rw [videoLink?_eq, markupLink?, ← Option.map_or, Option.or_assoc]

/-- A bare link begins with its scheme. -/
theorem isBlank_of_mem_matchesOf_bareLink {cs word : List Char}
    (h : word ∈ Text.matchesOf bareLink cs) : Text.isBlank (String.ofList word) = false := by
  obtain ⟨tail, taken, -, hfound⟩ := Text.exists_of_mem_matchesOf h
  obtain ⟨hlongest, -⟩ := reads_bareLink.of_some hfound
  obtain ⟨scheme, body, hscheme, rfl, -⟩ := hlongest.mem
  have hmem : 'h' ∈ (String.ofList (scheme ++ body)).toList := by
    rw [String.toList_ofList]
    apply List.mem_append_left
    rcases hscheme with rfl | rfl <;> decide
  exact Text.isBlank_eq_false_of_mem hmem (by decide)

/-- A blank link in a text is one that markup names. -/
theorem videoLink?_eq_some_iff_of_isBlank (hblank : Text.isBlank link = true) :
    videoLink? content = some link ↔ markupLink? content = some link := by
  rw [videoLink?_eq_or, Option.or_eq_some_iff]
  constructor
  · rintro (hmarkup | ⟨-, hbare⟩)
    · exact hmarkup
    · obtain ⟨word, hword, rfl⟩ := Option.map_eq_some_iff.mp hbare
      rw [isBlank_of_mem_matchesOf_bareLink (List.mem_of_getLast? hword)] at hblank
      nomatch hblank
  · exact .inl

/-! ## What is taken -/

theorem link_extract_video (members : List (String × Json)) :
    (extract .video (some (.obj members))).link =
      (directLink? members).or ((content? members).bind videoLink?) := by
  have hextract : extract .video (some (.obj members)) = (classifyVideo members).resolve := rfl
  rw [hextract, resolve_classifyVideo]
  cases directLink? members with
  | some link => rfl
  | none =>
    cases content? members with
    | none => rfl
    | some text =>
      simp only
      split
      · next hnil =>
        subst hnil
        rfl
      · rfl

/-- A blank thumbnail is a poster in the content, with no thumbnail in a field of its own. -/
theorem thumbnail_extract_video_iff_of_isBlank (hblank : Text.isBlank link = true) :
    (extract .video (some (.obj members))).thumbnail = some link ↔
      thumbnail? members = none ∧ (content? members).bind poster? = some link := by
  have hown (h : thumbnail? members = some link) : False := by
    rw [Json.isBlank_of_visibleText? h] at hblank
    nomatch hblank
  have horElse (poster : Option String) :
      (thumbnail? members <|> poster) = some link ↔
        thumbnail? members = none ∧ poster = some link := by
    cases hthumbnail : thumbnail? members with
    | none => simp
    | some own =>
      refine iff_of_false ?_ nofun
      rintro ⟨⟩
      exact hown hthumbnail
  have hextract : extract .video (some (.obj members)) = (classifyVideo members).resolve := rfl
  rw [hextract, resolve_classifyVideo]
  cases directLink? members with
  | some direct => exact horElse _
  | none =>
    cases content? members with
    | none => simp
    | some text =>
      simp only
      split
      · next hnil =>
        subst hnil
        exact iff_of_false nofun nofun
      · exact horElse _

theorem link_extract_image_cases (h : (extract .image (some (.obj members))).link = some link) :
    ∃ first others, members.lookup "data" = some (.arr (.obj first :: others)) ∧
      imageLink? first = some link := by
  simp only [extract, classify, classifyImage] at h
  split at h
  · next first others hentry => exact ⟨first, others, hentry, h⟩
  · cases h

/-- What a result offers as a link, in whatever place. -/
inductive Offers : TaskKind → List (String × Json) → String → Prop
  | field {members : List (String × Json)} {key text : String}
      (hkey : key = "video_url" ∨ key = "downloadUrl")
      (h : members.lookup key = some (.str text)) : Offers .video members text
  | markup {members : List (String × Json)} {content text : String}
      (hcontent : content? members = some content) (h : markupLink? content = some text) :
      Offers .video members text
  | bare {members : List (String × Json)} {content : String} {word : List Char}
      (hcontent : content? members = some content)
      (h : word ∈ Text.matchesOf bareLink content.toList) :
      Offers .video members (String.ofList word)
  /-- An image entry has a URL or the data of an image. -/
  | entry {members first : List (String × Json)} {others : List Json} {key text : String}
      (hentry : members.lookup "data" = some (.arr (.obj first :: others)))
      (hkey : key = "url" ∨ key = "b64_json")
      (h : first.lookup key = some (.str text)) : Offers .image members text

theorem offers_of_directLink? (h : directLink? members = some link) :
    Offers .video members link := by
  rcases (Option.orElse_eq_some _ _ _).mp h with h | ⟨-, h⟩
  · exact .field (.inl rfl) (Json.eq_str_of_visibleText? h)
  · exact .field (.inr rfl) (Json.eq_str_of_visibleText? h)

/-- A link that is taken was offered, and it can be seen if what was offered can. -/
theorem exists_offers_of_link {kind : TaskKind}
    (h : (extract kind (some (.obj members))).link = some link) :
    ∃ text, Offers kind members text ∧ (Text.isBlank text = true → Text.isBlank link = true) := by
  cases kind with
  | image =>
    obtain ⟨first, others, hentry, hlink⟩ := link_extract_image_cases h
    rcases imageLink?_cases hlink with hurl | ⟨data, hdata, -⟩
    · exact ⟨link, .entry hentry (.inl rfl) (Json.eq_str_of_visibleText? hurl), id⟩
    · refine ⟨data, .entry hentry (.inr rfl) (Json.eq_str_of_visibleText? hdata), ?_⟩
      rw [Json.isBlank_of_visibleText? hdata]
      nofun
  | video =>
    rw [link_extract_video, Option.or_eq_some_iff] at h
    rcases h with hdirect | ⟨-, hfound⟩
    · exact ⟨link, offers_of_directLink? hdirect, id⟩
    · obtain ⟨content, hcontent, hlink⟩ := Option.bind_eq_some_iff.mp hfound
      rw [videoLink?_eq_or, Option.or_eq_some_iff] at hlink
      rcases hlink with hmarkup | ⟨-, hbare⟩
      · exact ⟨link, .markup hcontent hmarkup, id⟩
      · obtain ⟨word, hword, rfl⟩ := Option.map_eq_some_iff.mp hbare
        exact ⟨_, .bare hcontent (List.mem_of_getLast? hword), id⟩

/-- Blank links come from markup. -/
theorem link_extract_iff_of_isBlank {kind : TaskKind} {result : Option Json}
    (hblank : Text.isBlank link = true) :
    (extract kind result).link = some link ↔
      kind = .video ∧ ∃ members content, result = some (.obj members) ∧
        directLink? members = none ∧ content? members = some content ∧
        markupLink? content = some link := by
  constructor
  · intro h
    rcases result with _ | result
    · nomatch h
    cases result with
    | obj members =>
      cases kind with
      | image =>
        obtain ⟨first, others, -, hlink⟩ := link_extract_image_cases h
        rw [isBlank_of_imageLink? hlink] at hblank
        nomatch hblank
      | video =>
        rw [link_extract_video, Option.or_eq_some_iff] at h
        rcases h with hdirect | ⟨hdirect, hfound⟩
        · rw [isBlank_of_directLink? hdirect] at hblank
          nomatch hblank
        · obtain ⟨content, hcontent, hlink⟩ := Option.bind_eq_some_iff.mp hfound
          refine ⟨rfl, members, content, rfl, hdirect, hcontent, ?_⟩
          exact (videoLink?_eq_some_iff_of_isBlank hblank).mp hlink
    | _ => nomatch h
  · rintro ⟨rfl, members, content, rfl, hdirect, hcontent, hmarkup⟩
    rw [link_extract_video, hdirect, hcontent]
    exact (videoLink?_eq_some_iff_of_isBlank hblank).mpr hmarkup

/-- Blank thumbnails are posters in the content. -/
theorem thumbnail_extract_iff_of_isBlank {kind : TaskKind} {result : Option Json}
    (hblank : Text.isBlank link = true) :
    (extract kind result).thumbnail = some link ↔
      kind = .video ∧ ∃ members content, result = some (.obj members) ∧
        thumbnail? members = none ∧ content? members = some content ∧
        poster? content = some link := by
  constructor
  · intro h
    rcases result with _ | result
    · cases h
    cases result with
    | obj members =>
      cases kind with
      | image =>
        simp only [extract, classify, classifyImage] at h
        split at h <;> cases h
      | video =>
        obtain ⟨hthumbnail, hposter⟩ := (thumbnail_extract_video_iff_of_isBlank hblank).mp h
        obtain ⟨content, hcontent, hposter⟩ := Option.bind_eq_some_iff.mp hposter
        exact ⟨rfl, members, content, rfl, hthumbnail, hcontent, hposter⟩
    | _ => cases h
  · rintro ⟨rfl, members, content, rfl, hthumbnail, hcontent, hposter⟩
    rw [thumbnail_extract_video_iff_of_isBlank hblank, hcontent]
    exact ⟨hthumbnail, hposter⟩

/-- A blank text is taken as the link of a result exactly if the result is of a video without a link
of its own and markup in its content names that text: the source of a tag or, without one, the last
markdown link. It is taken as the thumbnail exactly if it is a poster in the content of a video
result without a thumbnail of its own. Everywhere else blank links are no links: if all that a
result offers is blank, and markup in its content names nothing, it has no media. -/
theorem blank_only_from_markup (kind : TaskKind) (result : Option Json) :
    (∀ link, Text.isBlank link = true →
      ((extract kind result).link = some link ↔
        kind = .video ∧ ∃ members content, result = some (.obj members) ∧
          directLink? members = none ∧ content? members = some content ∧
          markupLink? content = some link)) ∧
      (∀ link, Text.isBlank link = true →
        ((extract kind result).thumbnail = some link ↔
          kind = .video ∧ ∃ members content, result = some (.obj members) ∧
            thumbnail? members = none ∧ content? members = some content ∧
            poster? content = some link)) ∧
      ∀ members, result = some (.obj members) →
        (∀ text, Offers kind members text → Text.isBlank text = true) →
        (∀ content, content? members = some content → markupLink? content = none) →
          (extract kind result).isEmpty = true := by
  refine ⟨fun link => link_extract_iff_of_isBlank, fun link => thumbnail_extract_iff_of_isBlank, ?_⟩
  rintro members rfl hoffers hmarkup
  rw [isEmpty, Option.isNone_iff_eq_none]
  by_contra hlink
  obtain ⟨link, hlink⟩ := Option.ne_none_iff_exists'.mp hlink
  obtain ⟨text, htext, hblank⟩ := exists_offers_of_link hlink
  obtain ⟨-, members', content, hmembers, -, hcontent, hnamed⟩ :=
    (link_extract_iff_of_isBlank (hblank (hoffers text htext))).mp hlink
  cases hmembers
  rw [hmarkup content hcontent] at hnamed
  nomatch hnamed

/-- A blank markdown link is taken after a field that is blank, and a blank poster with it. Two
blank fields alone are no media. -/
theorem blank_only_from_markup_behind_field :
    let content := "poster=\"\t\" [video]( )"
    let media := extract .video (some (.obj [("video_url", .str " "), ("content", .str content)]))
    media.link = some " " ∧ media.thumbnail = some "\t" ∧
      (extract .video (some (.obj [("video_url", .str " "), ("downloadUrl", .str "")]))).isEmpty =
        true := by
  intro content media
  obtain ⟨hlink, hthumbnail, -⟩ := blank_only_from_markup .video
    (some (.obj [("video_url", .str " "), ("content", .str content)]))
  obtain ⟨-, -, hempty⟩ := blank_only_from_markup .video
    (some (.obj [("video_url", .str " "), ("downloadUrl", .str "")]))
  refine ⟨(hlink " " (by decide)).mpr ?_, (hthumbnail "\t" (by decide)).mpr ?_, ?_⟩
  · exact ⟨rfl, _, content, rfl, by decide, rfl, by decide⟩
  · exact ⟨rfl, _, content, rfl, by decide, rfl, by decide⟩
  · refine hempty _ rfl ?_ ?_
    · rintro text (⟨rfl | rfl, h⟩ | ⟨h, -⟩ | ⟨h, -⟩)
      · cases h
        decide
      · cases h
        decide
      · nomatch h
      · nomatch h
    · intro content h
      nomatch h

/-- A blank source, a blank markdown link and a blank poster are taken for media, although nothing
can be seen of them. -/
theorem blank_markup_is_taken :
    extract .video (some (.obj [("content", .str "<video src=\" \">")])) =
        { link := some " ", thumbnail := none } ∧
      extract .video (some (.obj [("content", .str "[video]( )")])) =
        { link := some " ", thumbnail := none } ∧
      extract .video (some (.obj [("content", .str "poster=\" \"")])) =
        { link := none, thumbnail := some " " } ∧
      Text.isBlank " " = true := by
  decide

end Media

end TaskDesk
