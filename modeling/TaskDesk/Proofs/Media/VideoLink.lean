import TaskDesk.Proofs.Media.Matches

/-!
# The video link in a text

What a backend writes about a finished video may name several links. The source of a video tag comes
first, then the last markdown link with the text `video`, then the last link that stands for itself.
Nothing is made up: whatever is found is part of the text.

## Main definitions

- `Media.MarkdownLink`, `Media.withLinks` — a text with markdown links in it

## Main results

- `Media.matchesOf_withLinks` — all links of such a text are found
- `Media.tagLink?_append` — the first source from the first tag on
- `Media.last_link_wins` — which link is taken
-/

namespace TaskDesk.Media

open Text

/-! ## Texts with markdown links -/

/-- The target of a markdown link with the text `video`, and what is written behind the link. -/
structure MarkdownLink where
  target : List Char
  behind : List Char

/-- A link as it is written, with what is behind it. -/
def MarkdownLink.chars (l : MarkdownLink) : List Char :=
  "[video](".toList ++ (l.target ++ ')' :: l.behind)

/-- A text with links in it. -/
def withLinks (first : List Char) (links : List MarkdownLink) : List Char :=
  first ++ links.flatMap MarkdownLink.chars

/-- The link has a target, which does not end early, and no other link begins behind it. -/
structure MarkdownLink.IsProper (l : MarkdownLink) : Prop where
  ne_nil : l.target ≠ []
  not_mem : ')' ∉ l.target
  not_infix : ¬ "[video](".toList <:+: l.behind

theorem withLinks_cons (first : List Char) (l : MarkdownLink) (links : List MarkdownLink) :
    withLinks first (l :: links) =
      first ++ ("[video](".toList ++ (l.target ++ ')' :: withLinks l.behind links)) := by
  have happend (opening rest : List Char) :
      first ++ ((opening ++ (l.target ++ ')' :: l.behind)) ++ rest) =
        first ++ (opening ++ (l.target ++ ')' :: (l.behind ++ rest))) := by
    simp only [List.append_assoc, List.cons_append]
  exact happend _ (links.flatMap MarkdownLink.chars)

/-- Where no link begins, none is found. -/
theorem matchesOf_markdownLink_of_not_infix {cs : List Char} (h : ¬ "[video](".toList <:+: cs) :
    matchesOf markdownLink cs = [] := by
  unfold markdownLink
  rw [matchesOf_delimited_eq_nil_iff]
  rintro ahead value behind hvalue
  exact h ⟨ahead, value ++ ')' :: behind, by rw [hvalue.eq_append, List.append_assoc]⟩

/-- All links of a text are found, in their order. -/
theorem matchesOf_withLinks {first : List Char} {links : List MarkdownLink}
    (hfirst : ¬ "[video](".toList <:+: first) (hlinks : ∀ l ∈ links, l.IsProper) :
    matchesOf markdownLink (withLinks first links) = links.map MarkdownLink.target := by
  induction links generalizing first with
  | nil =>
    rw [withLinks, List.flatMap_nil, List.append_nil]
    exact matchesOf_markdownLink_of_not_infix hfirst
  | cons l links ih =>
    obtain ⟨hl, hlinks⟩ := List.forall_mem_cons.mp hlinks
    calc
      matchesOf markdownLink (withLinks first (l :: links))
        = matchesOf markdownLink
            ("[video](".toList ++ (l.target ++ ')' :: withLinks l.behind links)) := by
          rw [withLinks_cons]
          exact matchesOf_delimited_append_of_not_infix (by decide) hfirst _
      _ = l.target :: matchesOf markdownLink (withLinks l.behind links) :=
          matchesOf_delimited_append hl.ne_nil hl.not_mem _
      _ = (l :: links).map MarkdownLink.target := by
          rw [ih hl.not_infix hlinks, List.map_cons]

/-! ## The three places of a link -/

theorem tagLink?_eq (cs : List Char) :
    tagLink? cs = (splitAt? "<video".toList cs).bind fun parts =>
      (matchesOf sourceAttribute ("<video".toList ++ parts.2)).head? := by
  unfold tagLink?
  cases splitAt? "<video".toList cs with
  | none => rfl
  | some parts => rfl

/-- A link in one place comes before those in the next one. -/
theorem videoLink?_eq (content : String) :
    videoLink? content =
      ((tagLink? content.toList).or
        ((matchesOf markdownLink content.toList).getLast?.or
          (matchesOf bareLink content.toList).getLast?)).map String.ofList := by
  simp only [videoLink?]
  cases tagLink? content.toList with
  | some link => rfl
  | none =>
    cases (matchesOf markdownLink content.toList).getLast? with
    | some link => rfl
    | none => rfl

theorem tagLink?_of_not_infix {cs : List Char} (h : ¬ "<video".toList <:+: cs) :
    tagLink? cs = none := by
  rw [tagLink?_eq, splitAt?_eq_none_iff.mpr h, Option.bind_none]

/-- The first source from the first tag on. -/
theorem tagLink?_append {before tail : List Char} (htag : "<video".toList <+: tail)
    (h : ¬ "<video".toList <:+: before) :
    tagLink? (before ++ tail) = (matchesOf sourceAttribute tail).head? := by
  obtain ⟨rest, rfl⟩ := htag
  have hsplit : splitAt? "<video".toList (before ++ ("<video".toList ++ rest)) =
      some (before, rest) :=
    splitAt?_append (by decide) h rest
  rw [tagLink?_eq, hsplit, Option.bind_some]

theorem videoLink?_of_tagLink? {content : String} {link : List Char}
    (h : tagLink? content.toList = some link) :
    videoLink? content = some (String.ofList link) := by
  rw [videoLink?_eq, h, Option.some_or, Option.map_some]

/-- Without a tag, the last markdown link is taken. -/
theorem videoLink?_of_markdownLink {content : String} {link : List Char}
    (htag : tagLink? content.toList = none)
    (h : (matchesOf markdownLink content.toList).getLast? = some link) :
    videoLink? content = some (String.ofList link) := by
  rw [videoLink?_eq, htag, h, Option.none_or, Option.some_or, Option.map_some]

/-- Without either, the last bare link is taken. -/
theorem videoLink?_of_bareLink {content : String} (htag : tagLink? content.toList = none)
    (h : matchesOf markdownLink content.toList = []) :
    videoLink? content = ((matchesOf bareLink content.toList).getLast?).map String.ofList := by
  rw [videoLink?_eq, htag, h, List.getLast?_nil, Option.none_or, Option.none_or]

/-- A source of a tag is part of the text and not empty. -/
theorem infix_of_tagLink? {cs link : List Char} (h : tagLink? cs = some link) :
    link ≠ [] ∧ link <:+: cs := by
  rw [tagLink?_eq, Option.bind_eq_some_iff] at h
  obtain ⟨⟨before, rest⟩, hsplit, hlink⟩ := h
  obtain ⟨hne, hinfix⟩ := infix_of_mem_matchesOf_delimited (List.mem_of_head? hlink)
  refine ⟨hne, hinfix.trans ⟨before, [], ?_⟩⟩
  rw [append_of_splitAt? hsplit, List.append_nil, List.append_assoc]

/-- Whatever is found is part of the text and not empty. -/
theorem infix_of_videoLink? {content link : String} (h : videoLink? content = some link) :
    link ≠ "" ∧ link.toList <:+: content.toList := by
  rw [videoLink?_eq] at h
  obtain ⟨found, hfound, rfl⟩ := Option.map_eq_some_iff.mp h
  have hpart : found ≠ [] ∧ found <:+: content.toList := by
    rcases Option.or_eq_some_iff.mp hfound with htag | ⟨-, hfound⟩
    · exact infix_of_tagLink? htag
    · rcases Option.or_eq_some_iff.mp hfound with hmarkdown | ⟨-, hbare⟩
      · exact infix_of_mem_matchesOf_delimited (List.mem_of_getLast? hmarkdown)
      · exact infix_of_mem_matchesOf_bareLink (List.mem_of_getLast? hbare)
  rw [String.toList_ofList]
  exact ⟨by simpa using hpart.1, hpart.2⟩

/-- A video result without a link of its own has the link in its content. -/
theorem link_extract_of_video {members : List (String × Json)} {content : String}
    (hcontent : (ResultShape.chatContent? members <|>
      (members.lookup "content").bind Json.str?) = some content)
    (hlink : Json.visibleText? (members.lookup "video_url") = none)
    (hdownload : Json.visibleText? (members.lookup "downloadUrl") = none) :
    (extract .video (some (.obj members))).link = videoLink? content := by
  have hunless {shape : ResultShape} (text : String) (h : shape.resolve.link = videoLink? text) :
      (if text = "" then ResultShape.unknown else shape).resolve.link = videoLink? text := by
    split
    · next hnil =>
      subst hnil
      rfl
    · exact h
  have hdirect : (Json.visibleText? (members.lookup "video_url") <|>
      Json.visibleText? (members.lookup "downloadUrl")) = none := by
    rw [hlink, hdownload]
    rfl
  simp only [extract, ResultShape.classify, ResultShape.classifyVideo, hdirect, hcontent]
  cases hchat : ResultShape.chatContent? members with
  | some text =>
    rw [hchat] at hcontent
    obtain rfl := Option.some.inj hcontent
    exact hunless text rfl
  | none => exact hunless content rfl

/-- In a text without a video tag the last markdown link with the text `video` is taken, whatever
stands between the links. If there is no such link, the last bare link is taken, where a walk from
left to right takes the longest one at each place; there is none exactly if behind every scheme
stands a character that no link may hold. In a text with a video tag the first source from the first
tag on is taken, whatever links there are. What is taken is always part of the text and not empty,
and it is the link of a video result with this text that has no link of its own. -/
theorem last_link_wins (content : String) :
    (¬ "<video".toList <:+: content.toList →
      (∀ first links (hne : links ≠ []), content.toList = withLinks first links →
        ¬ "[video](".toList <:+: first → (∀ l ∈ links, l.IsProper) →
          videoLink? content = some (String.ofList (links.getLast hne).target)) ∧
      ((∀ ahead target behind,
          ¬ ValueAt "[video](".toList ')' content.toList ahead target behind) →
        (∃ words, Scan IsBareLink content.toList words) ∧
        (∀ words, Scan IsBareLink content.toList words →
          videoLink? content = words.getLast?.map String.ofList) ∧
        (videoLink? content = none ↔
          ∀ ahead scheme c rest, IsScheme scheme →
            content.toList = ahead ++ (scheme ++ c :: rest) → isLinkChar c = false))) ∧
    (∀ before tail, content.toList = before ++ tail → "<video".toList <+: tail →
      ¬ "<video".toList <:+: before →
        ∀ ahead value behind, ValueAt "src=\"".toList '"' tail ahead value behind →
          (∀ ahead' value' behind', ValueAt "src=\"".toList '"' tail ahead' value' behind' →
            ahead.length ≤ ahead'.length) →
          videoLink? content = some (String.ofList value)) ∧
    (∀ link, videoLink? content = some link →
      link ≠ "" ∧ link.toList <:+: content.toList) ∧
    ∀ members, (ResultShape.chatContent? members <|>
        (members.lookup "content").bind Json.str?) = some content →
      Json.visibleText? (members.lookup "video_url") = none →
      Json.visibleText? (members.lookup "downloadUrl") = none →
        (extract .video (some (.obj members))).link = videoLink? content := by
  refine ⟨fun hplain => ?_, ?_, fun link h => infix_of_videoLink? h,
    fun members hcontent hlink hdownload => link_extract_of_video hcontent hlink hdownload⟩
  · have htag := tagLink?_of_not_infix hplain
    refine ⟨fun first links hne hcontent hfirst hlinks => ?_, fun hnone => ?_⟩
    · refine videoLink?_of_markdownLink htag ?_
      rw [hcontent, matchesOf_withLinks hfirst hlinks, List.getLast?_map,
        List.getLast?_eq_some_getLast hne, Option.map_some]
    · have hbare := videoLink?_of_bareLink htag (matchesOf_delimited_eq_nil_iff.mpr hnone)
      refine ⟨⟨_, reads_bareLink.scan_matchesOf _⟩, fun words hscan => ?_, ?_⟩
      · rw [hbare, reads_bareLink.scan_iff.mp hscan]
      · rw [hbare, Option.map_eq_none_iff, List.getLast?_eq_none_iff, matchesOf_bareLink_eq_nil_iff]
  · intro before tail hcontent htag hbefore ahead value behind hvalue hfirst
    refine videoLink?_of_tagLink? ?_
    rw [hcontent, tagLink?_append htag hbefore]
    exact head?_matchesOf_delimited hvalue hfirst

/-- The last of two markdown links, the last of two bare links, of which a sign ends the first one,
and the source of a tag before a link. -/
theorem last_link_wins_in_each_place :
    videoLink? "[video](a) then [video](b)." = some "b" ∧
      videoLink? "at http://a) or https://b" = some "https://b" ∧
      videoLink? "<video src=\"c\"> [video](d)" = some "c" ∧
      (extract .video (some (.obj [("content", .str "[video](a) then [video](b).")]))).link =
        some "b" := by
  have hmarkdown : videoLink? "[video](a) then [video](b)." = some "b" := by
    have hproper : ∀ l ∈ [⟨['a'], " then ".toList⟩, ⟨['b'], ['.']⟩], MarkdownLink.IsProper l := by
      intro l hl
      rcases List.mem_pair.mp hl with rfl | rfl <;> constructor <;> decide
    exact ((last_link_wins _).1 (by decide)).1 [] _ (by decide) (by decide) (by decide) hproper
  refine ⟨hmarkdown, ?_, ?_, ?_⟩
  · obtain ⟨-, hbare⟩ := (last_link_wins "at http://a) or https://b").1 (by decide)
    obtain ⟨⟨words, hscan⟩, hlast, -⟩ := hbare (matchesOf_delimited_eq_nil_iff.mp (by decide))
    rw [hlast words hscan, reads_bareLink.scan_iff.mp hscan]
    decide
  · refine (last_link_wins "<video src=\"c\"> [video](d)").2.1 []
      "<video src=\"c\"> [video](d)".toList rfl (by decide) (by decide)
      "<video ".toList ['c'] "> [video](d)".toList ⟨by decide, by decide, by decide⟩ ?_
    rintro ahead value behind ⟨heq, -, -⟩
    by_contra hshort
    have hat : "src=\"".toList <+: ("<video src=\"c\"> [video](d)".toList).drop ahead.length := by
      rw [heq, List.drop_left]
      exact List.prefix_append _ _
    have hnot : ∀ n < 7, ¬ "src=\"".toList <+: ("<video src=\"c\"> [video](d)".toList).drop n := by
      decide
    exact hnot _ (Nat.lt_of_not_le hshort) hat
  · rw [← hmarkdown]
    exact (last_link_wins _).2.2.2 _ rfl rfl rfl

end TaskDesk.Media
