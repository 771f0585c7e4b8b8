import Mathlib.Algebra.Group.Nat.Defs
import TaskDesk.Desk.Run
import TaskDesk.Proofs.Text.Base64
import TaskDesk.Proofs.Text.Piece

/-!
# Media that are part of their link

A link that begins with `data:` carries its bytes itself, written in Base64 behind a separator that
comes right after the kind of the data. A link that was made from bytes says those bytes, since a
separator cannot overlap with itself: the first one that is found is the one that was put there,
whatever kind stands in front of it. A link that was made from the text of an image entry says the
bytes that the text is written for.

## Main definitions

- `Media.dataLink` — the link of some data of a kind

## Main results

- `Media.inlineBytes?_dataLink` — what such a link says
- `Media.inline_round_trip` — bytes and Base64 text come back from their links
-/

namespace TaskDesk

namespace Media

/-- The link of data of a kind, which are written in Base64 already. -/
def dataLink (mime data : String) : String :=
  "data:" ++ mime ++ ";base64," ++ data

theorem toList_dataLink (mime data : String) :
    (dataLink mime data).toList =
      "data:".toList ++ (mime.toList ++ (";base64,".toList ++ data.toList)) := by
  simp only [dataLink, String.toList_append, List.append_assoc]

/-- A link of data says what the data are written for, unless the kind has a separator in it. -/
theorem inlineBytes?_dataLink {mime : String} (h : ¬ ";base64,".toList <:+: mime.toList)
    (data : String) : inlineBytes? (dataLink mime data) = Base64.decode? data := by
  have hsplit : Text.splitAt? ";base64,".toList
      (mime.toList ++ (";base64,".toList ++ data.toList)) = some (mime.toList, data.toList) :=
    Text.splitAt?_append (by decide) h data.toList
  rw [inlineBytes?, toList_dataLink, Text.isPrefixOf?_append]
  simp only [hsplit, String.ofList_toList]

end Media

namespace ReferenceImage

theorem ofBytes_of_le {bytes : List UInt8} (h : bytes.length ≤ maxReferenceBytes) (mime : String) :
    ofBytes bytes mime = .ok { bytes, mime, size := bytes.length } := by
  rw [ofBytes]
  exact if_neg (Nat.not_lt.mpr h)

theorem ofBytes_of_lt {bytes : List UInt8} (h : maxReferenceBytes < bytes.length) (mime : String) :
    ofBytes bytes mime = .error (.referenceImageTooLarge maxReferenceBytes bytes.length) := by
  rw [ofBytes]
  exact if_pos h

end ReferenceImage

namespace ResultShape

/-- The link of an entry without a URL is that of its data, if they can be read. -/
theorem imageLink?_eq {first : List (String × Json)} {data : String}
    (hurl : Json.visibleText? (first.lookup "url") = none)
    (hdata : Json.visibleText? (first.lookup "b64_json") = some data) :
    imageLink? first =
      (Base64.decode? data).map fun _ => Media.dataLink "image/png" data := by
  have hopening : "data:" ++ "image/png" ++ ";base64," = "data:image/png;base64," := by decide
  simp only [imageLink?, hurl, hdata, Media.dataLink, hopening]
  cases Base64.decode? data <;> rfl

end ResultShape

namespace Media

theorem link_extract_of_image {members first : List (String × Json)} {others : List Json}
    (h : members.lookup "data" = some (.arr (.obj first :: others))) :
    (extract .image (some (.obj members))).link = ResultShape.imageLink? first := by
  simp only [extract, ResultShape.classify, ResultShape.classifyImage, h, ResultShape.resolve]

/-- A reference image takes up to 10 MiB, and unless its kind has a separator in it, its data URL
says its bytes. An image entry without a URL has a link exactly if its Base64 text can be read; the
link then says the bytes that the text is written for, and those are what is saved. -/
theorem inline_round_trip :
    (∀ (bytes : List UInt8) (mime : String), bytes.length ≤ 10 * 2 ^ 20 →
      ¬ ";base64,".toList <:+: mime.toList →
        ∃ image, ReferenceImage.ofBytes bytes mime = .ok image ∧
          inlineBytes? image.dataUrl = some bytes) ∧
    (∀ (bytes : List UInt8) (mime : String), 10 * 2 ^ 20 < bytes.length →
      ReferenceImage.ofBytes bytes mime =
        .error (.referenceImageTooLarge (10 * 2 ^ 20) bytes.length)) ∧
    ∀ (members first : List (String × Json)) (others : List Json) (data : String),
      members.lookup "data" = some (.arr (.obj first :: others)) →
      Json.visibleText? (first.lookup "url") = none →
      Json.visibleText? (first.lookup "b64_json") = some data →
      let media := extract .image (some (.obj members))
      (media.link.isSome ↔ (Base64.decode? data).isSome) ∧
        ∀ link, media.link = some link → ∃ bytes,
          inlineBytes? link = some bytes ∧ Base64.encode bytes = data ∧
          ∀ target, DeskAction.saveInline link target = (do
            DeskAction.onDisk (Disk.replaceFile Disk.noFault target bytes)
            DeskAction.sayLine ("Saved " ++ toString bytes.length ++ " bytes to " ++ target)) := by
  have hmax : maxReferenceBytes = 10 * 2 ^ 20 := rfl
  rw [← hmax]
  refine ⟨fun bytes mime hsize hmime => ?_, fun bytes mime hsize => ?_, ?_⟩
  · refine ⟨_, ReferenceImage.ofBytes_of_le hsize mime, ?_⟩
    exact (inlineBytes?_dataLink hmime _).trans (Base64.decode?_encode bytes)
  · exact ReferenceImage.ofBytes_of_lt hsize mime
  · intro members first others data hentry hurl hdata media
    have hlink : media.link = (Base64.decode? data).map fun _ => dataLink "image/png" data :=
      (link_extract_of_image hentry).trans (ResultShape.imageLink?_eq hurl hdata)
    rw [hlink, Option.isSome_map]
    refine ⟨Iff.rfl, fun link heq => ?_⟩
    obtain ⟨bytes, hbytes, rfl⟩ := Option.map_eq_some_iff.mp heq
    have hinline : inlineBytes? (dataLink "image/png" data) = some bytes :=
      (inlineBytes?_dataLink (by decide) data).trans hbytes
    refine ⟨bytes, hinline, (Base64.decode?_eq_some_iff.mp hbytes).symm, fun target => ?_⟩
    rw [DeskAction.saveInline, hinline]

/-- The five bytes of `hello` come back from their data URL, also when the kind looks like a
separator at its end, and so does their Base64 text from an image entry. One byte more than 10 MiB
is too much. -/
theorem inline_round_trip_hello :
    let hello : List UInt8 := [104, 101, 108, 108, 111]
    (∃ image, ReferenceImage.ofBytes hello "image/png;base64" = .ok image ∧
        inlineBytes? image.dataUrl = some hello) ∧
      (∃ fault, ReferenceImage.ofBytes (List.replicate (10 * 2 ^ 20 + 1) 0) "image/png" =
        .error fault) ∧
      ∃ link bytes,
        (extract .image (some (.obj
          [("data", .arr [.obj [("b64_json", .str "aGVsbG8="), ("url", .str " ")]])]))).link =
            some link ∧
        inlineBytes? link = some bytes ∧ Base64.encode bytes = "aGVsbG8=" := by
  intro hello
  obtain ⟨hsmall, hlarge, hentry⟩ := inline_round_trip
  refine ⟨hsmall hello _ (by decide) (by decide), ⟨_, hlarge _ _ ?_⟩, ?_⟩
  · rw [List.length_replicate]
    exact Nat.lt_succ_self _
  · obtain ⟨hsome, hsaved⟩ := hentry
      [("data", .arr [.obj [("b64_json", .str "aGVsbG8="), ("url", .str " ")]])]
      [("b64_json", .str "aGVsbG8="), ("url", .str " ")] [] "aGVsbG8=" (by rfl) (by rfl) (by rfl)
    obtain ⟨link, hlink⟩ := Option.isSome_iff_exists.mp (hsome.mpr (by decide))
    obtain ⟨bytes, hbytes, htext, -⟩ := hsaved link hlink
    exact ⟨link, bytes, hlink, hbytes, htext⟩

end Media

end TaskDesk
