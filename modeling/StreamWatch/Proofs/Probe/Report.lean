/-
**What a probe's report is read for.**

Of a report without an error only three things are looked at: its first entry of video, its first entry of audio and
the bit rate of the whole. Of the two entries, in turn, only a few members are looked at, and a member that says
nothing takes away just what is told from it.

* `find?_edit`, `find?_edits`: changes to the entries that leave the first ones of each kind where they are found;
* `parse_eq_ok_iff`: when a report tells anything, and that it tells it from the values at nine places;
* `told_update`: what is told when the value at one place says nothing;
* `parse_reads_only`: both together, over any two reports.
-/

import Mathlib.Logic.Function.Basic
import Mathlib.Logic.Relation
import StreamWatch.Probe.Report

namespace StreamWatch.ProbeReport

open Relation (ReflTransGen)

/-! ### Entries -/

/-- The kinds of entries that are looked at. -/
def kinds : List String := ["video", "audio"]

/-- The entries of a report. -/
def entries (report : Json) : List Json := ((report.member? "streams").bind (·.list?)).getD []

/-- Whether an entry is of a kind. -/
def isOfKind (kind : String) (entry : Json) : Bool := text? entry "codec_type" == some kind

variable {kind : String} {report other : Json}

/-- **A change to the entries of a report** that leaves it to the same ones to be the first of their kind: an entry
is put in or taken out, or two neighbours change places. Whatever it does to an entry of one of the kinds, there is
another of that kind further to the front. -/
inductive Edit : List Json → List Json → Prop
  | insert (before after : List Json) {entry : Json}
      (covered : ∀ kind ∈ kinds, isOfKind kind entry = true → ∃ earlier ∈ before, isOfKind kind earlier = true) :
      Edit (before ++ after) (before ++ entry :: after)
  | remove (before after : List Json) {entry : Json}
      (covered : ∀ kind ∈ kinds, isOfKind kind entry = true → ∃ earlier ∈ before, isOfKind kind earlier = true) :
      Edit (before ++ entry :: after) (before ++ after)
  | swap (before after : List Json) {first second : Json}
      (covered : ∀ kind ∈ kinds, isOfKind kind first = true → isOfKind kind second = true →
        ∃ earlier ∈ before, isOfKind kind earlier = true) :
      Edit (before ++ first :: second :: after) (before ++ second :: first :: after)

/-- What comes after an entry of a kind makes no difference to which one is the first. -/
theorem find?_append_of_mem {before : List Json} (earlier : ∃ entry ∈ before, isOfKind kind entry = true)
    (after : List Json) : (before ++ after).find? (isOfKind kind) = before.find? (isOfKind kind) := by
  obtain ⟨first, found⟩ := Option.isSome_iff_exists.mp (List.find?_isSome.mpr earlier)
  rw [List.find?_append, found, Option.some_or]

/-- An entry with another of its kind in front of it is never the first one. -/
theorem find?_append_cons {before : List Json} {entry : Json}
    (covered : isOfKind kind entry = true → ∃ earlier ∈ before, isOfKind kind earlier = true) (after : List Json) :
    (before ++ entry :: after).find? (isOfKind kind) = (before ++ after).find? (isOfKind kind) := by
  cases own : isOfKind kind entry with
  | true => rw [find?_append_of_mem (covered own), find?_append_of_mem (covered own)]
  | false => rw [List.find?_append, List.find?_append, List.find?_cons_of_neg (by rw [own]; exact Bool.false_ne_true)]

/-- An edit leaves the first entries of each kind as they are. -/
theorem find?_edit {entries edited : List Json} (edit : Edit entries edited) (looked : kind ∈ kinds) :
    edited.find? (isOfKind kind) = entries.find? (isOfKind kind) := by
  cases edit with
  | insert before after covered => exact find?_append_cons (covered kind looked) after
  | remove before after covered => exact (find?_append_cons (covered kind looked) after).symm
  | @swap before after first second covered =>
    by_cases both : isOfKind kind first = true ∧ isOfKind kind second = true
    · have earlier := covered kind looked both.1 both.2
      rw [find?_append_of_mem earlier, find?_append_of_mem earlier]
    · rw [List.find?_append, List.find?_append, List.find?_cons, List.find?_cons, List.find?_cons, List.find?_cons]
      cases front : isOfKind kind first with
      | false => rfl
      | true => rw [Bool.eq_false_iff.mpr fun back => both ⟨front, back⟩]

/-- Any number of edits leaves the first entries of each kind as they are. -/
theorem find?_edits {entries edited : List Json} (edits : ReflTransGen Edit entries edited) (looked : kind ∈ kinds) :
    edited.find? (isOfKind kind) = entries.find? (isOfKind kind) := by
  induction edits with
  | refl => rfl
  | tail _ edit ih => exact (find?_edit edit looked).trans ih

/-- Whether a report has an entry of a kind. -/
def hasEntry (report : Json) (kind : String) : Bool := Option.isSome <| entry? report kind

/-! ### What is looked at -/

/-- The bit rate of the whole. -/
def total? (report : Json) : Option Json := (report.member? "format").bind (·.member? "bit_rate")

/-- Whether two reports are the same wherever a report is looked at. -/
structure Alike (report other : Json) : Prop where
  error : other.member? "error" = report.member? "error"
  total : total? other = total? report
  entry : ∀ kind ∈ kinds, entry? other kind = entry? report kind

/-- Whether a report was made from another by edits of its entries, and by anything done to members that are not
looked at. -/
structure Retouched (report other : Json) : Prop where
  error : other.member? "error" = report.member? "error"
  total : total? other = total? report
  entries : ReflTransGen Edit (entries report) (entries other)

theorem Retouched.alike (retouched : Retouched report other) : Alike report other where
  error := retouched.error
  total := retouched.total
  entry _ looked := find?_edits retouched.entries looked

/-- Reports that are the same wherever one is looked at tell the same. -/
theorem Alike.parse (alike : Alike report other) : parse other = parse report := by
  have video := alike.entry "video" (by decide)
  have audio := alike.entry "audio" (by decide)
  have total : (other.member? "format").bind (·.member? "bit_rate") =
      (report.member? "format").bind (·.member? "bit_rate") := alike.total
  simp only [ProbeReport.parse, alike.error, video, audio, total]

/-! ### The places facts are told from -/

/-- The places of a report that facts about its stream are told from. -/
inductive Place where
  | total
  | width
  | height
  | averageRate
  | baseRate
  | videoBitrate
  | videoCodec
  | channels
  | audioCodec
deriving DecidableEq, Repr

/-- The kind of the entry a place is in, if it is in one, and the name of the member there. -/
def Place.path : Place → Option String × String
  | total => (none, "bit_rate")
  | width => (some "video", "width")
  | height => (some "video", "height")
  | averageRate => (some "video", "avg_frame_rate")
  | baseRate => (some "video", "r_frame_rate")
  | videoBitrate => (some "video", "bit_rate")
  | videoCodec => (some "video", "codec_name")
  | channels => (some "audio", "channels")
  | audioCodec => (some "audio", "codec_name")

/-- The value at a place. -/
def valueAt? (report : Json) (place : Place) : Option Json :=
  match place.path with
  | (none, _) => total? report
  | (some kind, name) => Option.bind ( entry? report kind) (·.member? name)

/-- The frames per second a value tells. -/
def rate? (value : Option Json) : Option Binary64 := (value.bind (·.text?)).bind FrameRate.parse?

/-- Whether a value at a place says nothing there: it is missing, of another type than is read there, or no number
of the form that is read there. -/
def Place.IsSilent (value : Option Json) : Place → Prop
  | total | videoBitrate => kilobits? value = none
  | width | height | channels => value.bind (·.word?) = none
  | averageRate | baseRate => rate? value = none
  | videoCodec | audioCodec => value.bind (·.text?) = none

/-- **The facts told by the values at the places.** -/
def told (value? : Place → Option Json) : Metrics where
  resolution := do
    let width ← (value? .width).bind (·.word?)
    let height ← (value? .height).bind (·.word?)
    if width = 0 ∨ height = 0 then none else some (Resolution.format width height)
  bitrate := kilobits? (value? .total) <|> kilobits? (value? .videoBitrate)
  videoBitrate := kilobits? (value? .videoBitrate)
  frameRate := rate? (value? .averageRate) <|> rate? (value? .baseRate)
  audioChannels := ((value? .channels).bind (·.word?)).map (·.toUInt32)
  videoCodec := (value? .videoCodec).bind (·.text?)
  audioCodec := (value? .audioCodec).bind (·.text?)

/-- **The facts that are left when the value at a place says nothing.** Those told from that place are absent, but
for the bit rate, which falls back to the other one, and the frame rate, which falls back to the other rate. -/
def without (value? : Place → Option Json) (facts : Metrics) : Place → Metrics
  | .total => { facts with bitrate := facts.videoBitrate }
  | .width | .height => { facts with resolution := none }
  | .averageRate => { facts with frameRate := rate? (value? .baseRate) }
  | .baseRate => { facts with frameRate := rate? (value? .averageRate) }
  | .videoBitrate => { facts with videoBitrate := none, bitrate := kilobits? (value? .total) }
  | .videoCodec => { facts with videoCodec := none }
  | .channels => { facts with audioChannels := none }
  | .audioCodec => { facts with audioCodec := none }

theorem metrics_eq_told (report : Json) :
    metrics ( entry? report "video") ( entry? report "audio") (total? report) = told (valueAt? report) := by
  have rates (video : Json) : frameRate? video =
      (rate? (video.member? "avg_frame_rate") <|> rate? (video.member? "r_frame_rate")) := by
    have one (name : String) : (text? video name).bind FrameRate.parse? = rate? (video.member? name) := rfl
    rw [frameRate?, List.findSome?_cons, List.findSome?_cons, List.findSome?_nil, one, one]
    cases rate? (video.member? "avg_frame_rate") <;> cases rate? (video.member? "r_frame_rate") <;> rfl
  simp only [metrics, told, valueAt?, Place.path]
  cases entry? report "video" <;> cases entry? report "audio" <;>
    simp only [Option.bind_none, Option.bind_some, rates] <;> rfl

/-- **When a report tells anything, and what**: it is no report of an error, it has an entry of one of the kinds,
and the facts are told by the values at the places. -/
theorem parse_eq_ok_iff {facts : Metrics} : parse report = .ok facts ↔
    report.member? "error" = none ∧ (∃ kind ∈ kinds, hasEntry report kind = true) ∧
      facts = told (valueAt? report) := by
  have found : (∃ kind ∈ kinds, hasEntry report kind = true) ↔
      (!hasEntry report "video" && !hasEntry report "audio") = false := by
    simp only [kinds, List.mem_cons, List.not_mem_nil, or_false, exists_eq_or_imp, exists_eq_left]
    cases hasEntry report "video" <;> cases hasEntry report "audio" <;> simp
  have rest : parse report = (report.member? "error").elim
      (if !hasEntry report "video" && !hasEntry report "audio" then
        .error (.malformed "no audio or video streams found") else .ok (told (valueAt? report)))
      fun error => .error (toError error) := by
    rw [← metrics_eq_told, parse, hasEntry, hasEntry, Option.not_isSome, Option.not_isSome]
    cases report.member? "error" <;> rfl
  rw [rest, found]
  cases report.member? "error" with
  | some error => simp
  | none =>
    cases !hasEntry report "video" && !hasEntry report "audio" with
    | true => simp
    | false => simp [eq_comm]

/-! ### Values that say nothing -/

/-- A value that says nothing takes away what is told from its place, and nothing else. -/
theorem told_update {value : Option Json} {place : Place} (silent : place.IsSilent value)
    (value? : Place → Option Json) : told (Function.update value? place value) = without value? (told value?) place := by
  cases place <;> simp only [Place.IsSilent] at silent <;>
    simp [told, without, silent, Function.update]

/-- Whether two reports that tell of no error have entries of the same kinds, and the same values at all places but
one. -/
structure AlikeBut (place : Place) (report other : Json) : Prop where
  error : other.member? "error" = none
  found : ∀ kind ∈ kinds, hasEntry other kind = hasEntry report kind
  value : ∀ elsewhere ≠ place, valueAt? other elsewhere = valueAt? report elsewhere

theorem AlikeBut.valueAt?_eq {place : Place} (alike : AlikeBut place report other) :
    valueAt? other = Function.update (valueAt? report) place (valueAt? other place) :=
  Function.eq_update_iff.mpr ⟨rfl, alike.value⟩

/-- **A report is read for its first entries of each kind and the bit rate of the whole**, and for nothing else; it
tells anything just when it is no report of an error and has one of these entries; and a value in it that says nothing
leaves out what is told from it. -/
theorem parse_reads_only (report other : Json) :
    (Alike report other → parse other = parse report) ∧
    (Retouched report other → parse other = parse report) ∧
    ((∃ facts, parse report = .ok facts) ↔
      report.member? "error" = none ∧ ∃ kind ∈ kinds, hasEntry report kind = true) ∧
    ∀ facts place, parse report = .ok facts → AlikeBut place report other → place.IsSilent (valueAt? other place) →
      parse other = .ok (without (valueAt? report) facts place) := by
  refine ⟨Alike.parse, fun retouched => retouched.alike.parse, ?_, ?_⟩
  · simp only [parse_eq_ok_iff]
    exact ⟨fun ⟨_, sound, found, _⟩ => ⟨sound, found⟩, fun ⟨sound, found⟩ => ⟨_, sound, found, rfl⟩⟩
  · intro facts place parsed alike silent
    obtain ⟨-, ⟨kind, looked, found⟩, rfl⟩ := parse_eq_ok_iff.mp parsed
    refine parse_eq_ok_iff.mpr ⟨alike.error, ⟨kind, looked, (alike.found kind looked).trans found⟩, ?_⟩
    rw [alike.valueAt?_eq, told_update silent]

/-- A report with these entries. -/
def reportOf (entries : List Json) : Json :=
  .object [("format", .object [("bit_rate", .str "6000000")]), ("streams", .list entries)]

/-- A video entry with a value as its width. -/
def videoOf (width : Json) : Json :=
  .object [("bit_rate", .str "5000000"), ("codec_type", .str "video"), ("height", .int 1080), ("width", width)]

/-- An audio entry. -/
def stereo : Json := .object [("channels", .int 2), ("codec_type", .str "audio")]

/-- With the entries in another order and one more of another kind everything is told as before; with a text as its
width everything but the resolution. -/
theorem parse_reads_only_video :
    Retouched (reportOf [videoOf (.int 1920), stereo]) (reportOf [.null, stereo, videoOf (.int 1920)]) ∧
    parse (reportOf [.null, stereo, videoOf (.int 1920)]) = parse (reportOf [videoOf (.int 1920), stereo]) ∧
    parse (reportOf [videoOf (.str "1920"), stereo]) =
      .ok { bitrate := some 6000, videoBitrate := some 5000, audioChannels := some 2 } := by
  have retouched : Retouched (reportOf [videoOf (.int 1920), stereo])
      (reportOf [.null, stereo, videoOf (.int 1920)]) :=
    { error := rfl
      total := rfl
      entries := .tail (.single (.swap [] [] (by decide))) (.insert [] [stereo, videoOf (.int 1920)] (by decide)) }
  have alike : AlikeBut .width (reportOf [videoOf (.int 1920), stereo]) (reportOf [videoOf (.str "1920"), stereo]) :=
    { error := rfl
      found := by decide
      value := by
        intro elsewhere differ
        cases elsewhere with
        | width => exact absurd rfl differ
        | _ => rfl }
  have parsed : parse (reportOf [videoOf (.int 1920), stereo]) = .ok
      { resolution := some "1920x1080", bitrate := some 6000, videoBitrate := some 5000, audioChannels := some 2 } :=
    rfl
  exact ⟨retouched, (parse_reads_only _ _).2.1 retouched, (parse_reads_only _ _).2.2.2 _ .width parsed alike rfl⟩

end StreamWatch.ProbeReport
