/-
**The number of pixels, from the report of a probe to the ranking.**

The resolution a report tells of is written as a text, kept as one, and read again where candidates are ranked.

* `Recorded`: the records read back after a successful probe, wherever records are kept;
* `Recorded.pixels`: they have the number of pixels of the facts that were recorded;
* `sides_told`, `unsided_told`: what a report tells of its picture;
* `resolution_agrees`: what is written by the one is read by the other.
-/

import StreamWatch.Proofs.Probe.Report
import StreamWatch.Proofs.Stats.Resolution
import StreamWatch.Proofs.Store.Kept
import StreamWatch.Ranking.Quality
import StreamWatch.Store.Records

namespace StreamWatch

/-! ### Records -/

namespace Row

/-- The resolution of a record is the text in its cell. -/
theorem resolution_of_toStats {row : Row} {id : Int} {stats : StreamStats} (read : row.toStats id = .ok stats) :
    Cell.optional Cell.toText row.resolution = .ok stats.metrics.resolution := by
  obtain ⟨_, -, read⟩ := steps_of_bind_eq_ok read
  obtain ⟨resolution, found, read⟩ := steps_of_bind_eq_ok read
  -- the eleven cells after it have no part in it
  iterate 11 obtain ⟨_, -, read⟩ := steps_of_bind_eq_ok read
  cases read
  exact found

/-- The resolution is read back as it was written. -/
theorem resolution_readBack {stats told : StreamStats} {row : Row} {id : Int} (written : ofStats stats = .ok row)
    (read : row.toStats id = .ok told) : told.metrics.resolution = stats.metrics.resolution := by
  have cell : row.resolution = .ofOption .text stats.metrics.resolution := by
    obtain ⟨_, -, written⟩ := steps_of_bind_eq_ok written
    obtain ⟨_, -, written⟩ := steps_of_bind_eq_ok written
    cases written
    rfl
  have same := resolution_of_toStats read
  rw [cell, Cell.optional_text] at same
  exact (Except.ok.inj same).symm

end Row

/-- A success that is answered for is in its row. -/
theorem Table.exists_row_of_success {table : Table} {now : Instant} {id : Int} {metrics : Metrics}
    {isBlackScreen : Option Bool} {stats : StreamStats}
    (answered : (table.answer now (.recordSuccess id metrics isBlackScreen)).1 = .ok stats) :
    ∃ row, Row.ofStats (.ofSuccess id metrics isBlackScreen now) = .ok row ∧
      (table.answer now (.recordSuccess id metrics isBlackScreen)).2 = SortedMap.insert table id row := by
  change (table.record id _ _).1 = _ at answered
  show ∃ row, _ ∧ (table.record id _ _).2 = _
  cases read : table.find id with
  | error error =>
    rw [record_eq_write, read, write] at answered
    cases answered
  | ok known =>
    have record := recordOf_success read now metrics isBlackScreen
    cases written : Row.ofStats (.ofSuccess id metrics isBlackScreen now) with
    | error error =>
      rw [record_eq_write, read, write, save, record, written] at answered
      cases answered
    | ok row =>
      refine ⟨row, rfl, ?_⟩
      rw [record_eq (owns_success id metrics isBlackScreen now) read (by rw [record, written])]

/-- **Whether a record is one that is read back after a success with these facts was recorded.** -/
def Recorded (metrics : Metrics) (stats : StreamStats) : Prop :=
  ∃ (records : Records) (now later : Instant) (id : Int) (isBlackScreen : Option Bool),
    (∃ answered, (records.answer now (.recordSuccess id metrics isBlackScreen)).1 = .ok answered) ∧
      ((records.answer now (.recordSuccess id metrics isBlackScreen)).2.answer later (.get id)).1 = .ok (some stats)

/-- A record has the resolution that was recorded. -/
theorem Recorded.resolution {metrics : Metrics} {stats : StreamStats} (recorded : Recorded metrics stats) :
    stats.metrics.resolution = metrics.resolution := by
  obtain ⟨records, now, later, id, isBlackScreen, ⟨answered, accepted⟩, found⟩ := recorded
  cases records with
  | memory memory =>
    have kept : (memory.insert id (memory.afterSuccess now id metrics isBlackScreen)).get? id = some stats :=
      Except.ok.inj found
    rw [SortedMap.get?_insert_self, Option.some.injEq] at kept
    rw [← kept, Memory.afterSuccess]
    split <;> rfl
  | table table =>
    obtain ⟨row, written, after⟩ := Table.exists_row_of_success accepted
    have found : (table.answer now (.recordSuccess id metrics isBlackScreen)).2.find id = .ok (some stats) := found
    rw [after, Table.find, SortedMap.get?_insert_self] at found
    obtain ⟨told, read, same⟩ := map_eq_ok_iff.mp found
    cases same
    exact Row.resolution_readBack written read

/-- **A candidate has the number of pixels** that was recorded. -/
theorem Recorded.pixels {metrics : Metrics} {stats : StreamStats} (recorded : Recorded metrics stats) (id : Int)
    (provider : Option Int) : (Candidate.ofStats id provider (some stats)).pixels = metrics.pixels? := by
  show stats.metrics.resolution.bind Resolution.pixels? = metrics.resolution.bind Resolution.pixels?
  rw [recorded.resolution]

/-! ### Reports -/

/-- The values that are read as whole numbers of 64 bits. -/
theorem Json.word?_eq_some_iff {value : Json} {n : UInt64} : value.word? = some n ↔ value = .int n.toNat := by
  have small : n.toNat < Number.wordBound := n.toNat_lt
  constructor
  · intro read
    cases value with
    | int number =>
      rw [word?] at read
      split at read
      · next bounds =>
        obtain ⟨natural, rfl⟩ := Int.eq_ofNat_of_zero_le bounds.1
        rw [Int.toNat_natCast, Option.some.injEq] at read
        rw [← read, UInt64.toNat_ofNat_of_lt' (Int.ofNat_lt.mp bounds.2)]
      · exact nomatch read
    | null | bool | real | str | list | object => exact nomatch read
  · rintro rfl
    rw [word?, if_pos ⟨Int.natCast_nonneg _, Int.ofNat_lt.mpr small⟩, Int.toNat_natCast, UInt64.ofNat_toNat]

namespace ProbeReport

variable {value? : Place → Option Json} {width height : Nat}

/-- Whether a value is a number that can be the side of a picture: a positive whole number of 64 bits. -/
def IsSide (value : Option Json) (side : Nat) : Prop :=
  value = some (.int side) ∧ 0 < side ∧ side < Number.wordBound

/-- The resolution that is told is that of two sides. -/
theorem resolution_eq_some_iff {text : String} : (told value?).resolution = some text ↔
    ∃ width height : UInt64, IsSide (value? .width) width.toNat ∧ IsSide (value? .height) height.toNat ∧
      text = Resolution.format width height := by
  have side (place : Place) (n : UInt64) :
      IsSide (value? place) n.toNat ↔ (value? place).bind (·.word?) = some n ∧ n ≠ 0 := by
    have positive : 0 < n.toNat ↔ n ≠ 0 := by
      rw [Nat.pos_iff_ne_zero, ne_eq, ne_eq, ← UInt64.toNat_inj, UInt64.toNat_zero]
    have small : n.toNat < Number.wordBound := n.toNat_lt
    simp only [IsSide, Option.bind_eq_some_iff, Json.word?_eq_some_iff, exists_eq_right, positive, small, and_true]
  simp only [side]
  show ((value? .width).bind (·.word?)).bind (fun width => ((value? .height).bind (·.word?)).bind fun height =>
    if width = 0 ∨ height = 0 then none else some (Resolution.format width height)) = some text ↔ _
  generalize (value? .width).bind (·.word?) = across
  generalize (value? .height).bind (·.word?) = down
  constructor
  · intro written
    rw [Option.bind_eq_some_iff] at written
    obtain ⟨width, rfl, written⟩ := written
    rw [Option.bind_eq_some_iff] at written
    obtain ⟨height, rfl, written⟩ := written
    split at written
    · exact nomatch written
    · next positive =>
      obtain ⟨wide, high⟩ := not_or.mp positive
      exact ⟨width, height, ⟨rfl, wide⟩, ⟨rfl, high⟩, (Option.some.inj written).symm⟩
  · rintro ⟨width, height, ⟨rfl, wide⟩, ⟨rfl, high⟩, rfl⟩
    exact if_neg (not_or.mpr ⟨wide, high⟩)

/-- What is told of two sides is the number of pixels they have. -/
theorem sides_told (wide : IsSide (value? .width) width) (high : IsSide (value? .height) height)
    (fits : width * height < Number.wordBound) : (told value?).pixels?.map (·.toNat) = some (width * height) := by
  have across : (UInt64.ofNat width).toNat = width := UInt64.toNat_ofNat_of_lt' wide.2.2
  have down : (UInt64.ofNat height).toNat = height := UInt64.toNat_ofNat_of_lt' high.2.2
  have written : (told value?).resolution = some (Resolution.format (.ofNat width) (.ofNat height)) :=
    resolution_eq_some_iff.mpr ⟨_, _, by rwa [across], by rwa [down], rfl⟩
  rw [Metrics.pixels?, written, Option.bind_some, Resolution.pixels?_format, Option.map_some, UInt64.toNat_mul, across,
    down]
  exact congrArg some (Nat.mod_eq_of_lt fits)

/-- Of a picture without a side no pixels are told. -/
theorem unsided_told (unsided : (∀ side, ¬ IsSide (value? .width) side) ∨ ∀ side, ¬ IsSide (value? .height) side) :
    (told value?).pixels? = none := by
  cases written : (told value?).resolution with
  | none => rw [Metrics.pixels?, written, Option.bind_none]
  | some text =>
    obtain ⟨_, _, wide, high, -⟩ := resolution_eq_some_iff.mp written
    exact absurd (unsided.imp (fun none => none _ wide) fun none => none _ high) (by simp)

/-- **What is written of a picture is what is read of it.** A text is read as a number of pixels just when it is a
resolution, and then as the product of its sides. So every report of a video with two sides makes the candidates that
are built from its records rank with exactly the pixels of the picture, as far as they can be counted in 64 bits; and
a report of a video without one of its sides makes them rank without any. -/
theorem resolution_agrees :
    (∀ text pixels, Resolution.pixels? text = some pixels ↔
      ∃ width height, Resolution.Written text.toList width height ∧ pixels = width * height) ∧
    (∀ report video (width height : Nat), report.member? "error" = none → entry? report "video" = some video →
      video.member? "width" = some (.int width) → video.member? "height" = some (.int height) →
      0 < width → 0 < height → width * height < Number.wordBound →
      ∃ facts, parse report = .ok facts ∧ facts.pixels?.map (·.toNat) = some (width * height) ∧
        ∀ stats, Recorded facts stats → ∀ id provider providers,
          (Candidate.ofStats id provider (some stats)).measure providers .resolution = (width * height : Nat)) ∧
    ∀ report facts, parse report = .ok facts →
      ((∀ side, ¬ IsSide (valueAt? report .width) side) ∨ ∀ side, ¬ IsSide (valueAt? report .height) side) →
      facts.pixels? = none ∧ ∀ stats, Recorded facts stats → ∀ id provider,
        (Candidate.ofStats id provider (some stats)).pixels = none := by
  refine ⟨fun _ _ => Resolution.pixels?_eq_some_iff, ?_, ?_⟩
  · intro report video width height sound found across down wide high fits
    have at_width : valueAt? report .width = some (.int width) := by
      rw [← across]
      exact congrArg (Option.bind · _) found
    have at_height : valueAt? report .height = some (.int height) := by
      rw [← down]
      exact congrArg (Option.bind · _) found
    have counted : (told (valueAt? report)).pixels?.map (·.toNat) = some (width * height) := sides_told
      ⟨at_width, wide, Nat.lt_of_le_of_lt (Nat.le_mul_of_pos_right width high) fits⟩
      ⟨at_height, high, Nat.lt_of_le_of_lt (Nat.le_mul_of_pos_left height wide) fits⟩ fits
    refine ⟨_, parse_eq_ok_iff.mpr ⟨sound, ⟨"video", by decide, by rw [hasEntry, found]; rfl⟩, rfl⟩, counted, ?_⟩
    intro stats recorded id provider providers
    obtain ⟨pixels, same, counted⟩ := Option.map_eq_some_iff.mp counted
    rw [Candidate.measure, recorded.pixels, same, Option.getD_some, counted]
  · intro report facts parsed unsided
    obtain ⟨-, -, rfl⟩ := parse_eq_ok_iff.mp parsed
    have none := unsided_told unsided
    exact ⟨none, fun stats recorded id provider => (recorded.pixels id provider).trans none⟩

/-- A picture of 1920 by 1080 is recorded and ranks with its pixels; with a text as its width it has none. -/
theorem resolution_agrees_video :
    (∃ facts stats, parse (reportOf [videoOf (.int 1920), stereo]) = .ok facts ∧ Recorded facts stats ∧
      (Candidate.ofStats 7 none (some stats)).measure .empty .resolution = 2073600) ∧
    ∃ facts, parse (reportOf [videoOf (.str "1920"), stereo]) = .ok facts ∧ facts.pixels? = none := by
  constructor
  · obtain ⟨facts, parsed, -, ranks⟩ := resolution_agrees.2.1 (reportOf [videoOf (.int 1920), stereo])
      (videoOf (.int 1920)) 1920 1080 rfl rfl rfl rfl (by decide) (by decide) (by decide)
    have recorded : Recorded facts (.ofSuccess 7 facts none .epoch) :=
      ⟨.memory .empty, .epoch, .epoch, 7, none, ⟨_, rfl⟩, rfl⟩
    exact ⟨facts, _, parsed, recorded, ranks _ recorded 7 none .empty⟩
  · refine ⟨_, rfl, (resolution_agrees.2.2 (reportOf [videoOf (.str "1920"), stereo]) _ rfl (.inl ?_)).1⟩
    exact fun side ⟨text, _⟩ => nomatch text

end ProbeReport
end StreamWatch
