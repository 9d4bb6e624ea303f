/-
**What a table keeps of a successful probe.**

The columns of the table are narrower than the facts a probe tells. A bit rate that has no place in its
column is refused before anything is written. A number of channels is not: one that has no place in its
column is kept all the same, and read back as zero. Everything else is read back as it was told, until
another probe of the stream is recorded.

* `Row.Typed`, `eq_invalid_of_typed`: a row whose cells are of the kinds of their columns can be read, but
  for its status;
* `Row.toStats_ofStats`: what is read back of a record whose bit rates have a place in the table;
* `get?_serially_of_unprobed`: a row without a run of failures stays until the next probe of its stream;
* `success_kept`: what becomes of a successful probe in any table.
-/

import StreamWatch.Proofs.Store.Overlap

namespace StreamWatch

/-- Whether the bit rates among some metrics have a place in the table. -/
structure Metrics.RatesFit (metrics : Metrics) : Prop where
  bitrate : ∀ n ∈ metrics.bitrate, n.toNat < Number.signedBound
  videoBitrate : ∀ n ∈ metrics.videoBitrate, n.toNat < Number.signedBound

/-- The number of channels that is read back: one beyond 31 bits has turned negative on the way. -/
def Row.channelsKept (channels : UInt32) : UInt32 :=
  if channels.toNat < Number.signedHalfBound then channels else 0

/-- The metrics that are read back. -/
def Metrics.kept (metrics : Metrics) : Metrics :=
  { metrics with audioChannels := metrics.audioChannels.map Row.channelsKept }

/-- Metrics are read back as they were told just when the number of channels has a place in its
column. -/
theorem Metrics.kept_eq_iff {metrics : Metrics} :
    metrics.kept = metrics ↔ ∀ n ∈ metrics.audioChannels, n.toNat < Number.signedHalfBound := by
  obtain ⟨resolution, bitrate, videoBitrate, frameRate, audioChannels, videoCodec, audioCodec⟩ := metrics
  cases audioChannels with
  | none => exact ⟨fun _ => nofun, fun _ => rfl⟩
  | some channels =>
    simp only [kept, Option.map_some, mk.injEq, Option.some.injEq, true_and, and_true, Option.mem_def,
      forall_eq', Row.channelsKept, ite_eq_left_iff]
    constructor
    · intro same
      by_contra large
      rw [← same large] at large
      exact large (by decide)
    · exact fun small large => absurd small large

namespace Row

/-! ### Rows that can be read -/

/-- Whether every cell of a row holds a value of the kind of its column. -/
structure Typed (row : Row) : Prop where
  status : ∃ value, row.status.toText = .ok value
  resolution : ∃ value, Cell.optional Cell.toText row.resolution = .ok value
  bitrate : ∃ value, Cell.optional Cell.toInteger row.bitrate = .ok value
  videoBitrate : ∃ value, Cell.optional Cell.toInteger row.videoBitrate = .ok value
  frameRate : ∃ value, Cell.optional Cell.toReal row.frameRate = .ok value
  audioChannels : ∃ value, Cell.optional Cell.toHalf row.audioChannels = .ok value
  videoCodec : ∃ value, Cell.optional Cell.toText row.videoCodec = .ok value
  audioCodec : ∃ value, Cell.optional Cell.toText row.audioCodec = .ok value
  isBlackScreen : ∃ value, Cell.optional Cell.toBool row.isBlackScreen = .ok value
  streak : ∃ value, row.streak.toHalf = .ok value
  lastError : ∃ value, Cell.optional Cell.toText row.lastError = .ok value
  probedAt : ∃ value, row.probedAt.toInstant = .ok value

/-- All that can be wrong with a row whose cells are of the right kinds is a text that names no status. -/
theorem eq_invalid_of_typed {row : Row} (typed : row.Typed) {id : Int} {error : StoreError}
    (unread : row.toStats id = .error error) : ∃ message, error = .invalidValue "probe_status" message := by
  obtain ⟨⟨status, told⟩, ⟨_, resolution⟩, ⟨_, bitrate⟩, ⟨_, videoBitrate⟩, ⟨_, frameRate⟩, ⟨_, audioChannels⟩,
    ⟨_, videoCodec⟩, ⟨_, audioCodec⟩, ⟨_, isBlackScreen⟩, ⟨_, streak⟩, ⟨_, lastError⟩, ⟨_, probedAt⟩⟩ := typed
  simp only [toStats, told, resolution, bitrate, videoBitrate, frameRate, audioChannels, videoCodec, audioCodec,
    isBlackScreen, streak, lastError, probedAt, bind, Except.bind, statusOf] at unread
  cases named : ProbeStatus.ofName? status with
  | some known =>
    rw [named] at unread
    cases unread
  | none =>
    rw [named] at unread
    cases unread
    exact ⟨_, rfl⟩

/-! ### Rows that were written -/

/-- What is refused is a bit rate. -/
theorem eq_invalid_of_optionalBitrate {value : Option UInt64} {error : StoreError}
    (refused : optionalBitrate value = .error error) :
    (∃ n ∈ value, Number.signedBound ≤ n.toNat) ∧ ∃ message, error = .invalidValue "bitrate" message := by
  cases value with
  | none => cases refused
  | some n =>
    simp only [optionalBitrate, bitrateCell] at refused
    split at refused
    · cases refused
    · next large =>
      cases refused
      exact ⟨⟨n, rfl, Nat.le_of_not_lt large⟩, _, rfl⟩

theorem fits_of_optionalBitrate {value : Option UInt64} {cell : Cell} (made : optionalBitrate value = .ok cell) :
    ∀ n ∈ value, n.toNat < Number.signedBound := by
  rintro n rfl
  simp only [optionalBitrate, bitrateCell] at made
  split at made
  · next small => exact small
  · cases made

/-- **A record is refused for its bit rates** and for nothing else. -/
theorem eq_invalid_of_ofStats {stats : StreamStats} {error : StoreError} (refused : ofStats stats = .error error) :
    ¬ stats.metrics.RatesFit ∧ ∃ message, error = .invalidValue "bitrate" message := by
  rcases steps_of_bind_eq_error refused with refused | ⟨_, -, refused⟩
  · obtain ⟨⟨n, member, large⟩, message⟩ := eq_invalid_of_optionalBitrate refused
    exact ⟨fun fits => Nat.not_lt.mpr large (fits.bitrate n member), message⟩
  · rcases steps_of_bind_eq_error refused with refused | ⟨_, -, refused⟩
    · obtain ⟨⟨n, member, large⟩, message⟩ := eq_invalid_of_optionalBitrate refused
      exact ⟨fun fits => Nat.not_lt.mpr large (fits.videoBitrate n member), message⟩
    · exact nomatch refused

/-- A record that is written has bit rates that have a place in the table. -/
theorem ratesFit_of_ofStats {stats : StreamStats} {row : Row} (written : ofStats stats = .ok row) :
    stats.metrics.RatesFit := by
  obtain ⟨_, bitrate, written⟩ := steps_of_bind_eq_ok written
  obtain ⟨_, videoBitrate, -⟩ := steps_of_bind_eq_ok written
  exact ⟨fits_of_optionalBitrate bitrate, fits_of_optionalBitrate videoBitrate⟩

/-- A number of channels that has turned negative is read as zero. -/
theorem ofNat_toNat_bmod (channels : UInt32) :
    UInt32.ofNat (Int.bmod channels.toNat Number.halfBound).toNat = channelsKept channels := by
  have bound : channels.toNat < 4294967296 := channels.toNat_lt
  unfold channelsKept
  split
  · next small =>
    have same : Int.bmod channels.toNat 4294967296 = channels.toNat := by
      simp only [Number.signedHalfBound] at small
      rw [Int.bmod_def]
      split <;> omega
    rw [Number.halfBound, same, Int.toNat_natCast, UInt32.ofNat_toNat]
  · next large =>
    have none : (Int.bmod channels.toNat 4294967296).toNat = 0 := by
      simp only [Number.signedHalfBound] at large
      rw [Int.bmod_def]
      split <;> omega
    rw [Number.halfBound, none]
    rfl

/-- **What is read back of a record** whose bit rates have a place in the table, and whose run of failures
has one. -/
theorem toStats_ofStats {stats : StreamStats} (rates : stats.metrics.RatesFit)
    (finite : ∀ x ∈ stats.metrics.frameRate, x.isFinite = true)
    (short : stats.consecutiveFailures.toNat ≤ maxStreak) :
    ∃ row, ofStats stats = .ok row ∧
      row.toStats stats.streamId = .ok { stats with metrics := stats.metrics.kept } := by
  refine ⟨_, ofStats_of_rates rates.bitrate rates.videoBitrate, ?_⟩
  have counted : stats.consecutiveFailures.toNat < Number.signedHalfBound := Nat.lt_succ_of_le short
  have streak : (min stats.consecutiveFailures.toNat maxStreak : Int) =
      stats.consecutiveFailures.toNat := Int.min_eq_left (Int.ofNat_le.mpr short)
  have words (value : Option UInt64) :
      (value.map fun n => (n.toNat : Int)).map (fun n => UInt64.ofNat n.toNat) = value := by
    cases value <;> simp
  have channels (value : Option UInt32) :
      (value.map fun n => Int.bmod n.toNat Number.halfBound).map (fun n => UInt32.ofNat n.toNat) =
        value.map channelsKept := by
    rw [Option.map_map]
    exact congrArg (value.map ·) (funext ofNat_toNat_bmod)
  simp only [toStats, Cell.optional_text, optional_bitrate, Cell.optional_real finite, optional_channelsCell,
    Cell.optional_bool, streak, toHalf_natCast counted, Cell.toText, Cell.toInstant, statusOf_name, bind,
    Except.bind, words, channels, Int.toNat_natCast, UInt32.ofNat_toNat]
  rfl

end Row

namespace Table

variable {table : Table} {id : Int} {now : Instant}

/-! ### Rows that stay -/

/-- A row that cannot be read is the row of the stream. -/
theorem exists_of_find_eq_error {error : StoreError} (unread : table.find id = .error error) :
    ∃ row, table.get? id = some row ∧ row.toStats id = .error error := by
  rw [find] at unread
  split at unread
  · cases unread
  · next row found =>
    refine ⟨row, found, ?_⟩
    cases told : row.toStats id with
    | ok stats =>
      rw [told] at unread
      cases unread
    | error other =>
      rw [told] at unread
      cases unread
      rfl

/-- A call that records no probe of a stream leaves its row as it is, when there is no run of failures in
it to be forgotten. -/
theorem get?_answer_of_unprobed {row : Row} (found : table.get? id = some row) (ended : row.streak = .integer 0)
    {call : StoreCall} (unprobed : call.probes id = false) (now : Instant) :
    (table.answer now call).2.get? id = some row := by
  cases call with
  | reset ids =>
    have same : withoutStreak row = row := by
      rw [withoutStreak, ← ended]
    rw [answer_reset, get?_reset, found, Option.map_some, same, ite_self]
  | recordSuccess | recordFailure =>
    have differ := beq_eq_false_iff_ne.mp unprobed
    rw [get?_answer_of_not_names (StoreCall.names_of_recorded_of_ne rfl differ), found]
  | get | getMany | listAll | listByStatus | listStruck => exact found

/-- **A row without a run of failures stays** as it is until the next probe of its stream is recorded. -/
theorem get?_serially_of_unprobed {row : Row} (found : table.get? id = some row)
    (ended : row.streak = .integer 0) {calls : List (Instant × StoreCall)}
    (unprobed : ∀ call ∈ calls, call.2.probes id = false) : (table.serially calls).get? id = some row := by
  induction calls generalizing table with
  | nil => exact found
  | cons call rest ih =>
    refine ih (get?_answer_of_unprobed found ended (unprobed call List.mem_cons_self) call.1) ?_
    exact fun other later => unprobed other (List.mem_cons_of_mem call later)

/-! ### A success -/

/-- The record of a success is the same one, whatever was known of the stream. -/
theorem recordOf_success {known : Option StreamStats} (read : table.find id = .ok known) (now : Instant)
    (metrics : Metrics) (isBlackScreen : Option Bool) :
    (recordOf (.ofSuccess id metrics isBlackScreen now) (·.applySuccess metrics isBlackScreen now) known).1 =
      .ofSuccess id metrics isBlackScreen now := by
  cases known with
  | none => rfl
  | some stats =>
    have own := streamId_of_find read
    obtain ⟨streamId, status, metrics, isBlackScreen, streak, lastError, lastProbedAt⟩ := stats
    cases own
    rfl

/-- **A success comes to one of three ends**: the row of the stream cannot be read, a bit rate has no place
in the table, or a row is written. -/
theorem success_cases (table : Table) (id : Int) (now : Instant) {metrics : Metrics} (isBlackScreen : Option Bool)
    (finite : ∀ x ∈ metrics.frameRate, x.isFinite = true) :
    (∃ error, table.find id = .error error ∧
      table.answer now (.recordSuccess id metrics isBlackScreen) = (.error error, table)) ∨
    (∃ known message, table.find id = .ok known ∧ ¬ metrics.RatesFit ∧
      table.answer now (.recordSuccess id metrics isBlackScreen) =
        (.error (.invalidValue "bitrate" message), table)) ∨
    ∃ known row, table.find id = .ok known ∧ metrics.RatesFit ∧ row.streak = .integer 0 ∧
      row.toStats id = .ok (.ofSuccess id metrics.kept isBlackScreen now) ∧
      table.answer now (.recordSuccess id metrics isBlackScreen) =
        (row.toStats id, SortedMap.insert table id row) := by
  let stats : StreamStats := .ofSuccess id metrics isBlackScreen now
  show (∃ error, _ ∧ table.record id _ _ = _) ∨ (∃ known message, _ ∧ _ ∧ table.record id _ _ = _) ∨
    ∃ known row, _ ∧ _ ∧ _ ∧ _ ∧ table.record id _ _ = _
  cases read : table.find id with
  | error error =>
    refine .inl ⟨error, rfl, ?_⟩
    rw [record_eq_write, read, write]
  | ok known =>
    have record := recordOf_success read now metrics isBlackScreen
    cases written : Row.ofStats stats with
    | error error =>
      obtain ⟨unfit, message, rfl⟩ := Row.eq_invalid_of_ofStats written
      refine .inr (.inl ⟨known, message, rfl, unfit, ?_⟩)
      rw [record_eq_write, read, write, save, record, written]
    | ok row =>
      have rates : stats.metrics.RatesFit := Row.ratesFit_of_ofStats written
      obtain ⟨same, made, told⟩ := Row.toStats_ofStats rates finite (Nat.zero_le _)
      obtain rfl : row = same := Except.ok.inj (written.symm.trans made)
      have ended : row.streak = .integer 0 :=
        (ofStats_streak written).trans (congrArg Cell.integer (Int.min_eq_left (Int.natCast_nonneg _)))
      refine .inr (.inr ⟨known, row, rfl, rates, ended, told, ?_⟩)
      exact record_eq (owns_success id metrics isBlackScreen now) read (by rw [record, written])

/-- **What becomes of a successful probe.** -/
structure Keeps (table : Table) (now : Instant) (id : Int) (metrics : Metrics) (isBlackScreen : Option Bool)
    (answered : Except StoreError StreamStats × Table) : Prop where
  /-- it is kept when the row of the stream can be read, if there is one, and the bit rates have a place -/
  isOk_iff : (∃ stats, answered.1 = .ok stats) ↔ (∃ known, table.find id = .ok known) ∧ metrics.RatesFit
  /-- the reason why it is not is a value that has no place, unless a cell of that row holds a value of a
  kind that its column does not have -/
  reason : ∀ error, answered.1 = .error error → (∃ field message, error = .invalidValue field message) ∨
    ∃ row, table.get? id = some row ∧ ¬ row.Typed
  /-- if it is not, the table is as before -/
  unchanged : ∀ error, answered.1 = .error error → answered.2 = table
  /-- if it is, the record tells just that, with the metrics that are kept -/
  record : ∀ stats, answered.1 = .ok stats → stats = .ofSuccess id metrics.kept isBlackScreen now
  /-- and it is read back until another probe of the stream is recorded -/
  readBack : ∀ stats, answered.1 = .ok stats → ∀ calls : List (Instant × StoreCall),
    (∀ call ∈ calls, call.2.probes id = false) →
    ∀ later, ((answered.2.serially calls).answer later (.get id)).1 = .ok (some stats)
  /-- no other row is changed -/
  others : ∀ other, other ≠ id → answered.2.get? other = table.get? other
  /-- the metrics that are kept are those that were told, but for a number of channels beyond 31 bits -/
  exact_iff : metrics.kept = metrics ↔ ∀ n ∈ metrics.audioChannels, n.toNat < Number.signedHalfBound

section
variable {metrics : Metrics} {isBlackScreen : Option Bool}

/-- A success that is refused leaves the table as it was. -/
theorem keeps_of_refused {error : StoreError} (unkept : ¬ ((∃ known, table.find id = .ok known) ∧ metrics.RatesFit))
    (reason : (∃ field message, error = .invalidValue field message) ∨
      ∃ row, table.get? id = some row ∧ ¬ row.Typed) :
    Keeps table now id metrics isBlackScreen (.error error, table) where
  isOk_iff := ⟨fun ⟨_, ok⟩ => (nomatch ok), fun both => absurd both unkept⟩
  reason := by
    rintro _ ⟨⟩
    exact reason
  unchanged _ _ := rfl
  record _ ok := nomatch ok
  readBack _ ok := nomatch ok
  others _ _ := rfl
  exact_iff := Metrics.kept_eq_iff

/-- A success that is written is read back until another probe of the stream is recorded. -/
theorem keeps_of_written {row : Row} (readable : ∃ known, table.find id = .ok known) (rates : metrics.RatesFit)
    (ended : row.streak = .integer 0)
    (told : row.toStats id = .ok (.ofSuccess id metrics.kept isBlackScreen now)) :
    Keeps table now id metrics isBlackScreen
      (.ok (.ofSuccess id metrics.kept isBlackScreen now), SortedMap.insert table id row) where
  isOk_iff := ⟨fun _ => ⟨readable, rates⟩, fun _ => ⟨_, rfl⟩⟩
  reason _ failed := nomatch failed
  unchanged _ failed := nomatch failed
  record _ ok := (Except.ok.inj ok).symm
  readBack := by
    rintro _ ⟨⟩ calls unprobed later
    have stays := get?_serially_of_unprobed (SortedMap.get?_insert_self table id row) ended unprobed
    show Table.find _ id = _
    rw [find, stays]
    exact congrArg (Except.map some) told
  others _ differ := SortedMap.get?_insert_of_ne table differ row
  exact_iff := Metrics.kept_eq_iff

end

/-- **A successful probe is kept as it was told, or refused**, whatever the table holds; only a number of
channels that has no place in its column is kept as another one. -/
theorem success_kept (table : Table) (now : Instant) (id : Int) (metrics : Metrics)
    (isBlackScreen : Option Bool) (finite : ∀ x ∈ metrics.frameRate, x.isFinite = true) :
    Keeps table now id metrics isBlackScreen
      (table.answer now (.recordSuccess id metrics isBlackScreen)) := by
  obtain ⟨error, read, same⟩ | ⟨known, message, read, unfit, same⟩ | ⟨known, row, read, rates, ended, told, same⟩ :=
    success_cases table id now isBlackScreen finite
  · rw [same]
    refine keeps_of_refused (fun both => ?_) ?_
    · obtain ⟨known, ok⟩ := both.1
      exact nomatch read.symm.trans ok
    · obtain ⟨row, found, unread⟩ := exists_of_find_eq_error read
      by_cases typed : row.Typed
      · obtain ⟨message, rfl⟩ := Row.eq_invalid_of_typed typed unread
        exact .inl ⟨_, message, rfl⟩
      · exact .inr ⟨row, found, typed⟩
  · rw [same]
    exact keeps_of_refused (fun both => unfit both.2) (.inl ⟨_, message, rfl⟩)
  · rw [same, told]
    exact keeps_of_written ⟨known, read⟩ rates ended told

/-- What a probe tells of a stream with so many channels: 25 frames a second, among other things. -/
def ofChannels (channels : UInt32) : Metrics :=
  { resolution := some "1920x1080", bitrate := some 4500, frameRate := some ⟨0x4039000000000000⟩,
    audioChannels := some channels }

/-- A table in which a stream has failed before. -/
def failedBefore : Table := (Table.answer (.ofParts 5 0) .empty (.recordFailure 7 .failed (some "no data"))).2

theorem ratesFit_ofChannels (channels : UInt32) : (ofChannels channels).RatesFit where
  bitrate := by
    rintro n ⟨⟩
    decide
  videoBitrate := nofun

theorem isFinite_ofChannels (channels : UInt32) : ∀ x ∈ (ofChannels channels).frameRate, x.isFinite = true := by
  rintro x ⟨⟩
  rfl

/-- The largest number of channels that has a place in the table is read back, and so is all the rest. -/
theorem success_kept_largest :
    (∀ x ∈ (ofChannels 2147483647).frameRate, x.isFinite = true) ∧
      ∃ stats, ((failedBefore.answer (.ofParts 8 0) (.recordSuccess 7 (ofChannels 2147483647) (some true))).2.answer
          (.ofParts 9 0) (.get 7)).1 = .ok (some stats) ∧
        stats.metrics = ofChannels 2147483647 ∧ stats.isBlackScreen = some true := by
  have keeps := success_kept failedBefore (.ofParts 8 0) 7 (ofChannels 2147483647) (some true) (isFinite_ofChannels _)
  have absent : Table.find .empty 7 = .ok none := rfl
  obtain ⟨before, -, read, -⟩ := answer_recordFailure absent (.ofParts 5 0) .failed (some "no data")
  obtain ⟨stats, isOk⟩ := keeps.isOk_iff.mpr ⟨⟨some before, read⟩, ratesFit_ofChannels _⟩
  have found := keeps.readBack stats isOk [] (List.forall_mem_nil _) (.ofParts 9 0)
  simp only [serially, List.foldl_nil] at found
  refine ⟨isFinite_ofChannels _, stats, found, ?_, ?_⟩
  · rw [keeps.record stats isOk]
    refine keeps.exact_iff.mpr ?_
    rintro n ⟨⟩
    decide
  · rw [keeps.record stats isOk]
    rfl

/-- **One channel more is read back as none**, and nobody is told. -/
theorem not_forall_success_exact :
    ¬ ∀ (table : Table) (now : Instant) (id : Int) (metrics : Metrics) (isBlackScreen : Option Bool),
      (∀ x ∈ metrics.frameRate, x.isFinite = true) →
      let answered := table.answer now (.recordSuccess id metrics isBlackScreen)
      (∃ field message, answered.1 = .error (.invalidValue field message) ∧ answered.2 = table) ∨
        ∃ stats, answered.1 = .ok stats ∧ ∃ kept, (answered.2.answer now (.get id)).1 = .ok (some kept) ∧
          kept.metrics = metrics ∧ kept.isBlackScreen = isBlackScreen := by
  intro exact
  have finite := isFinite_ofChannels 2147483648
  have kept := exact .empty (.ofParts 8 0) 7 (ofChannels 2147483648) none finite
  obtain ⟨_, unread, -⟩ | ⟨_, _, -, unfit, -⟩ | ⟨known, row, read, rates, ended, told, same⟩ :=
    success_cases .empty 7 (.ofParts 8 0) none finite
  · exact nomatch unread
  · exact unfit (ratesFit_ofChannels _)
  · have keeps := keeps_of_written ⟨known, read⟩ rates ended told
    rw [same, told] at kept
    obtain ⟨_, _, refused, -⟩ | ⟨_, isOk, stats, found, asTold, -⟩ := kept
    · exact nomatch refused
    · have again := keeps.readBack _ isOk [] (List.forall_mem_nil _) (.ofParts 8 0)
      simp only [serially, List.foldl_nil] at again
      obtain rfl := Option.some.inj (Except.ok.inj (again.symm.trans found))
      rw [keeps.record _ isOk] at asTold
      exact absurd (keeps.exact_iff.mp asTold _ rfl) (by decide)

end Table
end StreamWatch
