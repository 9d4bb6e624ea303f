/-
**The two halves of a record.**

To keep the outcome of a probe, the row of the stream is read and a whole row is written afterwards.
What is written is a matter of what was read, and whether it can be written of the table by then.

* `conclude`: what a call does with the table once the row of its stream has been read;
* `conclude_find`: a row that was read just now makes the two halves one call;
* `conclude_cases`: a row that was read before is written as if nothing had happened since, or not at
  all;
* `find_answer_recordFailure`, `streak_answer`: what calls make of runs of failures.
-/

import StreamWatch.Proofs.Steps
import StreamWatch.Proofs.Store.Table

namespace StreamWatch

namespace StoreCall

/-- The stream whose row a call reads before it writes one. -/
def recorded? : StoreCall → Option Int
  | recordSuccess id .. | recordFailure id .. => some id
  | _ => none

theorem names_of_recorded {call : StoreCall} {id : Int} (recorded : call.recorded? = some id) :
    call.names id = true := by
  cases call with
  | recordSuccess other | recordFailure other =>
    cases recorded
    simp [names, probes]
  | get | getMany | listAll | listByStatus | listStruck | reset => cases recorded

theorem names_of_recorded_of_ne {call : StoreCall} {id other : Int} (recorded : call.recorded? = some other)
    (differ : other ≠ id) : call.names id = false := by
  cases call with
  | recordSuccess | recordFailure =>
    cases recorded
    simp [names, probes, endsRun, differ]
  | get | getMany | listAll | listByStatus | listStruck | reset => cases recorded

end StoreCall

namespace Table

open StoreCall

/-- Writes the next record of a stream whose row has been read. -/
def write (table : Table) (first : StreamStats) (next : StreamStats → StreamStats) :
    Except StoreError (Option StreamStats) → Except StoreError StreamStats × Table
  | .error error => (.error error, table)
  | .ok known => table.save (recordOf first next known).1 (recordOf first next known).2

theorem record_eq_write (table : Table) (id : Int) (first : StreamStats)
    (next : StreamStats → StreamStats) :
    table.record id first next = table.write first next (table.find id) := by
  rw [record]
  cases table.find id <;> rfl

/-- What a call does with the table once the row of its stream, if it is about one, has been read. -/
def conclude (now : Instant) (table : Table) (read : Except StoreError (Option StreamStats)) :
    (call : StoreCall) → call.Reply × Table
  | .recordSuccess id metrics isBlackScreen =>
    table.write (.ofSuccess id metrics isBlackScreen now) (·.applySuccess metrics isBlackScreen now) read
  | .recordFailure id status error =>
    table.write (.ofFailure id status error now) (·.applyFailure status error now) read
  | call => table.answer now call

variable {table earlier : Table} {id : Int} {now : Instant} {call : StoreCall}

/-- A call that reads the row and writes at once is a call as a whole. -/
theorem conclude_find (recorded : call.recorded? = some id) :
    table.conclude now (table.find id) call = table.answer now call := by
  cases call with
  | recordSuccess | recordFailure =>
    cases recorded
    exact (record_eq_write _ _ _ _).symm
  | get | getMany | listAll | listByStatus | listStruck | reset => exact nomatch recorded

theorem conclude_of_not_recorded (unread : call.recorded? = none)
    (read : Except StoreError (Option StreamStats)) :
    table.conclude now read call = table.answer now call := by
  cases call with
  | recordSuccess | recordFailure => exact nomatch unread
  | get | getMany | listAll | listByStatus | listStruck | reset => rfl

/-! ### What is written -/

theorem find_congr (same : table.get? id = earlier.get? id) : table.find id = earlier.find id := by
  rw [find, find, same]

/-- A record that was read is one of the stream. -/
theorem streamId_of_find {stats : StreamStats} (read : table.find id = .ok (some stats)) :
    stats.streamId = id := by
  rw [find] at read
  split at read
  · cases read
  · next row found =>
    cases told : row.toStats id with
    | error error =>
      rw [told] at read
      cases read
    | ok other =>
      rw [told] at read
      cases read
      unfold Row.toStats at told
      iterate 13 obtain ⟨_, -, told⟩ := steps_of_bind_eq_ok told
      cases told
      rfl

/-- A row that can be read says whether there is one. -/
theorem isSome_of_find {known : Option StreamStats} (read : table.find id = .ok known) :
    known.isSome = table.contains id := by
  rw [find] at read
  rw [SortedMap.contains]
  split at read
  · next missing =>
    cases read
    rw [missing]
    rfl
  · next row found =>
    rw [found]
    cases told : row.toStats id with
    | error error =>
      rw [told] at read
      cases read
    | ok other =>
      rw [told] at read
      cases read
      rfl

/-- The records that are written for a stream are records of that stream. -/
structure Owns (id : Int) (first : StreamStats) (next : StreamStats → StreamStats) : Prop where
  first : first.streamId = id
  next : ∀ stats, stats.streamId = id → (next stats).streamId = id

variable {first : StreamStats} {next : StreamStats → StreamStats}

theorem recordOf_isKnown (known : Option StreamStats) : (recordOf first next known).2 = known.isSome := by
  cases known <;> rfl

theorem Owns.streamId (owns : Owns id first next) {known : Option StreamStats}
    (read : table.find id = .ok known) : (recordOf first next known).1.streamId = id := by
  cases known with
  | none => exact owns.first
  | some stats => exact owns.next stats (streamId_of_find read)

/-- A row that has a place in the table is written if there is a row to write over just when it is
said to be. -/
theorem save_eq {stats : StreamStats} {row : Row} (written : Row.ofStats stats = .ok row) (isKnown : Bool) :
    table.save stats isKnown =
      if isKnown = table.contains stats.streamId then
        (row.toStats stats.streamId, SortedMap.insert table stats.streamId row)
      else (.error .database, table) := by
  rw [save, written]
  simp only [insert, update]
  cases isKnown <;> cases table.contains stats.streamId <;> rfl

/-- What is written once a row has been read is a row that depends on what was read alone, or nothing. -/
theorem write_cases (table earlier : Table) (owns : Owns id first next) :
    (table.write first next (earlier.find id)).2 = table ∨
      ∃ known row, earlier.find id = .ok known ∧ Row.ofStats (recordOf first next known).1 = .ok row ∧
        (table.write first next (earlier.find id)).2 = SortedMap.insert table id row := by
  cases read : earlier.find id with
  | error error => exact .inl rfl
  | ok known =>
    rw [write]
    cases written : Row.ofStats (recordOf first next known).1 with
    | error error =>
      rw [save, written]
      exact .inl rfl
    | ok row =>
      rw [save_eq written, owns.streamId read]
      split
      · exact .inr ⟨known, row, rfl, written, rfl⟩
      · exact .inl rfl

/-- A row that is written as soon as the old one is read is not refused. -/
theorem record_eq (owns : Owns id first next) {known : Option StreamStats} {row : Row}
    (read : table.find id = .ok known) (written : Row.ofStats (recordOf first next known).1 = .ok row) :
    table.record id first next = (row.toStats id, SortedMap.insert table id row) := by
  rw [record_eq_write, read, write, save_eq written, owns.streamId read, recordOf_isKnown,
    isSome_of_find read, if_pos rfl]

theorem owns_success (id : Int) (metrics : Metrics) (isBlackScreen : Option Bool) (now : Instant) :
    Owns id (.ofSuccess id metrics isBlackScreen now) (·.applySuccess metrics isBlackScreen now) :=
  ⟨rfl, fun _ own => own⟩

theorem owns_failure (id : Int) (status : ProbeStatus) (error : Option String) (now : Instant) :
    Owns id (.ofFailure id status error now) (·.applyFailure status error now) :=
  ⟨rfl, fun _ own => own⟩

/-! ### Calls -/

/-- **A row that was read earlier is written as the call would then have written it**, or nothing is
written at all. -/
theorem conclude_cases (table earlier : Table) (now : Instant) (recorded : call.recorded? = some id) :
    (table.conclude now (earlier.find id) call).2 = table ∨
      ∃ row, (table.conclude now (earlier.find id) call).2 = SortedMap.insert table id row ∧
        ∀ other : Table, other.get? id = earlier.get? id →
          (other.answer now call).2 = SortedMap.insert other id row := by
  have written {first : StreamStats} {next : StreamStats → StreamStats} (owns : Owns id first next) :
      (table.write first next (earlier.find id)).2 = table ∨
        ∃ row, (table.write first next (earlier.find id)).2 = SortedMap.insert table id row ∧
          ∀ other : Table, other.get? id = earlier.get? id →
            (other.record id first next).2 = SortedMap.insert other id row := by
    refine (write_cases table earlier owns).imp_right ?_
    rintro ⟨known, row, read, made, same⟩
    refine ⟨row, same, fun other alike => ?_⟩
    rw [record_eq owns ((find_congr alike).trans read) made]
  cases call with
  | recordSuccess other metrics isBlackScreen =>
    cases recorded
    exact written (owns_success id metrics isBlackScreen now)
  | recordFailure other status error =>
    cases recorded
    exact written (owns_failure id status error now)
  | get | getMany | listAll | listByStatus | listStruck | reset => exact nomatch recorded

/-- A call leaves the rows of streams that it does not name. -/
theorem get?_answer_of_not_names (others : call.names id = false) (now : Instant) (table : Table) :
    (table.answer now call).2.get? id = table.get? id := by
  cases recorded : call.recorded? with
  | some other =>
    have differ : id ≠ other := fun same => by
      rw [names_of_recorded (same ▸ recorded)] at others
      exact nomatch others
    rw [← conclude_find recorded]
    rcases conclude_cases table table now recorded with same | ⟨row, same, -⟩
    · rw [same]
    · rw [same, SortedMap.get?_insert_of_ne table differ row]
  | none =>
    cases call with
    | recordSuccess | recordFailure => exact nomatch recorded
    | reset ids =>
      have unnamed : ¬ ids.contains id = true := by
        rw [names, Bool.or_eq_false_iff] at others
        exact Bool.eq_false_iff.mp others.2
      rw [answer_reset, get?_reset, if_neg (mt List.contains_iff_mem.mpr unnamed)]
    | get | getMany | listAll | listByStatus | listStruck => rfl

/-- **What a call makes of a row is a matter of that row alone.** -/
theorem get?_answer_congr (same : table.get? id = earlier.get? id) (now : Instant) (call : StoreCall) :
    (table.answer now call).2.get? id = (earlier.answer now call).2.get? id := by
  cases named : call.names id with
  | false => rw [get?_answer_of_not_names named, get?_answer_of_not_names named, same]
  | true =>
    cases recorded : call.recorded? with
    | some other =>
      obtain rfl : other = id := Decidable.byContradiction fun differ => by
        rw [names_of_recorded_of_ne recorded differ] at named
        exact nomatch named
      have cases (table : Table) := conclude_cases table table now recorded
      simp only [conclude_find recorded] at cases
      rcases cases table with left | ⟨row, made, alike⟩
      · rcases cases earlier with kept | ⟨row, made, alike⟩
        · rw [left, kept, same]
        · rw [made, alike table same, SortedMap.get?_insert_self, SortedMap.get?_insert_self]
      · rw [made, alike earlier same.symm, SortedMap.get?_insert_self, SortedMap.get?_insert_self]
    | none =>
      cases call with
      | recordSuccess | recordFailure => exact nomatch recorded
      | reset ids => rw [answer_reset, answer_reset, get?_reset, get?_reset, same]
      | get | getMany | listAll | listByStatus | listStruck => exact same

/-! ### A row that was just written -/

theorem exists_bitrate {value : Option UInt64} {cell : Cell} (made : Row.optionalBitrate value = .ok cell) :
    ∃ told, Cell.optional Cell.toInteger cell = .ok told := by
  cases value with
  | none =>
    cases made
    exact ⟨none, rfl⟩
  | some n =>
    simp only [Row.optionalBitrate, Row.bitrateCell] at made
    split at made
    · cases made
      exact ⟨_, rfl⟩
    · exact nomatch made

theorem exists_frameRate (value : Option Binary64) :
    ∃ told, Cell.optional Cell.toReal (.ofOption .ofReal value) = .ok told := by
  cases value with
  | none => exact ⟨none, rfl⟩
  | some x =>
    simp only [Cell.ofOption, Cell.ofReal]
    split
    · exact ⟨none, rfl⟩
    · exact ⟨some x, rfl⟩

/-- A row that was just written can be read. -/
theorem exists_toStats {stats : StreamStats} {row : Row} (written : Row.ofStats stats = .ok row) (id : Int) :
    ∃ told, row.toStats id = .ok told := by
  have short : min stats.consecutiveFailures.toNat Row.maxStreak < Number.signedHalfBound :=
    Nat.lt_of_le_of_lt (Nat.min_le_right _ _) (by decide)
  have cast : ((min stats.consecutiveFailures.toNat Row.maxStreak : Nat) : Int) =
      min (stats.consecutiveFailures.toNat : Int) Row.maxStreak := by omega
  have streak := Row.toHalf_natCast short
  rw [cast] at streak
  obtain ⟨bitrate, bitrateMade, written⟩ := steps_of_bind_eq_ok written
  obtain ⟨videoBitrate, videoBitrateMade, written⟩ := steps_of_bind_eq_ok written
  cases written
  obtain ⟨_, bitrateTold⟩ := exists_bitrate bitrateMade
  obtain ⟨_, videoBitrateTold⟩ := exists_bitrate videoBitrateMade
  obtain ⟨_, frameRateTold⟩ := exists_frameRate stats.metrics.frameRate
  simp only [Row.toStats, Cell.optional_text, Cell.optional_bool, bitrateTold, videoBitrateTold,
    frameRateTold, Row.optional_channelsCell, streak, Cell.toText, Cell.toInstant, Row.statusOf_name, bind, Except.bind]
  exact ⟨_, rfl⟩

theorem bitrate_ne_database (value : Option UInt64) : Row.optionalBitrate value ≠ .error .database := by
  cases value with
  | none => exact nofun
  | some n =>
    simp only [Row.optionalBitrate, Row.bitrateCell]
    split <;> exact nofun

/-- What has no place in the table is refused as such. -/
theorem ofStats_ne_database (stats : StreamStats) : Row.ofStats stats ≠ .error .database := by
  intro failed
  rcases steps_of_bind_eq_error failed with failed | ⟨bitrate, -, failed⟩
  · exact bitrate_ne_database _ failed
  · rcases steps_of_bind_eq_error failed with failed | ⟨videoBitrate, -, failed⟩
    · exact bitrate_ne_database _ failed
    · exact nomatch failed

/-- The first record of a stream is not refused by the database. -/
theorem record_ne_database (owns : Owns id first next) (missing : table.get? id = none) :
    (table.record id first next).1 ≠ .error .database := by
  have read : table.find id = .ok none := by rw [find, missing]
  cases written : Row.ofStats first with
  | error error =>
    have refused := ofStats_ne_database first
    rw [record_eq_write, read, write, save, recordOf, written]
    rw [written] at refused
    exact fun same => refused (congrArg _ (Except.error.inj same))
  | ok row =>
    obtain ⟨told, same⟩ := exists_toStats written id
    rw [record_eq owns read written, same]
    rintro ⟨⟩

theorem answer_ne_database (recorded : call.recorded? = some id) (missing : table.get? id = none)
    (now : Instant) : (table.answer now call).1 ≠ .error .database := by
  cases call with
  | recordSuccess other metrics isBlackScreen =>
    cases recorded
    exact record_ne_database (owns_success id metrics isBlackScreen now) missing
  | recordFailure other status error =>
    cases recorded
    exact record_ne_database (owns_failure id status error now) missing
  | get | getMany | listAll | listByStatus | listStruck | reset => exact nomatch recorded

/-! ### Runs of failures -/

/-- The run of failures of a record that there may be. -/
def streakOf (known : Option StreamStats) : Nat := (known.map (·.consecutiveFailures.toNat)).getD 0

theorem ofStats_streak {stats : StreamStats} {row : Row} (written : Row.ofStats stats = .ok row) :
    row.streak = .integer (min stats.consecutiveFailures.toNat Row.maxStreak) := by
  obtain ⟨bitrate, -, written⟩ := steps_of_bind_eq_ok written
  obtain ⟨videoBitrate, -, written⟩ := steps_of_bind_eq_ok written
  cases written
  rfl

/-- A record with no longer a run of failures than has a place in the table. -/
def capped (stats : StreamStats) : StreamStats :=
  { stats with consecutiveFailures := .ofNat (min stats.consecutiveFailures.toNat Row.maxStreak) }

theorem capped_streak (stats : StreamStats) :
    (capped stats).consecutiveFailures.toNat = min stats.consecutiveFailures.toNat Row.maxStreak := by
  have bound : min stats.consecutiveFailures.toNat Row.maxStreak < 4294967296 :=
    Nat.lt_of_le_of_lt (Nat.min_le_right _ _) (by decide)
  exact Nat.mod_eq_of_lt bound

/-- A row that was just written tells the record it was written from, but for too long a run of
failures. -/
theorem toStats_written {stats : StreamStats} (fits : stats.metrics.Fits) :
    (Row.rowOf stats).toStats stats.streamId = .ok (capped stats) := by
  have cappedFits : (capped stats).metrics.Fits := fits
  have same : Row.rowOf stats = Row.rowOf (capped stats) := by
    have twice : (min (min stats.consecutiveFailures.toNat Row.maxStreak : Nat) Row.maxStreak : Int) =
        min (stats.consecutiveFailures.toNat : Int) Row.maxStreak := by omega
    rw [Row.rowOf_eq fits, Row.rowOf_eq cappedFits, capped_streak, twice]
    rfl
  rw [same]
  refine Row.toStats_rowOf cappedFits ?_
  rw [capped_streak]
  exact Nat.min_le_right _ _

/-- **A failure extends the run of failures by one**, up to the largest that has a place in the table. -/
theorem answer_recordFailure {known : Option StreamStats} (read : table.find id = .ok known) (now : Instant)
    (status : ProbeStatus) (error : Option String) :
    ∃ stats, (table.answer now (.recordFailure id status error)).1 = .ok stats ∧
      (table.answer now (.recordFailure id status error)).2.find id = .ok (some stats) ∧
      stats.consecutiveFailures.toNat = min (streakOf known + 1) Row.maxStreak := by
  let first := StreamStats.ofFailure id status error now
  let next (stats : StreamStats) := stats.applyFailure status error now
  have owns : Owns id first next := owns_failure id status error now
  let stats := (recordOf first next known).1
  have fits : stats.metrics.Fits := by
    cases known <;> exact Metrics.fits_empty
  have longer : stats.consecutiveFailures.toNat = min (streakOf known + 1) StreamWatch.maxStreak := by
    cases known with
    | none => exact (StreamStats.blank id status now).applyFailure_streak status error now
    | some old => exact old.applyFailure_streak status error now
  have made : table.answer now (.recordFailure id status error) =
      (.ok (capped stats), SortedMap.insert table id (Row.rowOf stats)) := by
    have told := toStats_written fits
    rw [owns.streamId read] at told
    rw [← told]
    exact record_eq owns read (Row.ofStats_eq_ok fits)
  refine ⟨capped stats, by rw [made], ?_, ?_⟩
  · have told := toStats_written fits
    rw [owns.streamId read] at told
    rw [made, find, SortedMap.get?_insert_self]
    exact congrArg (Except.map some) told
  · have less : Row.maxStreak ≤ StreamWatch.maxStreak := by decide
    rw [capped_streak, longer, Nat.min_assoc, Nat.min_eq_right less]

/-- Whether the run of failures in the row of a stream, if there is one, is over. -/
def IsOver (id : Int) (table : Table) : Prop := ∀ row, table.get? id = some row → row.streak = .integer 0

/-- A reset ends the runs of failures of the streams it names. -/
theorem isOver_reset {ids : List Int} (named : id ∈ ids) (now : Instant) (table : Table) :
    IsOver id (table.answer now (.reset ids)).2 := by
  intro row found
  rw [answer_reset, get?_reset, if_pos named] at found
  obtain ⟨old, -, rfl⟩ := Option.map_eq_some_iff.mp found
  rfl

/-- A run of failures that is over does not begin again without a failure. -/
theorem isOver_answer (isOver : IsOver id table) (calm : call.fails id = false) (now : Instant) :
    IsOver id (table.answer now call).2 := by
  cases named : call.names id with
  | false =>
    intro row found
    rw [get?_answer_of_not_names named] at found
    exact isOver row found
  | true =>
    cases call with
    | recordFailure other =>
      simp only [names, probes, fails, endsRun, Bool.or_false] at named calm
      cases named.symm.trans calm
    | recordSuccess other metrics isBlackScreen =>
      obtain rfl : other = id := by simpa [names, probes, endsRun] using named
      have owns := owns_success other metrics isBlackScreen now
      show IsOver other (table.record other _ _).2
      rw [record_eq_write]
      rcases write_cases table table owns with same | ⟨known, row, -, written, same⟩
      · rw [same]
        exact isOver
      · intro found there
        rw [same, SortedMap.get?_insert_self, Option.some.injEq] at there
        rw [← there, ofStats_streak written]
        cases known <;> rfl
    | reset ids =>
      refine isOver_reset ?_ now table
      simpa [names, probes, endsRun] using named
    | get | getMany | listAll | listByStatus | listStruck => cases named

end Table
end StreamWatch
