/-
**Forgetting runs of failures.**

The streams whose runs of failures are to be forgotten are named in a list, in which there may be streams without a
record and streams named twice. A table changes all rows named at once and counts them. A store in memory goes through
the list and counts as it goes, so that a record counts as often as its stream is named.

* `SortedMap.touched`: the keys with an entry among those named, each once;
* `countOf_eq`, `length_filter_contains`: what the one store counts, and what the other one does;
* `toStats_withoutStreak`: what is read of a row whose run of failures was forgotten;
* `reset_forgets`: what both stores make of their records, and what they answer.
-/

import Mathlib.Algebra.BigOperators.Group.Finset.Basic
import Mathlib.Algebra.Order.BigOperators.Group.Finset
import StreamWatch.Proofs.Steps
import StreamWatch.Proofs.Store.Memory
import StreamWatch.Store.Table

namespace StreamWatch

/-! ### Counting -/

namespace SortedMap

variable {α : Type} (map : SortedMap Int α) (ids : List Int)

/-- The keys with an entry among those that a list names, each once. -/
def touched : Finset Int := ids.toFinset.filter fun id => map.contains id = true

variable {map ids}

theorem mem_touched {id : Int} : id ∈ map.touched ids ↔ id ∈ ids ∧ ∃ value, map.get? id = some value := by
  rw [touched, Finset.mem_filter, List.mem_toFinset, contains, Option.isSome_iff_exists]

variable (map ids)

/-- The keys named that have an entry count as often as they are named. -/
theorem length_filter_contains : (ids.filter map.contains).length = ∑ id ∈ map.touched ids, ids.count id := by
  have same : (ids.filter map.contains).toFinset = map.touched ids := List.toFinset_filter ids map.contains
  rw [← List.sum_toFinset_count_eq_length, same]
  refine Finset.sum_congr rfl fun id among => ?_
  exact List.count_filter (Finset.mem_filter.mp among).2

/-- They count once each just when none of them is named twice. -/
theorem length_filter_contains_eq_iff :
    (ids.filter map.contains).length = (map.touched ids).card ↔ ∀ id ∈ map.touched ids, ids.count id = 1 := by
  have named : ∀ id ∈ map.touched ids, 1 ≤ ids.count id := fun id among =>
    List.one_le_count_iff.mpr (mem_touched.mp among).1
  rw [length_filter_contains, Finset.card_eq_sum_ones, eq_comm, Finset.sum_eq_sum_iff_of_le named]
  exact forall₂_congr fun _ _ => eq_comm

end SortedMap

/-- The rows that are counted are those of the streams named, each once. -/
theorem Table.countOf_eq (table : Table) (ids : List Int) : table.countOf ids = (table.touched ids).card := by
  let named := SortedMap.filter (fun id _ => ids.contains id) table
  have same : named.keys.toFinset = table.touched ids := by
    refine Finset.ext fun id => ?_
    simp only [named, List.mem_toFinset, SortedMap.mem_keys, SortedMap.get?_filter, Option.filter_eq_some_iff,
      List.contains_iff_mem, SortedMap.mem_touched, exists_and_right]
    exact and_comm
  rw [← same, List.toFinset_card_of_nodup named.keys_nodup, SortedMap.keys, List.length_map]
  rfl

/-! ### Rows -/

/-- What is read of a row whose run of failures was forgotten is what was read of it before, without that run. -/
theorem Row.toStats_withoutStreak {row : Row} {id : Int} {stats : StreamStats} (read : row.toStats id = .ok stats) :
    (Table.withoutStreak row).toStats id = .ok stats.resetStreak := by
  unfold toStats at read ⊢
  obtain ⟨_, status, read⟩ := steps_of_bind_eq_ok read
  obtain ⟨_, resolution, read⟩ := steps_of_bind_eq_ok read
  obtain ⟨_, bitrate, read⟩ := steps_of_bind_eq_ok read
  obtain ⟨_, videoBitrate, read⟩ := steps_of_bind_eq_ok read
  obtain ⟨_, frameRate, read⟩ := steps_of_bind_eq_ok read
  obtain ⟨_, audioChannels, read⟩ := steps_of_bind_eq_ok read
  obtain ⟨_, videoCodec, read⟩ := steps_of_bind_eq_ok read
  obtain ⟨_, audioCodec, read⟩ := steps_of_bind_eq_ok read
  obtain ⟨_, isBlackScreen, read⟩ := steps_of_bind_eq_ok read
  obtain ⟨_, -, read⟩ := steps_of_bind_eq_ok read
  obtain ⟨_, lastError, read⟩ := steps_of_bind_eq_ok read
  obtain ⟨_, probedAt, read⟩ := steps_of_bind_eq_ok read
  obtain ⟨_, known, read⟩ := steps_of_bind_eq_ok read
  cases read
  have ended : Cell.toHalf (.integer 0) = .ok 0 := rfl
  simp only [Table.withoutStreak, status, resolution, bitrate, videoBitrate, frameRate, audioChannels, videoCodec,
    audioCodec, isBlackScreen, ended, lastError, probedAt, known, bind, Except.bind]
  rfl

namespace Table

variable {table : Table} {id : Int}

theorem get?_reset (table : Table) (ids : List Int) (id : Int) :
    (table.reset ids).get? id = if id ∈ ids then (table.get? id).map withoutStreak else table.get? id := by
  rw [reset, SortedMap.get?_mapValues]
  by_cases named : id ∈ ids
  · simp only [List.contains_iff_mem, named, if_true]
  · simp only [List.contains_iff_mem, named, if_false, Option.map_id']

/-- A stream that could be read can be read when its run of failures is forgotten. -/
theorem find_reset {known : Option StreamStats} (read : table.find id = .ok known) (ids : List Int) :
    (table.reset ids).find id = .ok (if id ∈ ids then known.map StreamStats.resetStreak else known) := by
  rw [find] at read ⊢
  rw [get?_reset]
  by_cases named : id ∈ ids
  · rw [if_pos named, if_pos named]
    cases found : table.get? id with
    | none =>
      rw [found] at read
      cases read
      rfl
    | some row =>
      rw [found] at read
      obtain ⟨stats, told, rfl⟩ := map_eq_ok_iff.mp read
      exact congrArg (Except.map some) (Row.toStats_withoutStreak told)
  · rw [if_neg named, if_neg named]
    exact read

/-- Naming no stream at all is naming none that has a row. -/
theorem answer_reset (table : Table) (now : Instant) (ids : List Int) :
    table.answer now (.reset ids) = (.ok (table.touched ids).card, table.reset ids) := by
  rw [answer]
  split
  · next none =>
    have same : table.reset ids = table := SortedMap.ext_get? fun id => by
      rw [get?_reset, List.isEmpty_iff.mp none, if_neg List.not_mem_nil]
    rw [same, List.isEmpty_iff.mp none]
    rfl
  · rw [countOf_eq]

end Table

/-! ### Both stores -/

namespace StoreCall

/-- **What forgetting the runs of failures of some streams comes to**, in memory and in a table. -/
structure Forgets (now : Instant) (ids : List Int) (memory : Memory) (table : Table) : Prop where
  /-- in memory the records of the streams named have no run of failures left, and nothing else is changed -/
  records : ∀ id, (memory.answer now (.reset ids)).2.get? id =
    if id ∈ ids then (memory.get? id).map fun stats => { stats with consecutiveFailures := 0 } else memory.get? id
  /-- nor is anything else changed in the rows of a table -/
  rows : ∀ id, (table.answer now (.reset ids)).2.get? id =
    if id ∈ ids then (table.get? id).map fun row => { row with streak := .integer 0 } else table.get? id
  /-- nor in what is read of them, wherever they can be read -/
  read : ∀ id known, table.find id = .ok known → (table.answer now (.reset ids)).2.find id =
    .ok (if id ∈ ids then known.map fun stats => { stats with consecutiveFailures := 0 } else known)
  /-- a table counts the rows of the streams named, each once -/
  counted : (table.answer now (.reset ids)).1 = .ok (table.touched ids).card
  /-- memory counts a record as often as its stream is named -/
  tallied : (memory.answer now (.reset ids)).1 = .ok (∑ id ∈ memory.touched ids, ids.count id)
  /-- which is right just when no stream with a record is named twice -/
  exact_iff : (memory.answer now (.reset ids)).1 = .ok (memory.touched ids).card ↔
    ∀ id ∈ memory.touched ids, ids.count id = 1

/-- **Both stores forget the runs of failures of the streams named**, of each one that they know, and nothing more. A
table tells how many there were; memory tells how often such a stream was named. -/
theorem reset_forgets (now : Instant) (ids : List Int) (memory : Memory) (table : Table) :
    Forgets now ids memory table where
  records := Memory.get?_reset memory ids
  rows id := by
    rw [Table.answer_reset]
    exact Table.get?_reset table ids id
  read id known read := by
    rw [Table.answer_reset]
    exact Table.find_reset read ids
  counted := by rw [Table.answer_reset]
  tallied := congrArg Except.ok (SortedMap.length_filter_contains memory ids)
  exact_iff := by
    rw [← SortedMap.length_filter_contains_eq_iff]
    exact ⟨Except.ok.inj, congrArg Except.ok⟩

/-- A stream that failed. -/
def oneFailure : StoreCall := .recordFailure 3 .timeout (some "no data")

/-- Its record in memory. -/
def inMemory : Memory := (Memory.answer (.ofParts 5 0) .empty oneFailure).2

/-- Its row in a table. -/
def inTable : Table := (Table.answer (.ofParts 5 0) .empty oneFailure).2

/-- A stream that is named twice, beside one that is not known, is forgiven once, and told of twice by memory. -/
theorem reset_forgets_namedTwice :
    ∃ known stats, inTable.find 3 = .ok (some known) ∧ known.consecutiveFailures = 1 ∧
      (inTable.answer (.ofParts 6 0) (.reset [3, 9, 3])).2.find 3 = .ok (some stats) ∧ stats.consecutiveFailures = 0 ∧
      (inTable.answer (.ofParts 6 0) (.reset [3, 9, 3])).1 = .ok 1 ∧
      (inMemory.answer (.ofParts 6 0) (.reset [3, 9, 3])).1 = .ok 2 := by
  have forgets := reset_forgets (.ofParts 6 0) [3, 9, 3] inMemory inTable
  have found : inTable.find 3 = .ok (some ⟨3, .timeout, {}, none, 1, some "no data", .ofParts 5 0⟩) := rfl
  exact ⟨_, _, found, rfl, forgets.read 3 _ found, rfl, forgets.counted, forgets.tallied⟩

/-- **Memory counts a record twice when its stream is named twice.** -/
theorem not_forall_reset_counts :
    ¬ ∀ (now : Instant) (ids : List Int) (memory : Memory) (table : Table),
      (memory.answer now (.reset ids)).1 = .ok (memory.touched ids).card ∧
        (table.answer now (.reset ids)).1 = .ok (table.touched ids).card := by
  intro counts
  have counted := (counts (.ofParts 6 0) [3, 3] inMemory inTable).1
  exact absurd (Except.ok.inj counted) (by decide)

end StoreCall
end StreamWatch
