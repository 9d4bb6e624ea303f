/-
**What a store in memory keeps.**

* `keyed_answer`, `keyed_after`: a record is always found under the id of its stream;
* `get?_reset`: forgetting runs of failures changes the records of the streams named, each once, and
  no others;
* `strikes_iff`, `mem_struckIds`: the struck streams are those whose run of failures has reached the
  threshold.
-/

import StreamWatch.Store.Memory

namespace StreamWatch

namespace Memory

variable {memory : Memory}

/-! ### Records under their ids -/

/-- Whether every record is found under the id of its stream. -/
def Keyed (memory : Memory) : Prop := ∀ id stats, memory.get? id = some stats → stats.streamId = id

theorem keyed_empty : Keyed .empty := fun _ _ found => nomatch found

theorem Keyed.insert (keyed : memory.Keyed) {id : Int} {stats : StreamStats}
    (own : stats.streamId = id) :
    Keyed (SortedMap.insert memory id stats) := by
  intro other kept found
  by_cases same : other = id
  · subst same
    rw [SortedMap.get?_insert_self, Option.some.injEq] at found
    rw [← found, own]
  · rw [SortedMap.get?_insert_of_ne memory same] at found
    exact keyed other kept found

/-- The records after runs of failures were forgotten: those of the streams named are changed, each
once. -/
theorem get?_reset (memory : Memory) (ids : List Int) (id : Int) :
    (memory.reset ids).get? id =
      if id ∈ ids then (memory.get? id).map StreamStats.resetStreak else memory.get? id := by
  unfold reset
  induction ids generalizing memory with
  | nil => rfl
  | cons first rest ih =>
    rw [List.foldl_cons, ih, SortedMap.get?_modify]
    by_cases here : id = first
    · simp only [here, if_true, List.mem_cons_self, Option.map_map]
      split
      · congr 1
      · rfl
    · simp only [here, if_false, List.mem_cons, false_or, Option.map_id']

theorem Keyed.reset (keyed : memory.Keyed) (ids : List Int) : (memory.reset ids).Keyed := by
  intro id kept found
  rw [get?_reset] at found
  split at found
  · obtain ⟨stats, before, rfl⟩ := Option.map_eq_some_iff.mp found
    exact keyed id stats before
  · exact keyed id kept found

theorem Keyed.streamId_afterSuccess (keyed : memory.Keyed) (now : Instant) (id : Int)
    (metrics : Metrics) (isBlackScreen : Option Bool) :
    (memory.afterSuccess now id metrics isBlackScreen).streamId = id := by
  unfold afterSuccess
  split
  · next stats found => exact keyed id stats found
  · rfl

theorem Keyed.streamId_afterFailure (keyed : memory.Keyed) (now : Instant) (id : Int)
    (status : ProbeStatus) (error : Option String) :
    (memory.afterFailure now id status error).streamId = id := by
  unfold afterFailure
  split
  · next stats found => exact keyed id stats found
  · rfl

/-- **Whatever a store is asked**, it keeps every record under the id of its stream. -/
theorem keyed_answer (keyed : memory.Keyed) (now : Instant) (call : StoreCall) :
    (memory.answer now call).2.Keyed := by
  cases call with
  | recordSuccess id metrics isBlackScreen =>
    exact keyed.insert (keyed.streamId_afterSuccess now id metrics isBlackScreen)
  | recordFailure id status error => exact keyed.insert (keyed.streamId_afterFailure now id status error)
  | reset ids => exact keyed.reset ids
  | get | getMany | listAll | listByStatus | listStruck => exact keyed

/-- The store after some calls, each at its time. -/
def after (calls : List (Instant × StoreCall)) : Memory :=
  calls.foldl (fun memory call => (memory.answer call.1 call.2).2) .empty

/-- Every store that came about by calls keeps its records under the ids of their streams. -/
theorem keyed_after (calls : List (Instant × StoreCall)) : (after calls).Keyed := by
  suffices later : ∀ memory : Memory, memory.Keyed →
      Keyed (calls.foldl (fun memory call => (memory.answer call.1 call.2).2) memory) from
    later .empty keyed_empty
  induction calls with
  | nil => exact fun memory keyed => keyed
  | cons call rest ih => exact fun memory keyed => ih _ (keyed_answer keyed call.1 call.2)

/-! ### Struck streams -/

/-- The streams whose records say that their run of failures has reached a threshold above zero. -/
def struckIds (memory : Memory) (threshold : UInt32) : List Int :=
  (memory.select (isStruck threshold)).map (·.streamId)

/-- Whether the record of a stream says that its run of failures has reached a threshold above zero. -/
def strikes (memory : Memory) (threshold : UInt32) (id : Int) : Bool :=
  (memory.get? id).any (isStruck threshold)

/-- **A stream is struck** when its run of failures has reached a threshold above zero. -/
theorem strikes_iff {threshold : UInt32} {id : Int} :
    memory.strikes threshold id = true ↔
      threshold ≠ 0 ∧ ∃ stats, memory.get? id = some stats ∧ threshold ≤ stats.consecutiveFailures := by
  simp only [strikes, isStruck, Option.any_eq_true, Bool.and_eq_true, bne_iff_ne, decide_eq_true_eq]
  constructor
  · rintro ⟨stats, found, above, reached⟩
    exact ⟨above, stats, found, reached⟩
  · rintro ⟨above, stats, found, reached⟩
    exact ⟨stats, found, above, reached⟩

/-- The struck streams that the store lists are those it strikes. -/
theorem mem_struckIds (keyed : memory.Keyed) {threshold : UInt32} {id : Int} :
    id ∈ memory.struckIds threshold ↔ memory.strikes threshold id = true := by
  simp only [struckIds, select, strikes, List.mem_map, List.mem_filter, SortedMap.mem_values,
    Option.any_eq_true]
  constructor
  · rintro ⟨stats, ⟨⟨key, found⟩, struck⟩, own⟩
    rw [keyed key stats found] at own
    exact ⟨stats, own ▸ found, struck⟩
  · rintro ⟨stats, found, struck⟩
    exact ⟨stats, ⟨⟨id, found⟩, struck⟩, keyed id stats found⟩

theorem contains_struckIds (keyed : memory.Keyed) (threshold : UInt32) :
    (memory.struckIds threshold).contains = memory.strikes threshold := by
  funext id
  rw [Bool.eq_iff_iff, List.contains_iff_mem, mem_struckIds keyed]

/-- A threshold of zero strikes no stream. -/
theorem struckIds_zero (memory : Memory) : memory.struckIds 0 = [] := by
  have none : memory.values.filter (isStruck 0) = [] :=
    List.filter_eq_nil_iff.mpr fun _ _ => by simp [isStruck]
  rw [struckIds, select, none]
  rfl

end Memory
end StreamWatch
