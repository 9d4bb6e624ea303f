/-
**A store in a table answers as one in memory does.**

The table that stands for a store in memory holds the row of every record. As long as all records
have a place in the table, a call makes the same of both: the answers are equal, and the table
afterwards stands for the memory afterwards.

* `tableOf`: the table that stands for a store in memory;
* `answer_tableOf`: one call to both;
* `replies_eq`: any number of calls to both.
-/

import StreamWatch.Proofs.Store.Reset
import StreamWatch.Proofs.Store.Row
import StreamWatch.Proofs.Store.Times
import StreamWatch.Store.Table

namespace StreamWatch

/-! ### What has a place in the table -/

/-- Whether a record has a place in the table and is told apart there from longer runs of failures. -/
structure StreamStats.Storable (stats : StreamStats) : Prop where
  fits : stats.metrics.Fits
  short : stats.consecutiveFailures.toNat < Row.maxStreak

/-- Whether a call brings nothing that has no place in the table, and names no stream twice. -/
def StoreCall.Storable : StoreCall → Prop
  | recordSuccess _ metrics _ => metrics.Fits
  | reset ids => ids.Nodup
  | _ => True

/-- Whether every record has a place in the table, under the id of its stream. -/
def Memory.Storable (memory : Memory) : Prop :=
  ∀ id stats, memory.get? id = some stats → stats.streamId = id ∧ stats.Storable

/-! ### Rows -/

namespace Row

theorem toStats_of_found {memory : Memory} (storable : memory.Storable) {id : Int} {stats : StreamStats}
    (found : memory.get? id = some stats) : (rowOf stats).toStats id = .ok stats := by
  obtain ⟨own, fits, short⟩ := storable id stats found
  rw [← own]
  exact toStats_rowOf fits short.le

theorem withoutStreak_rowOf {stats : StreamStats} (fits : stats.metrics.Fits) :
    Table.withoutStreak (rowOf stats) = rowOf stats.resetStreak := by
  have same : stats.resetStreak.metrics.Fits := fits
  rw [rowOf_eq fits, rowOf_eq same]
  rfl

theorem status_rowOf {stats : StreamStats} (fits : stats.metrics.Fits) (status : ProbeStatus) :
    ((rowOf stats).status == .text status.name) = (status == stats.status) := by
  rw [rowOf_eq fits]
  cases stats.status <;> cases status <;> rfl

/-- A bound beyond the column is as good as the largest number in it: no run of failures gets there. -/
theorem isStruck_rowOf {stats : StreamStats} (storable : stats.Storable) {threshold : UInt32}
    (above : threshold ≠ 0) :
    Table.isStruck threshold (rowOf stats) = Memory.isStruck threshold stats := by
  have short := storable.short
  rw [Table.isStruck, rowOf_eq storable.fits, Memory.isStruck, Bool.eq_iff_iff]
  simp only [Cell.reaches, decide_eq_true_eq, Bool.and_eq_true, bne_iff_ne, UInt32.le_iff_toNat_le]
  constructor
  · intro reached
    exact ⟨above, by omega⟩
  · rintro ⟨-, reached⟩
    omega

end Row

namespace Memory

variable {memory : Memory}

/-- The table that stands for a store in memory. -/
def tableOf (memory : Memory) : Table := memory.mapValues fun _ => Row.rowOf

theorem get?_tableOf (memory : Memory) (id : Int) :
    (tableOf memory).get? id = (memory.get? id).map Row.rowOf :=
  SortedMap.get?_mapValues _ memory id

theorem contains_tableOf (memory : Memory) (id : Int) :
    (tableOf memory).contains id = (memory.get? id).isSome :=
  congrFun (SortedMap.contains_mapValues _ memory) id

theorem Storable.filter (storable : memory.Storable) (keep : Int → StreamStats → Bool) :
    Storable (SortedMap.filter keep memory) :=
  fun id stats found => storable id stats (SortedMap.get?_of_get?_filter found)

/-! ### Reading -/

theorem find_tableOf (storable : memory.Storable) (id : Int) :
    (tableOf memory).find id = .ok (memory.get? id) := by
  rw [Table.find, get?_tableOf]
  cases found : memory.get? id with
  | none => rfl
  | some stats =>
    have read := Row.toStats_of_found storable found
    exact congrArg (Except.map some) read

theorem mapM_eq_ok {ε α β : Type} {f : α → Except ε β} {g : α → β} {list : List α}
    (each : ∀ a ∈ list, f a = .ok (g a)) : list.mapM f = .ok (list.map g) := by
  induction list with
  | nil => rfl
  | cons head rest ih =>
    have first := each head List.mem_cons_self
    have later := ih fun a member => each a (List.mem_cons_of_mem _ member)
    rw [List.mapM_cons, first, later]
    rfl

/-- Choosing rows is choosing the records they were written from. -/
theorem select_tableOf (storable : memory.Storable) {keep : Int → Row → Bool}
    {choose : Int → StreamStats → Bool}
    (same : ∀ id stats, memory.get? id = some stats → keep id (Row.rowOf stats) = choose id stats) :
    (tableOf memory).select keep = .ok (SortedMap.filter choose memory).values := by
  have chosen : SortedMap.filter keep (tableOf memory) = tableOf (SortedMap.filter choose memory) := by
    rw [tableOf, SortedMap.filter_mapValues, tableOf]
    exact congrArg _ (SortedMap.filter_congr same)
  have readable := storable.filter choose
  rw [Table.select, chosen, tableOf, SortedMap.mapValues, List.mapM_map]
  refine mapM_eq_ok fun entry member => ?_
  exact Row.toStats_of_found readable ((SortedMap.get?_eq_some_iff _ entry.1 entry.2).mpr member)

/-- Not even looking where nothing would be chosen makes no difference. -/
theorem select_unless_tableOf (storable : memory.Storable) {idle : Prop} [Decidable idle]
    {keep : Int → Row → Bool} {choose : Int → StreamStats → Bool}
    (same : ¬ idle → ∀ id stats, memory.get? id = some stats →
      keep id (Row.rowOf stats) = choose id stats)
    (none : idle → ∀ id stats, choose id stats = false) :
    (if idle then .ok [] else (tableOf memory).select keep) =
      .ok (SortedMap.filter choose memory).values := by
  split
  · next nothing =>
    have empty : memory.entries.filter (fun entry => choose entry.1 entry.2) = [] :=
      List.filter_eq_nil_iff.mpr fun entry _ => by simp [none nothing]
    simp only [SortedMap.filter, SortedMap.values, empty, List.map_nil]
  · next something => exact select_tableOf storable (same something)

/-! ### Writing -/

theorem reset_tableOf (storable : memory.Storable) (ids : List Int) :
    (tableOf memory).reset ids = tableOf (memory.reset ids) := by
  refine SortedMap.ext_get? fun id => ?_
  rw [Table.get?_reset, get?_tableOf, get?_tableOf, get?_reset]
  cases found : memory.get? id with
  | none => simp
  | some stats =>
    have forgotten := Row.withoutStreak_rowOf (storable id stats found).2.fits
    by_cases named : id ∈ ids
    · simp [named, forgotten]
    · simp [named]

/-- The streams named that have a row are those that have a record. -/
theorem touched_tableOf (memory : Memory) (ids : List Int) : (tableOf memory).touched ids = memory.touched ids := by
  rw [SortedMap.touched, SortedMap.touched, tableOf, SortedMap.contains_mapValues]

/-- What is written for a stream is a row like that of its next record. -/
theorem record_tableOf (storable : memory.Storable) {id : Int} {first : StreamStats}
    {next : StreamStats → StreamStats} {stats : StreamStats}
    (record : (Table.recordOf first next (memory.get? id)).1 = stats)
    (own : stats.streamId = id) (written : stats.Storable) :
    (tableOf memory).record id first next = (.ok stats, tableOf (SortedMap.insert memory id stats)) := by
  have row : Row.ofStats stats = .ok (Row.rowOf stats) := Row.ofStats_eq_ok written.fits
  have back : (Row.rowOf stats).toStats id = .ok stats := by
    rw [← own]
    exact Row.toStats_rowOf written.fits written.short.le
  have table : SortedMap.insert (tableOf memory) id (Row.rowOf stats) =
      tableOf (SortedMap.insert memory id stats) := (SortedMap.mapValues_insert _ memory id stats).symm
  have taken := contains_tableOf memory id
  rw [Table.record, find_tableOf storable]
  cases found : memory.get? id with
  | none =>
    rw [found] at record taken
    simp only [Table.recordOf] at record ⊢
    rw [Table.save]
    simp [record, row, Table.insert, own, taken, back, table]
  | some known =>
    rw [found] at record taken
    simp only [Table.recordOf] at record ⊢
    rw [Table.save]
    simp [record, row, Table.update, own, taken, back, table]

/-! ### One call -/

/-- **A call makes the same of a table as of the memory it stands for**, when all records have a place
in the table before and afterwards. -/
theorem answer_tableOf (storable : memory.Storable) (now : Instant) {call : StoreCall}
    (brings : call.Storable) (later : (memory.answer now call).2.Storable) :
    (tableOf memory).answer now call =
      ((memory.answer now call).1, tableOf (memory.answer now call).2) := by
  cases call with
  | get id => exact congrArg (·, tableOf memory) (find_tableOf storable id)
  | getMany ids =>
    refine congrArg (·, tableOf memory) (select_unless_tableOf storable (fun _ _ _ _ => rfl) ?_)
    intro none id stats
    rw [List.isEmpty_iff.mp none]
    rfl
  | listAll =>
    have all : SortedMap.filter (fun _ _ => true) memory = memory := by
      simp only [SortedMap.filter, List.filter_true]
    have read : (tableOf memory).select (fun _ _ => true) =
        .ok (SortedMap.filter (fun _ _ => true) memory).values :=
      select_tableOf storable fun _ _ _ => rfl
    rw [all] at read
    exact congrArg (·, tableOf memory) read
  | listByStatus statuses =>
    have chosen := select_eq memory fun stats => statuses.contains stats.status
    refine congrArg (·, tableOf memory) (.trans ?_ (congrArg Except.ok chosen.symm))
    refine select_unless_tableOf storable (fun _ id stats found => ?_) fun none id stats => ?_
    · have fits := (storable id stats found).2.fits
      simp only [Row.status_rowOf fits, List.any_beq']
    · rw [List.isEmpty_iff.mp none]
      rfl
  | listStruck threshold =>
    have chosen := select_eq memory (isStruck threshold)
    refine congrArg (·, tableOf memory) (.trans ?_ (congrArg Except.ok chosen.symm))
    refine select_unless_tableOf storable (fun above id stats found => ?_) fun zero id stats => ?_
    · exact Row.isStruck_rowOf (storable id stats found).2 above
    · rw [zero]
      rfl
  | recordSuccess id metrics isBlackScreen =>
    have found : (SortedMap.insert memory id (memory.afterSuccess now id metrics isBlackScreen)).get? id =
        some (memory.afterSuccess now id metrics isBlackScreen) := SortedMap.get?_insert_self _ id _
    obtain ⟨own, written⟩ := later id _ found
    refine record_tableOf storable ?_ own written
    unfold afterSuccess
    cases memory.get? id <;> rfl
  | recordFailure id status error =>
    have found : (SortedMap.insert memory id (memory.afterFailure now id status error)).get? id =
        some (memory.afterFailure now id status error) := SortedMap.get?_insert_self _ id _
    obtain ⟨own, written⟩ := later id _ found
    refine record_tableOf storable ?_ own written
    unfold afterFailure
    cases memory.get? id <;> rfl
  | reset ids =>
    have once : ∀ id ∈ memory.touched ids, ids.count id = 1 := fun id among =>
      List.count_eq_one_of_mem brings (SortedMap.mem_touched.mp among).1
    have counted := (SortedMap.length_filter_contains_eq_iff memory ids).mpr once
    rw [Table.answer_reset, reset_tableOf storable, touched_tableOf, ← counted]
    rfl

end Memory

namespace StoreCall

/-- Whether the list in an answer, if it is one, is by ascending ids. -/
def Ascending : (call : StoreCall) → call.Reply → Prop
  | getMany _, reply | listAll, reply | listByStatus _, reply | listStruck _, reply =>
    ∀ list, reply = .ok list → (list.map (·.streamId)).Pairwise (· < ·)
  | _, _ => True

theorem ascending_answer {memory : Memory} (keyed : memory.Keyed) (now : Instant) (call : StoreCall) :
    call.Ascending (memory.answer now call).1 := by
  cases call with
  | getMany ids =>
    rintro list ⟨⟩
    have chosen : Memory.Keyed (SortedMap.filter (fun id _ => ids.contains id) memory) :=
      fun id stats found => keyed id stats (SortedMap.get?_of_get?_filter found)
    exact chosen.ascending_values
  | listAll =>
    rintro list ⟨⟩
    exact keyed.ascending_values
  | listByStatus | listStruck =>
    rintro list ⟨⟩
    exact keyed.ascending_select _
  | get | recordSuccess | recordFailure | reset => exact trivial

/-! ### Any number of calls -/

/-- What a store answers some calls with, one after the other. -/
def replies {σ : Type} (answer : Instant → σ → (call : StoreCall) → call.Reply × σ) :
    σ → List (Instant × StoreCall) → List ((call : StoreCall) × call.Reply)
  | _, [] => []
  | store, (now, call) :: rest =>
    ⟨call, (answer now store call).1⟩ :: replies answer (answer now store call).2 rest

/-- An answer with its call, without the times in it. -/
def untimedReply (reply : (call : StoreCall) × call.Reply) : (call : StoreCall) × call.Reply :=
  ⟨reply.1, reply.1.untimed reply.2⟩

theorem fits_of_tells {stats : StreamStats} {now : Instant} {call : StoreCall}
    (tells : Memory.Tells stats now call) (brings : call.Storable) : stats.metrics.Fits := by
  cases call with
  | recordSuccess id metrics isBlackScreen =>
    obtain ⟨-, same, -⟩ := tells
    rw [same]
    exact brings
  | recordFailure id status error =>
    obtain ⟨-, none, -⟩ := tells
    rw [none]
    exact Metrics.fits_empty
  | get | getMany | listAll | listByStatus | listStruck | reset => exact tells.elim

/-- A store has a place in the table when all that came into it has, and no run of failures is too
long. -/
theorem storable_after {calls : List (Instant × StoreCall)}
    (brought : ∀ call ∈ calls, call.2.Storable)
    (short : ∀ id, Memory.failureRun calls id < Row.maxStreak) : (Memory.after calls).Storable := by
  intro id stats found
  have standing := Memory.standing_after calls id
  rw [found] at standing
  obtain ⟨own, streak, now, call, latest, tells⟩ := standing
  have member := (List.mem_filter.mp (List.mem_of_getLast? latest)).1
  have few := short id
  exact ⟨own, fits_of_tells tells (brought (now, call) member), by omega⟩

/-- A table and the memory it stands for answer any further calls alike. -/
theorem replies_tableOf (before rest : List (Instant × StoreCall))
    (brought : ∀ call ∈ before ++ rest, call.2.Storable)
    (short : ∀ seen, seen <+: before ++ rest → ∀ id, Memory.failureRun seen id < Row.maxStreak) :
    replies Table.answer (Memory.tableOf (Memory.after before)) rest =
      replies Memory.answer (Memory.after before) rest := by
  induction rest generalizing before with
  | nil => rfl
  | cons call rest ih =>
    have moved : before ++ call :: rest = before ++ [call] ++ rest := by simp
    rw [moved] at brought short
    have storable : (Memory.after before).Storable :=
      storable_after (fun other member => brought other (by simp [member]))
        (short before ((List.prefix_append _ _).trans (List.prefix_append _ _)))
    have later : (Memory.after (before ++ [call])).Storable :=
      storable_after (fun other member => brought other (List.mem_append_left _ member))
        (short (before ++ [call]) (List.prefix_append _ _))
    have brings : call.2.Storable := brought call (by simp)
    have next := ih (before ++ [call]) brought short
    rw [Memory.after_concat] at later next
    have step := Memory.answer_tableOf storable call.1 brings later
    rw [replies, replies, step, next]

/-- Times are all that a store's clock adds to its answers. -/
theorem replies_untimed (memory : Memory) (calls : List (Instant × StoreCall)) :
    (replies Memory.answer memory calls).map untimedReply =
      replies Memory.answer memory.untimed (calls.map fun call => (default, call.2)) := by
  induction calls generalizing memory with
  | nil => rfl
  | cons call rest ih =>
    rw [List.map_cons, replies, replies, List.map_cons, ih, Memory.answer_untimed]
    rfl

theorem ascending_replies {memory : Memory} (keyed : memory.Keyed) (calls : List (Instant × StoreCall)) :
    ∀ reply ∈ replies Memory.answer memory calls, reply.1.Ascending reply.2 := by
  induction calls generalizing memory with
  | nil => exact fun _ none => nomatch none
  | cons call rest ih =>
    intro reply member
    rcases List.mem_cons.mp member with first | later
    · rw [first]
      exact ascending_answer keyed call.1 call.2
    · exact ih (Memory.keyed_answer keyed call.1 call.2) reply later

/-- **A store in a table answers as one in memory does.** Whatever the calls are, each store by its own
clock, the answers are the same one by one, but for the times in them, and all lists are by ascending
ids. What is brought has to have a place in the table, and no run of failures may become as long as the
longest one that does. -/
theorem replies_table_eq_replies_memory {first second : List (Instant × StoreCall)}
    (same : first.map (·.2) = second.map (·.2)) (brought : ∀ call ∈ first, call.2.Storable)
    (short : ∀ seen, seen <+: first → ∀ id, Memory.failureRun seen id < Row.maxStreak) :
    (replies Table.answer .empty first).map untimedReply =
        (replies Memory.answer .empty second).map untimedReply ∧
      ∀ reply ∈ replies Table.answer .empty first ++ replies Memory.answer .empty second,
        reply.1.Ascending reply.2 := by
  have alike : replies Table.answer .empty first = replies Memory.answer .empty first :=
    replies_tableOf [] first brought short
  have clockless : first.map (fun call => ((default : Instant), call.2)) =
      second.map fun call => (default, call.2) := by
    have paired := congrArg (List.map fun call => ((default : Instant), call)) same
    rwa [List.map_map, List.map_map] at paired
  rw [alike]
  constructor
  · rw [replies_untimed, replies_untimed, clockless]
  · intro reply member
    rcases List.mem_append.mp member with table | memory
    · exact ascending_replies Memory.keyed_empty first reply table
    · exact ascending_replies Memory.keyed_empty second reply memory

/-- Two streams that fail, one of which recovers and the other of which is forgiven. -/
def twoStreams (now : Instant) : List (Instant × StoreCall) :=
  [.recordFailure 7 .timeout (some "no data"), .recordFailure 3 .failed none, .recordFailure 7 .failed none,
    .recordSuccess 3 { resolution := some "1920x1080", bitrate := some 4500, audioChannels := some 2 } (some true),
    .listStruck 2, .listStruck 4000000000, .listByStatus [.failed, .success], .reset [9, 7], .getMany [7, 3, 5],
    .listAll].map (now, ·)

theorem failureRun_le_length (calls : List (Instant × StoreCall)) (id : Int) :
    Memory.failureRun calls id ≤ calls.length :=
  List.countP_le_length.trans (List.rtakeWhile_suffix _ calls).length_le

theorem fits_of_twoStreams :
    Metrics.Fits { resolution := some "1920x1080", bitrate := some 4500, audioChannels := some 2 } where
  bitrate := by
    rintro n ⟨⟩
    show (4500 : UInt64).toNat < Number.signedBound
    simp [Number.signedBound]
  videoBitrate := nofun
  frameRate := nofun
  audioChannels := by
    rintro n ⟨⟩
    show (2 : UInt32).toNat < Number.signedHalfBound
    simp [Number.signedHalfBound]

theorem storable_of_mem_twoStreams {now : Instant} : ∀ call ∈ twoStreams now, call.2.Storable := by
  simp [twoStreams, Storable, fits_of_twoStreams]

/-- Two stores by their own clocks answer alike, and have something to answer. -/
theorem replies_twoStreams :
    (replies Table.answer .empty (twoStreams ⟨5, 0⟩)).map untimedReply =
        (replies Memory.answer .empty (twoStreams ⟨8, 0⟩)).map untimedReply ∧
      (replies Table.answer .empty (twoStreams ⟨5, 0⟩))[7]? = some ⟨.reset [9, 7], .ok 1⟩ := by
  refine ⟨(replies_table_eq_replies_memory rfl storable_of_mem_twoStreams ?_).1, rfl⟩
  intro seen part id
  have few := failureRun_le_length seen id
  have fewer := part.length_le
  have ten : (twoStreams ⟨5, 0⟩).length = 10 := rfl
  have many : 10 < Row.maxStreak := by decide
  omega

end StoreCall
end StreamWatch
