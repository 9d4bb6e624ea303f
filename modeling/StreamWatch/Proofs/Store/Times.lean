/-
**A store answers alike under any clock.**

The time of a probe is kept with its outcome and plays no other part. So a store that forgets all
times answers as it did before, but for the times in the answers.

* `StoreCall.untimed`: an answer without the times in it;
* `answer_untimed`: a store without times answers as the store does.
-/

import StreamWatch.Proofs.Store.History

namespace StreamWatch

/-- A record without its time. -/
def StreamStats.untimed (stats : StreamStats) : StreamStats := { stats with lastProbedAt := default }

/-- An answer without the times in it. -/
def StoreCall.untimed : (call : StoreCall) → call.Reply → call.Reply
  | get _, reply => reply.map (Option.map StreamStats.untimed)
  | getMany _, reply => reply.map (List.map StreamStats.untimed)
  | listAll, reply => reply.map (List.map StreamStats.untimed)
  | listByStatus _, reply => reply.map (List.map StreamStats.untimed)
  | listStruck _, reply => reply.map (List.map StreamStats.untimed)
  | recordSuccess .., reply => reply.map StreamStats.untimed
  | recordFailure .., reply => reply.map StreamStats.untimed
  | reset _, reply => reply

/-- What becomes of a record is a matter of time only as far as its time goes. -/
theorem StoreCall.advance_untimed (call : StoreCall) (now : Instant) (id : Int) (known : Option StreamStats) :
    call.advance default id (known.map StreamStats.untimed) = (call.advance now id known).map StreamStats.untimed := by
  cases call with
  | recordSuccess other metrics isBlackScreen =>
    simp only [advance]
    split
    · cases known <;> rfl
    · rfl
  | recordFailure other status error =>
    simp only [advance]
    split
    · cases known <;> rfl
    · rfl
  | reset ids =>
    simp only [advance]
    split
    · cases known <;> rfl
    · rfl
  | get | getMany | listAll | listByStatus | listStruck => rfl

namespace Memory

/-- A store without the times of its records. -/
def untimed (memory : Memory) : Memory := memory.mapValues fun _ stats => stats.untimed

theorem get?_untimed (memory : Memory) (id : Int) :
    memory.untimed.get? id = (memory.get? id).map StreamStats.untimed :=
  SortedMap.get?_mapValues _ memory id

/-- Choosing records by what is no time chooses the same ones without times. -/
theorem values_filter_untimed (memory : Memory) {keep : Int → StreamStats → Bool}
    (timeless : ∀ id stats, keep id stats.untimed = keep id stats) :
    (memory.untimed.filter keep).values = (memory.filter keep).values.map StreamStats.untimed := by
  have chosen : (fun id stats => keep id (StreamStats.untimed stats)) = keep :=
    funext₂ timeless
  rw [untimed, SortedMap.filter_mapValues, SortedMap.values_mapValues, chosen]

theorem select_eq (memory : Memory) (keep : StreamStats → Bool) :
    memory.select keep = (memory.filter fun _ => keep).values := by
  rw [select, SortedMap.values, SortedMap.values, List.filter_map]
  rfl

theorem select_untimed (memory : Memory) {keep : StreamStats → Bool}
    (timeless : ∀ stats, keep (StreamStats.untimed stats) = keep stats) :
    memory.untimed.select keep = (memory.select keep).map StreamStats.untimed := by
  rw [select_eq, select_eq, values_filter_untimed memory fun _ => timeless]

/-- **A store without times answers as the store does**, but for the times in the answer. -/
theorem answer_untimed (memory : Memory) (now : Instant) (call : StoreCall) :
    memory.untimed.answer default call =
      (call.untimed (memory.answer now call).1, (memory.answer now call).2.untimed) := by
  refine Prod.ext ?_ ?_
  · cases call with
    | get id => exact congrArg Except.ok (get?_untimed memory id)
    | getMany ids => exact congrArg Except.ok (values_filter_untimed memory fun _ _ => rfl)
    | listAll => exact congrArg Except.ok (SortedMap.values_mapValues _ memory)
    | listByStatus statuses => exact congrArg Except.ok (select_untimed memory fun _ => rfl)
    | listStruck threshold => exact congrArg Except.ok (select_untimed memory fun _ => rfl)
    | recordSuccess id metrics isBlackScreen =>
      refine congrArg Except.ok ?_
      rw [afterSuccess_eq, afterSuccess_eq, get?_untimed]
      cases memory.get? id <;> rfl
    | recordFailure id status error =>
      refine congrArg Except.ok ?_
      rw [afterFailure_eq, afterFailure_eq, get?_untimed]
      cases memory.get? id <;> rfl
    | reset ids =>
      refine congrArg Except.ok ?_
      rw [untimed, SortedMap.contains_mapValues]
  · refine SortedMap.ext_get? fun id => ?_
    show ((memory.untimed.answer default call).2).get? id = (memory.answer now call).2.untimed.get? id
    rw [get?_answer, get?_untimed, get?_untimed, get?_answer, StoreCall.advance_untimed]

end Memory
end StreamWatch
