/-
**What a record says of the past.**

A call makes of each record what it makes of that record alone. So a record is a matter of the calls
that name its stream: it tells the outcome of the latest probe, and how many probes have failed since
the last success or the last time its run of failures was forgotten.

* `get?_answer`: what a call makes of the record of one stream;
* `failureRun`: the failures of a stream since its run of failures ended last;
* `Recalls`: what a record says after some calls;
* `after_recalls`: a store keeps such records, of the streams that were probed and of no others.
-/

import Mathlib.Data.List.DropRight
import StreamWatch.Proofs.Store.Memory

namespace StreamWatch

namespace StoreCall

/-- Whether a call keeps the outcome of a probe of a stream. -/
def probes (id : Int) : StoreCall → Bool
  | recordSuccess other .. | recordFailure other .. => other == id
  | _ => false

/-- Whether a call keeps the outcome of a probe of a stream that failed. -/
def fails (id : Int) : StoreCall → Bool
  | recordFailure other .. => other == id
  | _ => false

/-- Whether a call ends the run of failures of a stream. -/
def endsRun (id : Int) : StoreCall → Bool
  | recordSuccess other .. => other == id
  | reset ids => ids.contains id
  | _ => false

/-- Whether a call may change what is kept of a stream. -/
def names (id : Int) (call : StoreCall) : Bool := call.probes id || call.endsRun id

theorem probes_of_fails {id : Int} {call : StoreCall} (fails : call.fails id = true) :
    call.probes id = true := by
  cases call with
  | recordFailure => exact fails
  | _ => exact nomatch fails

/-- What a call makes of the record of a stream. -/
def advance (now : Instant) (id : Int) (known : Option StreamStats) : StoreCall → Option StreamStats
  | recordSuccess other metrics isBlackScreen =>
    if other = id then
      some ((known.getD (.blank id .success now)).applySuccess metrics isBlackScreen now)
    else known
  | recordFailure other status error =>
    if other = id then some ((known.getD (.blank id status now)).applyFailure status error now)
    else known
  | reset ids => if id ∈ ids then known.map StreamStats.resetStreak else known
  | _ => known

theorem advance_of_not_names {id : Int} {call : StoreCall} (others : call.names id = false)
    (now : Instant) (known : Option StreamStats) : call.advance now id known = known := by
  rw [names, Bool.or_eq_false_iff] at others
  obtain ⟨unprobed, unended⟩ := others
  cases call with
  | recordSuccess other | recordFailure other =>
    exact if_neg fun same => by simp [probes, same] at unprobed
  | reset ids => exact if_neg fun named => by simp [endsRun, named] at unended
  | get | getMany | listAll | listByStatus | listStruck => rfl

end StoreCall

namespace Memory

variable {memory : Memory}

/-! ### One record -/

theorem afterSuccess_eq (memory : Memory) (now : Instant) (id : Int) (metrics : Metrics)
    (isBlackScreen : Option Bool) :
    memory.afterSuccess now id metrics isBlackScreen =
      ((memory.get? id).getD (.blank id .success now)).applySuccess metrics isBlackScreen now := by
  unfold afterSuccess
  cases memory.get? id <;> rfl

theorem afterFailure_eq (memory : Memory) (now : Instant) (id : Int) (status : ProbeStatus)
    (error : Option String) :
    memory.afterFailure now id status error =
      ((memory.get? id).getD (.blank id status now)).applyFailure status error now := by
  unfold afterFailure
  cases memory.get? id <;> rfl

theorem get?_insert (memory : Memory) (id other : Int) (stats : StreamStats) :
    (SortedMap.insert memory other stats).get? id =
      if other = id then some stats else memory.get? id := by
  split
  · next same => rw [same, SortedMap.get?_insert_self]
  · next differ => exact SortedMap.get?_insert_of_ne memory (Ne.symm differ) stats

/-- **A call makes of each record what it makes of that record alone.** -/
theorem get?_answer (memory : Memory) (now : Instant) (call : StoreCall) (id : Int) :
    (memory.answer now call).2.get? id = call.advance now id (memory.get? id) := by
  cases call with
  | recordSuccess other metrics isBlackScreen =>
    show (SortedMap.insert memory other _).get? id = _
    rw [get?_insert, afterSuccess_eq, StoreCall.advance]
    split
    · next same => rw [same]
    · rfl
  | recordFailure other status error =>
    show (SortedMap.insert memory other _).get? id = _
    rw [get?_insert, afterFailure_eq, StoreCall.advance]
    split
    · next same => rw [same]
    · rfl
  | reset ids => exact get?_reset memory ids id
  | get | getMany | listAll | listByStatus | listStruck => rfl

theorem after_concat (calls : List (Instant × StoreCall)) (call : Instant × StoreCall) :
    after (calls ++ [call]) = ((after calls).answer call.1 call.2).2 := by
  rw [after, List.foldl_append]
  rfl

/-- Calls that do not name a stream do not show in its record. -/
theorem get?_after_filter (calls : List (Instant × StoreCall)) (id : Int) :
    (after (calls.filter fun call => call.2.names id)).get? id = (after calls).get? id := by
  induction calls using List.reverseRecOn with
  | nil => rfl
  | append_singleton before call ih =>
    rw [List.filter_append, List.filter_singleton, after_concat, get?_answer]
    cases named : call.2.names id with
    | true => rw [cond_true, after_concat, get?_answer, ih]
    | false => rw [cond_false, List.append_nil, ih, StoreCall.advance_of_not_names named]

/-! ### The past of a stream -/

/-- The failures of a stream since its run of failures ended last. -/
def failureRun (calls : List (Instant × StoreCall)) (id : Int) : Nat :=
  (calls.rtakeWhile fun call => !call.2.endsRun id).countP fun call => call.2.fails id

/-- The latest probe of a stream. -/
def latestProbe? (calls : List (Instant × StoreCall)) (id : Int) : Option (Instant × StoreCall) :=
  (calls.filter fun call => call.2.probes id).getLast?

theorem failureRun_concat (calls : List (Instant × StoreCall)) (call : Instant × StoreCall) (id : Int) :
    failureRun (calls ++ [call]) id =
      if call.2.endsRun id then 0 else failureRun calls id + if call.2.fails id then 1 else 0 := by
  rw [failureRun, List.rtakeWhile_concat]
  cases ends : call.2.endsRun id with
  | true => rfl
  | false => simp [failureRun, List.countP_append, List.countP_singleton]

theorem latestProbe?_concat (calls : List (Instant × StoreCall)) (call : Instant × StoreCall) (id : Int) :
    latestProbe? (calls ++ [call]) id = if call.2.probes id then some call else latestProbe? calls id := by
  rw [latestProbe?, List.filter_append, List.filter_singleton]
  cases call.2.probes id with
  | true => simp
  | false => simp [latestProbe?]

/-- A stream that was never probed has no run of failures. -/
theorem failureRun_of_unprobed {calls : List (Instant × StoreCall)} {id : Int}
    (unprobed : ∀ call ∈ calls, call.2.probes id = false) : failureRun calls id = 0 := by
  refine List.countP_eq_zero.mpr fun call member fails => ?_
  have kept := (List.rtakeWhile_suffix _ calls).subset member
  have probed := StoreCall.probes_of_fails fails
  rw [unprobed call kept] at probed
  exact nomatch probed

/-- Whether a record tells the outcome of a probe, and nothing of what was learned before it. -/
def Tells (stats : StreamStats) (now : Instant) : StoreCall → Prop
  | .recordSuccess _ metrics isBlackScreen =>
    stats.status = .success ∧ stats.metrics = metrics ∧ stats.isBlackScreen = isBlackScreen ∧
      stats.lastError = none ∧ stats.lastProbedAt = now
  | .recordFailure _ status error =>
    stats.status = status ∧ stats.metrics = {} ∧ stats.isBlackScreen = none ∧
      stats.lastError = error ∧ stats.lastProbedAt = now
  | _ => False

theorem Tells.resetStreak {stats : StreamStats} {now : Instant} {call : StoreCall}
    (tells : Tells stats now call) : Tells stats.resetStreak now call := by
  cases call with
  | recordSuccess | recordFailure => exact tells
  | get | getMany | listAll | listByStatus | listStruck | reset => exact tells.elim

/-- **What a record says after some calls.** -/
structure Recalls (calls : List (Instant × StoreCall)) (id : Int) (stats : StreamStats) : Prop where
  own : stats.streamId = id
  /-- its run of failures is that of the stream, up to the largest number that is counted -/
  streak : stats.consecutiveFailures.toNat = min (failureRun calls id) maxStreak
  /-- everything else is the outcome of the latest probe alone -/
  latest : ∃ now call, latestProbe? calls id = some (now, call) ∧ Tells stats now call

/-- What is kept of a stream after some calls: nothing unless it was probed. -/
def Standing (calls : List (Instant × StoreCall)) (id : Int) : Option StreamStats → Prop
  | none => ∀ call ∈ calls, call.2.probes id = false
  | some stats => Recalls calls id stats

section
variable {calls : List (Instant × StoreCall)} {id : Int} {known : Option StreamStats}

/-- What one more failure is added to. -/
theorem Standing.streak (standing : Standing calls id known) (status : ProbeStatus) (now : Instant) :
    (known.getD (.blank id status now)).consecutiveFailures.toNat =
      min (failureRun calls id) maxStreak := by
  cases known with
  | none => rw [failureRun_of_unprobed standing]; rfl
  | some stats => exact Recalls.streak standing

theorem Standing.own (standing : Standing calls id known) (status : ProbeStatus) (now : Instant) :
    (known.getD (.blank id status now)).streamId = id := by
  cases known with
  | none => rfl
  | some stats => exact Recalls.own standing

/-- A call that does not name the stream is no part of its past. -/
theorem Standing.pass (standing : Standing calls id known) {call : Instant × StoreCall}
    (unprobed : call.2.probes id = false) (unended : call.2.endsRun id = false) :
    Standing (calls ++ [call]) id known := by
  have unfailed : call.2.fails id = false :=
    Bool.eq_false_iff.mpr fun fails => by simp [StoreCall.probes_of_fails fails] at unprobed
  cases known with
  | none =>
    intro other member
    rcases List.mem_append.mp member with earlier | last
    · exact standing other earlier
    · rw [List.mem_singleton.mp last]
      exact unprobed
  | some stats =>
    obtain ⟨own, streak, latest⟩ := standing
    refine ⟨own, ?_, ?_⟩
    · simpa [failureRun_concat, unended, unfailed] using streak
    · simpa [latestProbe?_concat, unprobed] using latest

/-- **Whatever the next call is**, what it makes of a record is what that record says of one call
more. -/
theorem Standing.advance (standing : Standing calls id known) (now : Instant) (call : StoreCall) :
    Standing (calls ++ [(now, call)]) id (call.advance now id known) := by
  cases call with
  | recordSuccess other metrics isBlackScreen =>
    by_cases same : other = id
    · subst same
      rw [StoreCall.advance, if_pos rfl]
      refine ⟨standing.own .success now, ?_, now, .recordSuccess other metrics isBlackScreen, ?_,
        rfl, rfl, rfl, rfl, rfl⟩
      · rw [failureRun_concat]
        simp [StoreCall.endsRun]
      · simp [latestProbe?_concat, StoreCall.probes]
    · rw [StoreCall.advance, if_neg same]
      exact standing.pass (by simp [StoreCall.probes, same]) (by simp [StoreCall.endsRun, same])
  | recordFailure other status error =>
    by_cases same : other = id
    · subst same
      rw [StoreCall.advance, if_pos rfl]
      refine ⟨standing.own status now, ?_, now, .recordFailure other status error, ?_,
        rfl, rfl, rfl, rfl, rfl⟩
      · rw [StreamStats.applyFailure_streak, standing.streak status now, failureRun_concat]
        simp only [StoreCall.endsRun, StoreCall.fails, beq_self_eq_true, if_true]
        show min (min _ _ + 1) _ = min (_ + 1) _
        omega
      · simp [latestProbe?_concat, StoreCall.probes]
    · rw [StoreCall.advance, if_neg same]
      exact standing.pass (by simp [StoreCall.probes, same]) rfl
  | reset ids =>
    by_cases named : id ∈ ids
    · rw [StoreCall.advance, if_pos named]
      cases known with
      | none =>
        intro other member
        rcases List.mem_append.mp member with earlier | last
        · exact standing other earlier
        · rw [List.mem_singleton.mp last]
          rfl
      | some stats =>
        obtain ⟨own, streak, time, probe, latest, tells⟩ := standing
        refine ⟨own, ?_, time, probe, ?_, tells.resetStreak⟩
        · rw [failureRun_concat]
          simp [StoreCall.endsRun, named, StreamStats.resetStreak]
        · simpa [latestProbe?_concat, StoreCall.probes] using latest
    · rw [StoreCall.advance, if_neg named]
      exact standing.pass rfl (by simp [StoreCall.endsRun, named])
  | get | getMany | listAll | listByStatus | listStruck => exact standing.pass rfl rfl

end

theorem standing_after (calls : List (Instant × StoreCall)) (id : Int) :
    Standing calls id ((after calls).get? id) := by
  induction calls using List.reverseRecOn with
  | nil => exact fun _ none => nomatch none
  | append_singleton before call ih =>
    rw [after_concat, get?_answer]
    exact ih.advance call.1 call.2

/-! ### Lists and the struck streams -/

theorem Keyed.map_streamId_values (keyed : memory.Keyed) :
    memory.values.map (·.streamId) = memory.keys := by
  rw [SortedMap.values, SortedMap.keys, List.map_map]
  refine List.map_congr_left fun entry member => ?_
  exact keyed entry.1 entry.2 ((SortedMap.get?_eq_some_iff memory entry.1 entry.2).mpr member)

theorem Keyed.ascending_values (keyed : memory.Keyed) :
    (memory.values.map (·.streamId)).Pairwise (· < ·) := by
  rw [keyed.map_streamId_values]
  exact memory.keys_pairwise

theorem Keyed.ascending_select (keyed : memory.Keyed) (keep : StreamStats → Bool) :
    ((memory.select keep).map (·.streamId)).Pairwise (· < ·) :=
  keyed.ascending_values.sublist (List.filter_sublist.map _)

/-- **A stream is struck** when as many probes of it as a threshold above zero have failed since its
run of failures ended last. -/
theorem mem_struckIds_after {calls : List (Instant × StoreCall)} {threshold : UInt32} {id : Int} :
    id ∈ (after calls).struckIds threshold ↔ threshold ≠ 0 ∧ threshold.toNat ≤ failureRun calls id := by
  have standing := standing_after calls id
  have countable : threshold.toNat ≤ maxStreak := Nat.le_of_lt_succ threshold.toNat_lt
  rw [mem_struckIds (keyed_after calls), strikes_iff]
  refine and_congr_right fun above => ?_
  have positive : threshold.toNat ≠ 0 := fun zero => above (UInt32.toNat_inj.mp zero)
  cases found : (after calls).get? id with
  | none =>
    rw [found] at standing
    rw [failureRun_of_unprobed standing]
    exact ⟨fun ⟨stats, missing, _⟩ => (nomatch missing),
      fun reached => absurd (Nat.le_zero.mp reached) positive⟩
  | some stats =>
    rw [found] at standing
    have streak := Recalls.streak standing
    simp only [Option.some.injEq, exists_eq_left', UInt32.le_iff_toNat_le]
    omega

/-! ### The whole -/

/-- **A store keeps what its calls tell.** It has a record of the streams that were probed, and of no
others. A record says what came of the latest probe of its stream, with the failures since its run of
failures ended last, whatever was called about other streams. The struck streams are those with so
many failures, by ascending id; a threshold of zero strikes none. -/
theorem after_recalls (calls : List (Instant × StoreCall)) :
    (∀ id, (∃ stats, (after calls).get? id = some stats) ↔ ∃ call ∈ calls, call.2.probes id = true) ∧
      (∀ id stats, (after calls).get? id = some stats → Recalls calls id stats) ∧
      (∀ id, (after (calls.filter fun call => call.2.names id)).get? id = (after calls).get? id) ∧
      ∀ now threshold, ∃ struck, ((after calls).answer now (.listStruck threshold)).1 = .ok struck ∧
        (∀ stats ∈ struck, (after calls).get? stats.streamId = some stats) ∧
        (struck.map (·.streamId)).Pairwise (· < ·) ∧
        ∀ id, id ∈ struck.map (·.streamId) ↔ threshold ≠ 0 ∧ threshold.toNat ≤ failureRun calls id := by
  refine ⟨fun id => ?_, fun id stats found => ?_, get?_after_filter calls, fun now threshold => ?_⟩
  · have standing := standing_after calls id
    constructor
    · rintro ⟨stats, found⟩
      rw [found] at standing
      obtain ⟨now, call, latest, -⟩ := standing.latest
      have member := List.mem_filter.mp (List.mem_of_getLast? latest)
      exact ⟨(now, call), member⟩
    · rintro ⟨call, member, probed⟩
      cases found : (after calls).get? id with
      | none =>
        rw [found] at standing
        rw [standing call member] at probed
        exact nomatch probed
      | some stats => exact ⟨stats, rfl⟩
  · have standing := standing_after calls id
    rw [found] at standing
    exact standing
  · refine ⟨_, rfl, fun stats member => ?_, (keyed_after calls).ascending_select _,
      fun id => mem_struckIds_after⟩
    obtain ⟨id, found⟩ := SortedMap.mem_values.mp (List.mem_filter.mp member).1
    rw [keyed_after calls id stats found]
    exact found

end Memory
end StreamWatch
