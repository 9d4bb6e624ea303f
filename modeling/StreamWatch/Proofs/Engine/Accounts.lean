/-
**A run accounts for its streams.**

The summary of a run and the progress that was counted on the way agree, and every stream is accounted
for. In which order the streams have come to their ends cannot be told from the summary, nor from the
store.

* `SummedUp.accounted`: how the numbers of a run hang together;
* `SummedUp.alike`: two runs that left the same streams alone;
* `run_accounted`: both, for whatever runs there are.
-/

import StreamWatch.Proofs.Engine.Run

namespace StreamWatch

/-- A summary without the times in it. -/
def RunSummary.untimed (summary : RunSummary) : RunSummary :=
  { summary with startedAt := default, completedAt := default }

namespace Engine

open Program

variable {around : Circumstances} {settings : ProbingSettings} {streams : List Stream} {store : Memory}
  {summary other : RunSummary} {site later : Site}

/-- **How a run accounts for its streams.** A stream that was not left alone has come to its own outcome,
and the media tools were asked of just these streams, as far as they have an address. -/
structure Accounted (around : Circumstances) (settings : ProbingSettings) (streams : List Stream)
    (summary : RunSummary) (site : Site) : Prop where
  everyone : (site.outcomes.map (·.1)).Perm (List.range streams.length)
  own : ∀ place : Fin streams.length, (place.val, .notStarted) ∉ site.outcomes →
    (place.val, outcomeOf settings (around.verdict place) (streams.get place)) ∈ site.outcomes
  asked : ∀ place : Fin streams.length, place.val ∈ site.probed ↔
    (place.val, .notStarted) ∉ site.outcomes ∧ (address? (streams.get place)).isSome = true
  total : summary.total = streams.length
  adds : summary.Adds site.unstarted
  cancelled : summary.isCancelled = true ↔ 0 < site.unstarted
  progress : site.cell.progress = summary.progress
  lastRun : site.cell.lastRun = some summary

theorem SummedUp.accounted (summedUp : SummedUp around settings streams store summary site) :
    Accounted around settings streams summary site := by
  obtain ⟨⟨results, startedAt, completedAt, probed, same⟩, progress, lastRun⟩ := summedUp
  have all := (RunSummary.countP_add (results.map (·.2))).1
  have adds := RunSummary.adds_ofOutcomes (decide (0 < site.unstarted)) startedAt completedAt
    (results.map (·.2))
  rw [probed.length_eq, ← probed.unstarted_eq] at all adds
  rw [← same] at adds
  have closed := same.trans (RunSummary.ofOutcomes_eq _ _ _ _ _)
  refine ⟨?_, fun place begun => ?_, fun place => (probed.stands place).probed, ?_, adds, ?_, progress,
    lastRun⟩
  · have places : site.outcomes.map (·.1) = (results.map (·.1)).map Fin.val := by
      rw [probed.noted, List.map_map, List.map_map]
      rfl
    rw [places, ← List.map_coe_finRange_eq_range]
    exact probed.everyone.map _
  · obtain ⟨result, member, rfl⟩ := probed.exists_result place
    have outcome := congrArg Prod.snd (probed.result_eq member)
    simp only [resultOf, if_neg begun] at outcome
    rw [probed.noted]
    exact List.mem_map.mpr ⟨result, member, by rw [outcome]⟩
  · rw [closed]
  · rw [closed]
    simp only [Bool.and_eq_true, decide_eq_true_eq, and_iff_left_iff_imp]
    omega

/-- **Two runs that left the same streams alone** sum up alike and leave the same in the store. -/
theorem SummedUp.alike (first : SummedUp around settings streams store summary site)
    (second : SummedUp around settings streams store other later)
    (same : ∀ place, (place, .notStarted) ∈ site.outcomes ↔ (place, .notStarted) ∈ later.outcomes) :
    summary.untimed = other.untimed ∧
      ((streams.map (·.id)).Nodup → site.store.untimed = later.store.untimed) := by
  obtain ⟨⟨results, startedAt, completedAt, one, summary_eq⟩, -, -⟩ := first
  obtain ⟨⟨results', startedAt', completedAt', two, other_eq⟩, -, -⟩ := second
  have reordered := one.results_perm two fun place => same place
  have unstarted : site.unstarted = later.unstarted := by
    rw [one.unstarted_eq, two.unstarted_eq, reordered.countP_eq]
  refine ⟨?_, one.untimed_store_eq two fun place => same place⟩
  rw [summary_eq, other_eq, RunSummary.ofOutcomes_perm reordered, unstarted, RunSummary.ofOutcomes_eq,
    RunSummary.ofOutcomes_eq]
  rfl

/-- Whether a run can come to a summary from a store, and where it is then. -/
def ComesTo (around : Circumstances) (settings : ProbingSettings) (size : UInt32) (only : Option (List Int))
    (skipRefresh : Bool) (store : Memory) (summary : RunSummary) (last : Site) : Prop :=
  ∃ (cell : EngineCell) (held : List (Site → Site)) (watched : Option (Site → Site)),
    Reaches (surroundings around) ⟨onSite (run settings size only skipRefresh), [], none, { cell, store }⟩
      ⟨done (.ok summary), held, watched, last⟩

theorem ComesTo.summedUp {size : UInt32} {only : Option (List Int)} {skipRefresh : Bool}
    (comes : ComesTo around settings size only skipRefresh store summary site) :
    ∃ streams, around.listed only = .ok streams ∧ SummedUp around settings streams store summary site := by
  obtain ⟨cell, held, watched, reached⟩ := comes
  obtain ⟨reply, same, ended⟩ :=
    (settles_run around settings size only skipRefresh cell store).ends _ reached trivial
  cases same
  unfold Ended at ended
  split at ended
  · exact nomatch ended.1
  · obtain ⟨-, taken⟩ := ended
    cases listed : around.listed only with
    | error error =>
      rw [listed] at taken
      exact nomatch taken.1
    | ok streams =>
      rw [listed] at taken
      obtain ⟨summary, told, summedUp⟩ := taken
      cases told
      exact ⟨streams, rfl, summedUp⟩

/-- **A run accounts for its streams.** Whatever the remote lists, the media tools tell and the store does
not keep, however the streams of the run get along beside each other, and whenever it is asked to stop:
the run comes to its end, and when it gets past fetching, all of its streams are accounted for. Two runs
that left the same streams alone sum up alike, but for the times, and leave the same records, but for
the times, when no two of the streams have one id. -/
theorem run_accounted (around : Circumstances) (settings : ProbingSettings) (size : UInt32)
    (only : Option (List Int)) (skipRefresh : Bool) (store : Memory) :
    (∀ cell : EngineCell, Settles (surroundings around)
      (fun reply last =>
        if cell.isProbing then reply = .error .alreadyRunning ∧ last.store = store
        else last.cell.isProbing = false ∧
          match around.listed only with
          | .error error => reply = .error (.fetch error) ∧ last.store = store
          | .ok streams => ∃ summary, reply = .ok summary ∧ Accounted around settings streams summary last)
      (onSite (run settings size only skipRefresh)) { cell, store }) ∧
    ∀ first second last later, ComesTo around settings size only skipRefresh store first last →
      ComesTo around settings size only skipRefresh store second later →
      (∀ place, (place, .notStarted) ∈ last.outcomes ↔ (place, .notStarted) ∈ later.outcomes) →
      first.untimed = second.untimed ∧
        ∀ streams, around.listed only = .ok streams → (streams.map (·.id)).Nodup →
          last.store.untimed = later.store.untimed := by
  constructor
  · intro cell
    refine (settles_run around settings size only skipRefresh cell store).mono fun reply last ended => ?_
    unfold Ended Taken at ended
    split at ended
    · next taken =>
      rw [if_pos taken]
      exact ended
    · next free =>
      rw [if_neg free]
      obtain ⟨given, taken⟩ := ended
      refine ⟨given, ?_⟩
      cases listed : around.listed only with
      | error error =>
        rw [listed] at taken
        exact taken
      | ok streams =>
        rw [listed] at taken
        obtain ⟨summary, told, summedUp⟩ := taken
        exact ⟨summary, told, summedUp.accounted⟩
  · intro first second last later one two same
    obtain ⟨streams, listed, one⟩ := one.summedUp
    obtain ⟨others, again, two⟩ := two.summedUp
    obtain rfl : streams = others := Except.ok.inj (listed.symm.trans again)
    obtain ⟨summaries, stores⟩ := one.alike two same
    refine ⟨summaries, fun known given distinct => ?_⟩
    obtain rfl : streams = known := Except.ok.inj (listed.symm.trans given)
    exact stores distinct

/-! ### Runs in two orders -/

/-- Where a run over the streams of some ids stands before any of them has its turn. -/
def atStart (store : Memory) (total : Nat) : Site where
  cell := (((({} : EngineCell).take.rearm).start.say "fetching streams").sayProbing total)
  store

/-- In whatever way the streams come to their ends, there is a run in which they do. -/
theorem exists_comesTo {ids : List Int} (size : UInt32) (listed : around.byIds ids = .ok streams)
    {last : Company (Fin streams.length) Site Ask Ask.Reply (Int × StreamOutcome)}
    (reached : Company.Reaches (venue around settings streams.length)
      (crew settings streams (atStart store streams.length)) last) (isOver : last.IsOver) :
    ∃ summary site, ComesTo around settings size (some ids) true store summary site ∧
      site.outcomes = last.ended.map fun result => (result.1.val, result.2.2) := by
  have told (site : Site) : answers around .wallClock site (some default) site := ⟨rfl, rfl⟩
  refine ⟨?_, ?_, ⟨{}, [], none, ?_⟩, ?_⟩
  rotate_left 2
  · refine .head .act (.head .hold (.head .act (.head (.answered (told _)) ?_)))
    refine .head .act (.head .act (.head (.answered ⟨congrArg some listed.symm, rfl⟩) ?_))
    refine .head .act (.head (.answered ⟨last, reached, isOver, rfl, rfl⟩) ?_)
    refine .head .act (.head (.answered (told _)) (.head .act (.head .act (.head .letGo ?_))))
    exact .refl
  · rfl

/-- Two streams, of which one has an address. -/
def twoStreams : List Stream := [⟨7, "A", some "http://a", none⟩, ⟨3, "B", none, none⟩]

/-- Where everything is told and kept. -/
def allWell : Circumstances where
  pages _ := .error .transport
  byIds _ := .ok twoStreams
  verdict _ := ⟨.ok {}, .ok false, none⟩

theorem exists_end_inTurn :
    ∃ last, Company.Reaches (venue allWell {} twoStreams.length)
        (crew {} twoStreams (atStart .empty twoStreams.length)) last ∧
      last.IsOver ∧ (last.ended.map fun result => (result.1.val, result.2.2)) =
        [(0, .succeeded false), (1, .skipped "no stream URL")] := by
  refine ⟨?_, ?_, ?_⟩
  rotate_left
  · refine .head (.begins (by decide)) (.head (.begins (by decide)) ?_)
    refine .head (.goesOn [] .act) (.head (.goesOn [] .act) (.head (.goesOn [] (.answered ⟨rfl, rfl⟩)) ?_))
    refine .head (.goesOn [] (.answered ⟨default, rfl, rfl⟩)) (.head (.goesOn [] .act) (.head (.ends []) ?_))
    refine .head (.goesOn [] .act) (.head (.goesOn [] .act) (.head (.goesOn [] .act) (.head (.ends []) ?_)))
    exact .refl
  · exact ⟨⟨rfl, rfl⟩, rfl⟩

/-- The second stream ends while the first one waits for an answer of the store. -/
theorem exists_end_outOfTurn :
    ∃ last, Company.Reaches (venue allWell {} twoStreams.length)
        (crew {} twoStreams (atStart .empty twoStreams.length)) last ∧
      last.IsOver ∧ (last.ended.map fun result => (result.1.val, result.2.2)) =
        [(1, .skipped "no stream URL"), (0, .succeeded false)] := by
  refine ⟨?_, ?_, ?_⟩
  rotate_left
  · refine .head (.begins (by decide)) (.head (.begins (by decide)) ?_)
    refine .head (.goesOn [] .act) (.head (.goesOn [] .act) (.head (.goesOn [] (.answered ⟨rfl, rfl⟩)) ?_))
    refine .head (.goesOn [_] .act) (.head (.goesOn [_] .act) (.head (.goesOn [_] .act) ?_))
    refine .head (.ends [_]) (.head (.goesOn [] (.answered ⟨default, rfl, rfl⟩)) ?_)
    refine .head (.goesOn [] .act) (.head (.ends []) ?_)
    exact .refl
  · exact ⟨⟨rfl, rfl⟩, rfl⟩

/-- Runs in which two streams end in either order sum up alike, and leave the same records. -/
theorem run_accounted_of_twoOrders :
    ∃ first second last later, ComesTo allWell {} 50 (some [7, 3]) true .empty first last ∧
      ComesTo allWell {} 50 (some [7, 3]) true .empty second later ∧
      last.outcomes = [(0, .succeeded false), (1, .skipped "no stream URL")] ∧
      later.outcomes = [(1, .skipped "no stream URL"), (0, .succeeded false)] ∧
      first.untimed = second.untimed ∧ last.store.untimed = later.store.untimed := by
  obtain ⟨inTurn, reached, isOver, ended⟩ := exists_end_inTurn
  obtain ⟨first, last, one, noted⟩ := exists_comesTo 50 rfl reached isOver
  obtain ⟨outOfTurn, reached, isOver, endedThen⟩ := exists_end_outOfTurn
  obtain ⟨second, later, two, notedThen⟩ := exists_comesTo 50 rfl reached isOver
  rw [ended] at noted
  rw [endedThen] at notedThen
  have same (place : Nat) :
      (place, .notStarted) ∈ last.outcomes ↔ (place, .notStarted) ∈ later.outcomes := by
    simp [noted, notedThen]
  obtain ⟨summaries, stores⟩ :=
    (run_accounted allWell {} 50 (some [7, 3]) true .empty).2 first second last later one two same
  exact ⟨first, second, last, later, one, two, noted, notedThen, summaries,
    stores twoStreams rfl (by decide)⟩

end Engine
end StreamWatch
