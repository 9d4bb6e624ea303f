/-
**What a whole run comes to.**

A run that finds the engine taken does nothing. Any other one takes it, and gives it back however it
ends. One that cannot fetch its streams leaves the store as it is; one that can has its streams probed
and sums up what they come to.

* `ensures_refreshAccounts`, `ensures_fetch`: what comes before the streams;
* `ensures_probeFetched`: the streams and the summary;
* `settles_run`: a whole run.
-/

import StreamWatch.Proofs.Engine.Crew

namespace StreamWatch.Engine

open Program

variable {around : Circumstances} {settings : ProbingSettings} {streams : List Stream} {store : Memory}
  {site : Site}

/-! ### Parts of a run -/

/-- What a run does with the streams it has fetched. -/
def probeFetched (settings : ProbingSettings) (startedAt : Instant) (streams : List Stream) :
    Work EngineCell (Except EngineError RunSummary) := do
  change (EngineCell.sayProbing streams.length)
  let outcomes ← Work.probeStreams settings streams
  let cancelSeen ← look (·.isCancelled)
  let completedAt ← Work.now
  let summary := RunSummary.ofOutcomes streams.length cancelSeen startedAt completedAt outcomes
  change (EngineCell.finish summary.isCancelled)
  change (EngineCell.keep summary)
  return .ok summary

/-- What a run does once accounts are refreshed. -/
def fetchAndProbe (settings : ProbingSettings) (size : UInt32) (only : Option (List Int))
    (startedAt : Instant) : Work EngineCell (Except EngineError RunSummary) := do
  change (EngineCell.say "fetching streams")
  match ← fetch size only with
  | .error error =>
    change (EngineCell.say "failed")
    return .error (.fetch error)
  | .ok streams => probeFetched settings startedAt streams

theorem runTaken_eq (settings : ProbingSettings) (size : UInt32) (only : Option (List Int))
    (skipRefresh : Bool) :
    runTaken settings size only skipRefresh = (do
      change EngineCell.rearm
      let startedAt ← Work.now
      change EngineCell.start
      (if skipRefresh then pure ⟨⟩ else refreshAccounts)
      fetchAndProbe settings size only startedAt) := by
  cases skipRefresh <;> rfl

/-! ### Questions whose answers do not matter -/

theorem stable_of_stop {holds : Site → Prop} (kept : ∀ site, holds site → holds site.stop) :
    Stable (surroundings around) holds := by
  rintro site after rfl before
  exact kept site before

/-- A question that gets any answer at all, and changes nothing. -/
theorem ensures_anyReply {holds : Site → Prop} (stable : Stable (surroundings around) holds) {ask : Ask}
    (idle : ∀ site reply after, answers around ask site reply after → reply.isSome = true ∧ after = site)
    (before : holds site) :
    (onSite (Program.get ask)).Ensures (surroundings around) (fun _ later => holds later) site := by
  refine ensures_ask stable before fun seen before reply after answered => ?_
  obtain ⟨given, rfl⟩ := idle _ _ _ answered
  obtain ⟨value, rfl⟩ := Option.isSome_iff_exists.mp given
  exact ⟨value, rfl, ensures_done stable before⟩

theorem ensures_now {holds : Site → Prop} (stable : Stable (surroundings around) holds)
    (before : holds site) :
    (onSite Work.now).Ensures (surroundings around) (fun _ later => holds later) site :=
  ensures_anyReply stable (fun _ _ _ answered => answered) before

/-! ### Before the streams are probed -/

/-- Whether a run has not had anything done yet. -/
structure Untouched (store : Memory) (site : Site) : Prop where
  probed : site.probed = []
  store : site.store = store

theorem stable_untouched : Stable (surroundings around) (Untouched store) :=
  stable_of_stop fun _ untouched => ⟨untouched.probed, untouched.store⟩

theorem stable_ready {total : Nat} : Stable (surroundings around) (Ready store total) :=
  stable_of_stop fun _ ready => ⟨ready.probed, ready.store, ready.total, ready.current, ready.counted⟩

theorem Ready.say {total : Nat} (ready : Ready store total site) (status : String) :
    Ready store total (site.putCell (site.cell.say status)) :=
  ⟨ready.probed, ready.store, ready.total, ready.current, ready.counted⟩

theorem ensures_refreshEach (accounts : List Account) {total : Nat} (ready : Ready store total site) :
    (onSite (refreshEach accounts)).Ensures (surroundings around) (fun _ later => Ready store total later)
      site := by
  induction accounts generalizing site with
  | nil => exact ensures_done stable_ready ready
  | cons account rest ih =>
    refine ensures_act stable_ready ready fun seen ready => ?_
    show (onSite (if seen.cell.isCancelled = true then _ else _)).Ensures _ _ seen
    split
    · exact ensures_done stable_ready ready
    · rw [onSite_bind]
      refine ensures_bind (Ensures.mono ?_ fun _ later ready => ih ready)
      exact ensures_anyReply stable_ready (fun _ _ _ answered => answered) ready

/-- Whatever comes of refreshing accounts, the run goes on as if nothing had been done. -/
theorem ensures_refreshAccounts {total : Nat} (ready : Ready store total site) :
    (onSite refreshAccounts).Ensures (surroundings around) (fun _ later => Ready store total later) site := by
  refine ensures_change stable_ready ready fun seen ready => ?_
  rw [onSite_bind]
  have said := ready.say "refreshing accounts"
  refine ensures_bind (Ensures.mono (ensures_anyReply stable_ready ?_ said) ?_)
  · exact fun _ _ _ answered => answered
  · rintro (error | accounts) later ready
    · exact ensures_done stable_ready ready
    · exact ensures_refreshEach _ ready

/-- The streams a run is about, or why it cannot have them. -/
def Circumstances.listed (around : Circumstances) : Option (List Int) → Except RemoteError (List Stream)
  | some ids => around.byIds ids
  | none => Pages.collect around.pages

/-- **What is fetched** is a matter of what the remote lists. -/
theorem ensures_fetch {holds : Site → Prop} (stable : Stable (surroundings around) holds)
    (before : holds site) (size : UInt32) (only : Option (List Int)) :
    (onSite (fetch size only)).Ensures (surroundings around)
      (fun reply later => reply = around.listed only ∧ holds later) site := by
  cases only with
  | some ids =>
    refine ensures_ask stable before fun seen before reply after answered => ?_
    obtain ⟨rfl, rfl⟩ := answered
    exact ⟨_, rfl, ensures_done ((stable_const _).and stable) ⟨rfl, before⟩⟩
  | none =>
    show (onSite (Pages.walkFrom _ _ _ _)).Ensures _ _ _
    unfold onSite
    rw [Pages.zoom_walkFrom]
    refine Pages.ensures_walk stable (fun number seen before => ?_) before
    refine ensures_ask stable before fun seen before reply after answered => ?_
    obtain ⟨rfl, rfl⟩ := answered
    exact ⟨_, rfl, ensures_done ((stable_const _).and stable) ⟨rfl, before⟩⟩

/-! ### The streams and the summary -/

/-- The number of the streams of a run that were left alone. -/
def Site.unstarted (site : Site) : Nat := site.outcomes.countP (·.2.isNotStarted)

/-- Whether a run over some streams has summed up what they came to. -/
structure SummedUp (around : Circumstances) (settings : ProbingSettings) (streams : List Stream)
    (store : Memory) (summary : RunSummary) (site : Site) : Prop where
  probed : ∃ results startedAt completedAt, Probed around settings streams store results site ∧
    summary = RunSummary.ofOutcomes streams.length (decide (0 < site.unstarted)) startedAt completedAt
      (results.map (·.2))
  progress : site.cell.progress = summary.progress
  lastRun : site.cell.lastRun = some summary

theorem stable_probed {results : List (Fin streams.length × Int × StreamOutcome)} :
    Stable (surroundings around) (Probed around settings streams store results) :=
  stable_of_stop fun _ probed => probed.stop

theorem stable_summedUp {summary : RunSummary} :
    Stable (surroundings around) (SummedUp around settings streams store summary) := by
  refine stable_of_stop ?_
  rintro site ⟨⟨results, startedAt, completedAt, probed, same⟩, progress, lastRun⟩
  exact ⟨⟨results, startedAt, completedAt, probed.stop, same⟩, progress, lastRun⟩

/-- The streams of a run are probed. -/
theorem ensures_probeStreams (ready : Ready store streams.length site) :
    (onSite (Work.probeStreams settings streams)).Ensures (surroundings around)
      (fun reply later => ∃ results, reply = results.map (·.2) ∧
        Probed around settings streams store results later) site := by
  refine ensures_ask stable_ready ready fun seen ready reply after answered => ?_
  obtain ⟨last, reached, isOver, rfl, rfl⟩ := answered
  refine ⟨_, rfl, ensures_done ?_ ⟨last.ended, rfl, probed_of_isOver ready reached isOver⟩⟩
  rintro site after changed ⟨results, same, probed⟩
  exact ⟨results, same, stable_probed _ _ changed probed⟩

namespace Probed

variable {results : List (Fin streams.length × Int × StreamOutcome)}

theorem length_eq (probed : Probed around settings streams store results site) :
    (results.map (·.2)).length = streams.length := by
  have everyone := probed.everyone.length_eq
  rw [List.length_map, List.length_finRange] at everyone
  rw [List.length_map, everyone]

theorem unstarted_eq (probed : Probed around settings streams store results site) :
    site.unstarted = (results.map (·.2)).countP (·.2.isNotStarted) := by
  rw [Site.unstarted, probed.noted, List.countP_map, List.countP_map]
  rfl

/-- A run that left streams alone was asked to stop. -/
theorem stopped (probed : Probed around settings streams store results site)
    (some : 0 < site.unstarted) : site.cell.isCancelled = true := by
  rw [probed.unstarted_eq, List.countP_pos_iff] at some
  obtain ⟨entry, member, alone⟩ := some
  obtain ⟨result, known, rfl⟩ := List.mem_map.mp member
  obtain ⟨-, -, stopped, -⟩ | ⟨-, started, -⟩ := probed.fate known
  · exact stopped
  · rw [StreamOutcome.isNotStarted_iff, started] at alone
    exact absurd alone (outcomeOf_ne_notStarted _ _ _)

/-- It does not matter when a run is asked to stop, but whether streams were left alone. -/
theorem ofOutcomes_eq (probed : Probed around settings streams store results site)
    (startedAt completedAt : Instant) :
    RunSummary.ofOutcomes streams.length site.cell.isCancelled startedAt completedAt (results.map (·.2)) =
      RunSummary.ofOutcomes streams.length (decide (0 < site.unstarted)) startedAt completedAt
        (results.map (·.2)) := by
  have all := (RunSummary.countP_add (results.map (·.2))).1
  rw [probed.length_eq, ← probed.unstarted_eq] at all
  rw [RunSummary.ofOutcomes_eq, RunSummary.ofOutcomes_eq]
  by_cases some : 0 < site.unstarted
  · rw [probed.stopped some, decide_eq_true some]
  · have none : ¬ (results.map (·.2)).countP (·.2.isSucceeded) +
        (results.map (·.2)).countP (·.2.isFailed) + (results.map (·.2)).countP (·.2.isSkipped) <
        streams.length := by omega
    rw [decide_eq_false none, Bool.and_false, Bool.and_false]

/-- **The progress of a run agrees with its summary.** -/
theorem progress_eq (probed : Probed around settings streams store results site) (cancelSeen : Bool)
    (startedAt completedAt : Instant) :
    (site.cell.finish (RunSummary.ofOutcomes streams.length cancelSeen startedAt completedAt
        (results.map (·.2))).isCancelled).progress =
      (RunSummary.ofOutcomes streams.length cancelSeen startedAt completedAt (results.map (·.2))).progress := by
  obtain ⟨succeeded, failed, skipped⟩ := Tally.mk.inj probed.counted
  have current := probed.current
  unfold Progress.processed at current
  rw [RunSummary.ofOutcomes_eq]
  unfold RunSummary.progress EngineCell.finish RunSummary.processed
  simp only [probed.total, current, succeeded, failed, skipped]

end Probed

/-- What a run comes to that has the engine. -/
def Taken (around : Circumstances) (settings : ProbingSettings) (store : Memory)
    (listed : Except RemoteError (List Stream)) (reply : Except EngineError RunSummary) (site : Site) :
    Prop :=
  match listed with
  | .error error => reply = .error (.fetch error) ∧ site.store = store
  | .ok streams => ∃ summary, reply = .ok summary ∧ SummedUp around settings streams store summary site

theorem stable_taken {listed : Except RemoteError (List Stream)} {reply : Except EngineError RunSummary} :
    Stable (surroundings around) (Taken around settings store listed reply) := by
  intro site after changed
  cases listed with
  | error error =>
    rintro ⟨told, same⟩
    cases changed
    exact ⟨told, same⟩
  | ok streams =>
    rintro ⟨summary, told, summedUp⟩
    exact ⟨summary, told, stable_summedUp _ _ changed summedUp⟩

/-- **The streams of a run are probed and summed up.** -/
theorem ensures_probeFetched (ready : Ready store 0 site) (startedAt : Instant) :
    (onSite (probeFetched settings startedAt streams)).Ensures (surroundings around)
      (Taken around settings store (.ok streams)) site := by
  unfold probeFetched
  refine ensures_change stable_ready ready fun seen ready => ?_
  have ready : Ready store streams.length (seen.putCell (seen.cell.sayProbing streams.length)) :=
    ⟨ready.probed, ready.store, rfl, ready.current, ready.counted⟩
  rw [onSite_bind]
  refine ensures_bind ((ensures_probeStreams ready).mono ?_)
  rintro reply later ⟨results, rfl, probed⟩
  -- this look decides on the summary: later requests to stop change nothing in it
  refine ensures_act stable_probed probed fun seen looked => ?_
  show (onSite (Work.now >>= _)).Ensures _ _ seen
  rw [onSite_bind]
  refine ensures_bind ((ensures_now stable_probed looked).mono fun completedAt later probed => ?_)
  refine ensures_change stable_probed probed fun last probed => ?_
  have progress := probed.progress_eq seen.cell.isCancelled startedAt completedAt
  have summed := looked.ofOutcomes_eq startedAt completedAt
  rw [looked.unstarted_eq] at summed
  generalize RunSummary.ofOutcomes streams.length seen.cell.isCancelled startedAt completedAt
    (results.map (·.2)) = summary at progress summed ⊢
  have finished : Probed around settings streams store results
      (last.putCell (last.cell.finish summary.isCancelled)) := probed.putCell id rfl rfl rfl
  have told : Stable (surroundings around) fun later : Site => later.cell.progress = summary.progress :=
    stable_of_stop fun _ same => same
  refine ensures_change (stable_probed.and told) ⟨finished, progress⟩ fun last ⟨probed, progress⟩ => ?_
  have kept : Probed around settings streams store results (last.putCell (last.cell.keep summary)) :=
    probed.putCell id rfl rfl rfl
  rw [← kept.unstarted_eq] at summed
  exact ensures_done stable_taken
    ⟨summary, rfl, ⟨results, startedAt, completedAt, kept, summed⟩, progress, rfl⟩

theorem ensures_fetchAndProbe (ready : Ready store 0 site) (size : UInt32) (only : Option (List Int))
    (startedAt : Instant) :
    (onSite (fetchAndProbe settings size only startedAt)).Ensures (surroundings around)
      (Taken around settings store (around.listed only)) site := by
  unfold fetchAndProbe
  refine ensures_change stable_ready ready fun seen ready => ?_
  rw [onSite_bind]
  refine ensures_bind ((ensures_fetch stable_ready (ready.say _) size only).mono ?_)
  rintro reply later ⟨rfl, ready⟩
  cases around.listed only with
  | error error =>
    exact ensures_change stable_ready ready fun last ready => ensures_done stable_taken ⟨rfl, ready.store⟩
  | ok streams => exact ensures_probeFetched ready startedAt

/-- **A run that has the engine** comes to a summary, or tells why it cannot have its streams. -/
theorem ensures_runTaken (untouched : Untouched store site) (size : UInt32) (only : Option (List Int))
    (skipRefresh : Bool) :
    (onSite (runTaken settings size only skipRefresh)).Ensures (surroundings around)
      (Taken around settings store (around.listed only)) site := by
  rw [runTaken_eq]
  refine ensures_change stable_untouched untouched fun seen untouched => ?_
  have rearmed : Untouched store (seen.putCell seen.cell.rearm) := ⟨untouched.probed, untouched.store⟩
  rw [onSite_bind]
  refine ensures_bind ((ensures_now stable_untouched rearmed).mono fun startedAt later untouched => ?_)
  refine ensures_change stable_untouched untouched fun seen untouched => ?_
  have ready : Ready store 0 (seen.putCell seen.cell.start) :=
    ⟨untouched.probed, untouched.store, rfl, rfl, rfl⟩
  rw [onSite_bind]
  refine ensures_bind (Ensures.mono ?_ fun _ later ready => ensures_fetchAndProbe ready size only startedAt)
  cases skipRefresh with
  | true => exact ensures_done stable_ready ready
  | false => exact ensures_refreshAccounts ready

/-! ### A whole run -/

/-- **What a whole run comes to.** -/
def Ended (around : Circumstances) (settings : ProbingSettings) (only : Option (List Int))
    (cell : EngineCell) (store : Memory) (reply : Except EngineError RunSummary) (site : Site) : Prop :=
  if cell.isProbing then reply = .error .alreadyRunning ∧ site.store = store
  else site.cell.isProbing = false ∧ Taken around settings store (around.listed only) reply site

theorem stable_ended {only : Option (List Int)} {cell : EngineCell} {reply : Except EngineError RunSummary} :
    Stable (surroundings around) (Ended around settings only cell store reply) := by
  intro site after changed
  unfold Ended
  split
  · rintro ⟨told, same⟩
    cases changed
    exact ⟨told, same⟩
  · rintro ⟨free, taken⟩
    refine ⟨?_, stable_taken _ _ changed taken⟩
    cases changed
    exact free

theorem Taken.free {listed : Except RemoteError (List Stream)} {reply : Except EngineError RunSummary}
    (taken : Taken around settings store listed reply site) :
    Taken around settings store listed reply (site.putCell site.cell.free) := by
  cases listed with
  | error error => exact taken
  | ok streams =>
    obtain ⟨summary, told, ⟨results, startedAt, completedAt, probed, same⟩, progress, lastRun⟩ := taken
    exact ⟨summary, told, ⟨results, startedAt, completedAt, probed.putCell id rfl rfl rfl, same⟩,
      progress, lastRun⟩

/-- **A whole run** comes to its end, whatever happens around it. -/
theorem settles_run (around : Circumstances) (settings : ProbingSettings) (size : UInt32)
    (only : Option (List Int)) (skipRefresh : Bool) (cell : EngineCell) (store : Memory) :
    Settles (surroundings around) (Ended around settings only cell store)
      (onSite (run settings size only skipRefresh)) { cell, store } := by
  refine settles_of_ensuresHolding (answered around) fun seen meanwhile => ?_
  have untouched : Untouched store seen := stable_untouched.meanwhile meanwhile ⟨rfl, rfl⟩
  have asProbing : Stable (surroundings around)
      fun later : Site => later.cell.isProbing = cell.isProbing := stable_of_stop fun _ same => same
  have probing := asProbing.meanwhile meanwhile rfl
  show (onSite (if seen.cell.isProbing = true then pure (.error .alreadyRunning) else do
    holding EngineCell.free
    let reply ← runTaken settings size only skipRefresh
    lettingGo
    return reply)).EnsuresHolding _ _ [] (seen.putCell seen.cell.take)
  split
  · next taken =>
    have told : Ended around settings only cell store (.error .alreadyRunning)
        (seen.putCell seen.cell.take) := by
      unfold Ended
      rw [if_pos (probing.symm.trans taken)]
      exact ⟨rfl, untouched.store⟩
    exact (ensures_done stable_ended told).holding []
  · next free =>
    intro before meanwhile
    have untouched : Untouched store before :=
      stable_untouched.meanwhile meanwhile ⟨untouched.probed, untouched.store⟩
    show (onSite (runTaken settings size only skipRefresh >>= fun reply => lettingGo >>= fun _ =>
      pure reply)).EnsuresHolding _ _ [fun site => site.putCell site.cell.free] before
    rw [onSite_bind]
    refine ensuresHolding_bind (((ensures_runTaken untouched size only skipRefresh).holding _).mono ?_)
    rintro reply held later ⟨rfl, taken⟩
    -- what was held gives the engine back
    intro last meanwhile
    have ended : Ended around settings only cell store reply (last.putCell last.cell.free) := by
      unfold Ended
      rw [if_neg (probing ▸ free)]
      exact ⟨rfl, (stable_taken.meanwhile meanwhile taken).free⟩
    exact (ensures_done stable_ended ended).holding []

end StreamWatch.Engine
