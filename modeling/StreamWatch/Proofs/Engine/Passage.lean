/-
**How a run passes.**

Where a run stands can be told by a few statements about the state: one that holds while it has the engine
and no streams yet, one that holds once its streams have come to their ends, and one that holds once it has
looked whether it was asked to stop. When each of them leads to the next, the run comes to what the last
one says.

* `Passage`: what has to be shown of a run that has the engine;
* `Passage.fares_runTaken`: what such a run comes to;
* `Taking`, `Passage.fares_run`: the moments at which it takes the engine and gives it back.
-/

import StreamWatch.Proofs.Engine.Stage

namespace StreamWatch.Engine

open Program

variable {σ : Type} {stage : Stage σ} {manner : Manner σ} {settings : ProbingSettings} {around : Circumstances}
  {heard : Beside σ → σ → Prop} {reported : List Stream → List (Int × StreamOutcome) → Beside σ → σ → Prop}
  {looked : List Stream → List (Int × StreamOutcome) → Bool → Beside σ → σ → Prop} {beside : Beside σ} {state : σ}

/-- What has to be shown of a run that has the engine. -/
structure Passage (stage : Stage σ) (manner : Manner σ) (settings : ProbingSettings) (around : Circumstances)
    (heard : Beside σ → σ → Prop) (reported : List Stream → List (Int × StreamOutcome) → Beside σ → σ → Prop)
    (looked : List Stream → List (Int × StreamOutcome) → Bool → Beside σ → σ → Prop) : Prop where
  same : ∀ {beside state}, heard beside state → stage.around state = around
  carries : stage.Carries manner heard Ask.IsPlain
  probes : ∀ {beside state} streams, heard beside state →
    (stage.work (Work.probeStreams settings streams)).Fares stage.outside manner (reported streams) beside state
  firm : ∀ streams outcomes beside, Firm manner (reported streams outcomes beside)
  looks : ∀ {streams outcomes beside state}, reported streams outcomes beside state →
    manner.allowed state (stage.put (stage.engine state) state) ∧
      looked streams outcomes (stage.engine state).isCancelled beside (stage.put (stage.engine state) state)
  concludes : ∀ streams outcomes stopped, stage.Carries manner (looked streams outcomes stopped) (· = .wallClock)

/-- What a run has come to that has the engine: it has no streams, or sums up what they came to. -/
def Come (heard : Beside σ → σ → Prop)
    (looked : List Stream → List (Int × StreamOutcome) → Bool → Beside σ → σ → Prop)
    (listed : Except RemoteError (List Stream)) (reply : Except EngineError RunSummary) (beside : Beside σ)
    (state : σ) : Prop :=
  match listed with
  | .error error => reply = .error (.fetch error) ∧ heard beside state
  | .ok streams => ∃ outcomes stopped startedAt completedAt,
      reply = .ok (RunSummary.ofOutcomes streams.length stopped startedAt completedAt outcomes) ∧
        looked streams outcomes stopped beside state

namespace Passage

variable (passage : Passage stage manner settings around heard reported looked)
include passage

theorem firm_come (listed : Except RemoteError (List Stream)) (reply : Except EngineError RunSummary)
    (beside : Beside σ) : Firm manner (Come heard looked listed reply beside) := by
  intro state later changed come
  cases listed with
  | error error => exact ⟨come.1, passage.carries.steady.others _ _ _ changed come.2⟩
  | ok streams =>
    obtain ⟨outcomes, stopped, startedAt, completedAt, told, looked⟩ := come
    exact ⟨outcomes, stopped, startedAt, completedAt, told,
      (passage.concludes _ _ _).steady.others _ _ _ changed looked⟩

/-- **The streams of a run are probed and summed up.** -/
theorem fares_probeFetched (streams : List Stream) (startedAt : Instant) (held : heard beside state) :
    (stage.work (probeFetched settings startedAt streams)).Fares stage.outside manner
      (Come heard looked (.ok streams)) beside state := by
  unfold probeFetched
  refine fares_change passage.carries (isGentle_sayProbing _) held fun seen held => ?_
  rw [stage.work_bind]
  refine fares_bind ((passage.probes streams held).mono fun outcomes beside later reported => ?_)
  -- this look decides on the summary: later requests to stop change nothing in it
  refine fares_act (passage.firm streams outcomes beside) reported fun seen reported => ?_
  obtain ⟨allowed, looked⟩ := passage.looks reported
  refine ⟨allowed, ?_⟩
  have carries := passage.concludes streams outcomes (stage.engine seen).isCancelled
  show (stage.work (Work.now >>= _)).Fares _ _ _ _ _
  rw [stage.work_bind]
  refine fares_bind ((fares_now carries.steady (carries.waits rfl) looked).mono ?_)
  intro completedAt beside later looked
  refine fares_change carries (isGentle_finish _) looked fun last looked => ?_
  refine fares_change carries (isGentle_keep _) looked fun last looked => ?_
  exact fares_done (passage.firm_come _ _ _) ⟨outcomes, _, startedAt, completedAt, rfl, looked⟩

theorem fares_fetchAndProbe (size : UInt32) (only : Option (List Int)) (startedAt : Instant)
    (held : heard beside state) :
    (stage.work (fetchAndProbe settings size only startedAt)).Fares stage.outside manner
      (Come heard looked (around.listed only)) beside state := by
  unfold fetchAndProbe
  refine fares_change passage.carries (isGentle_say _) held fun seen held => ?_
  rw [stage.work_bind]
  refine fares_bind ((fares_fetch passage.carries passage.same size only held).mono ?_)
  rintro reply beside later ⟨rfl, held⟩
  cases around.listed only with
  | error error =>
    refine fares_change passage.carries (isGentle_say _) held fun last held => ?_
    exact fares_done (passage.firm_come _ _ _) ⟨rfl, held⟩
  | ok streams => exact passage.fares_probeFetched streams startedAt held

/-- **A run that has the engine** begins by taking back whatever asked the engine to stop. -/
theorem fares_runTaken {taken : σ → Prop} (firm : Firm manner taken) (before : taken state)
    (rearms : ∀ state, taken state → manner.allowed state (stage.put (stage.engine state).rearm state) ∧
      heard beside (stage.put (stage.engine state).rearm state))
    (size : UInt32) (only : Option (List Int)) (skipRefresh : Bool) :
    (stage.work (runTaken settings size only skipRefresh)).Fares stage.outside manner
      (Come heard looked (around.listed only)) beside state := by
  have carries := passage.carries
  rw [runTaken_eq]
  refine fares_act firm before fun seen taken => ?_
  obtain ⟨allowed, held⟩ := rearms seen taken
  refine ⟨allowed, ?_⟩
  show (stage.work (Work.now >>= _)).Fares _ _ _ _ _
  rw [stage.work_bind]
  refine fares_bind ((fares_now carries.steady (carries.waits Ask.isPlain_wallClock) held).mono ?_)
  intro startedAt beside later held
  refine fares_change carries isGentle_start held fun seen held => ?_
  rw [stage.work_bind]
  refine fares_bind (Fares.mono ?_ fun _ _ _ held => passage.fares_fetchAndProbe size only startedAt held)
  cases skipRefresh with
  | true => exact fares_done (carries.steady.others beside) held
  | false => exact fares_refreshAccounts carries held

end Passage

/-- The state with the engine given back. -/
def Stage.freed (stage : Stage σ) (state : σ) : σ := stage.put (stage.engine state).free state

/-- What has to be shown of the moments at which a run takes the engine and gives it back, beside a program
that holds and watches something already: before it knows whether the engine is taken, once it is its own,
and when it is no longer. -/
structure Taking (stage : Stage σ) (manner : Manner σ) (heard : Beside σ → σ → Prop)
    (come : Except EngineError RunSummary → Beside σ → σ → Prop) (beside : Beside σ) (owned taken : σ → Prop)
    (given : Except EngineError RunSummary → σ → Prop) : Prop where
  firmOwned : Firm manner owned
  firmTaken : Firm manner taken
  firmGiven : ∀ reply, Firm manner (given reply)
  rejects : ∀ state, owned state → (stage.engine state).isProbing = true →
    manner.allowed state (stage.put (stage.engine state).take state) ∧
      given (.error .alreadyRunning) (stage.put (stage.engine state).take state)
  takes : ∀ state, owned state → (stage.engine state).isProbing = false →
    manner.allowed state (stage.put (stage.engine state).take state) ∧
      taken (stage.put (stage.engine state).take state)
  rearms : ∀ state, taken state → manner.allowed state (stage.put (stage.engine state).rearm state) ∧
    heard (beside.holding stage.freed) (stage.put (stage.engine state).rearm state)
  frees : ∀ reply last state, come reply last state → last.held = stage.freed :: beside.held ∧
    manner.allowed state (stage.freed state) ∧ given reply (stage.freed state)

/-- **A run gives the engine back**, if it got it. -/
theorem Passage.fares_run (passage : Passage stage manner settings around heard reported looked)
    {only : Option (List Int)} {owned taken : σ → Prop} {given : Except EngineError RunSummary → σ → Prop}
    (taking : Taking stage manner heard (Come heard looked (around.listed only)) beside owned taken given)
    (size : UInt32) (skipRefresh : Bool) (before : owned state) :
    (stage.work (run settings size only skipRefresh)).Fares stage.outside manner
      (fun reply last later => last.held = beside.held ∧ given reply later) beside state := by
  have firm {reply : Except EngineError RunSummary} {last : Beside σ} : Firm manner fun later =>
      last.held = beside.held ∧ given reply later :=
    fun _ _ changed told => ⟨told.1, taking.firmGiven _ _ _ changed told.2⟩
  refine fares_act taking.firmOwned before fun seen owned => ?_
  show _ ∧ (stage.work (if (stage.engine seen).isProbing = true then pure (.error .alreadyRunning) else do
    holding EngineCell.free
    let reply ← runTaken settings size only skipRefresh
    lettingGo
    return reply)).Fares _ _ _ beside _
  cases probing : (stage.engine seen).isProbing with
  | true =>
    obtain ⟨allowed, given⟩ := taking.rejects seen owned probing
    exact ⟨allowed, fares_done firm ⟨rfl, given⟩⟩
  | false =>
    obtain ⟨allowed, taken⟩ := taking.takes seen owned probing
    refine ⟨allowed, fares_hold taking.firmTaken taken fun seen taken => ?_⟩
    show (stage.work (runTaken settings size only skipRefresh >>= fun reply => lettingGo >>= fun _ =>
      pure reply)).Fares _ _ _ (beside.holding stage.freed) seen
    rw [stage.work_bind]
    refine fares_bind ((passage.fares_runTaken taking.firmTaken taken taking.rearms size only skipRefresh).mono ?_)
    intro reply last later come
    refine fares_letGo (passage.firm_come _ _ _) come fun seen come => ?_
    obtain ⟨held, allowed, given⟩ := taking.frees reply last seen come
    have rest : last.lettingGo.held = beside.held := congrArg List.tail held
    rw [held]
    exact ⟨allowed, fares_done firm ⟨rest, given⟩⟩

end StreamWatch.Engine
