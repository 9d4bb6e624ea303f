/-
**What comes of one stream of a run.**

A stream whose turn comes after a request to stop is left alone. Any other one comes to an outcome that
is a matter of its address and of what the outside says about it, and so does the record that is kept of
it, whatever the other streams of the run do in between.

* `outcomeOf`, `recordOf`: what a stream and its record come to;
* `Stands`: whether the media tools were asked of a stream, and what is kept of it;
* `ensures_probeStream`: a stream comes to its fate;
* `within_probeStream`: it minds its own;
* `pays_probeStream`: it counts its outcome, and nothing else.
-/

import StreamWatch.Proofs.Engine.Site
import StreamWatch.Proofs.Engine.Summary

namespace StreamWatch.Engine

open Program

/-! ### Outcomes -/

namespace Verdict

variable (verdict : Verdict) (settings : ProbingSettings)

/-- Whether the stream shows a black screen, when that is looked for and could be told. -/
def black : Option Bool := if settings.detectBlackScreen then verdict.sample.toOption else none

/-- What a probe comes to. What cannot be kept does not count as a success. -/
def outcome : StreamOutcome :=
  match verdict.probe with
  | .ok _ =>
    match verdict.fault with
    | none => .succeeded (verdict.black settings == some true)
    | some error => .failed ("storing result failed: " ++ error.message)
  | .error error => if error.isTimeout then .timedOut error.message else .failed error.message

/-- The call by which what a probe came to is to be kept. -/
def call (id : Int) : StoreCall :=
  match verdict.probe with
  | .ok metrics => .recordSuccess id metrics (verdict.black settings)
  | .error error => .recordFailure id (if error.isTimeout then .timeout else .failed) (some error.message)

/-- What becomes of the record of a stream that is probed, its time aside. -/
def record (id : Int) (known : Option StreamStats) : Option StreamStats :=
  if verdict.fault.isNone then (verdict.call settings id).advance default id known else known

/-- Whether the store replies as it should. -/
def Lets {α : Type} (reply : Except StoreError α) : Prop :=
  match verdict.fault with
  | some error => reply = .error error
  | none => ∃ value, reply = .ok value

end Verdict

variable (settings : ProbingSettings) (verdict : Verdict) (stream : Stream)

/-- What a stream comes to whose turn comes in time. -/
def outcomeOf : StreamOutcome :=
  match address? stream with
  | none => .skipped "no stream URL"
  | some _ => verdict.outcome settings

/-- What becomes of the record of a stream whose turn comes in time. -/
def recordOf (known : Option StreamStats) : Option StreamStats :=
  if (address? stream).isSome then verdict.record settings stream.id known else known

theorem outcomeOf_ne_notStarted : outcomeOf settings verdict stream ≠ .notStarted := by
  unfold outcomeOf Verdict.outcome
  repeat' split
  all_goals exact nofun

/-- What a run does with a stream between its turn and the count. -/
def probeOrSkip : Work EngineCell StreamOutcome :=
  match address? stream with
  | none => pure (.skipped "no stream URL")
  | some url => probeAndKeep settings stream.id url

theorem probeStream_eq : probeStream settings stream =
    look (·.isCancelled) >>= fun isStopped =>
      if isStopped = true then pure (stream.id, .notStarted)
      else
        change (EngineCell.sayItem stream.name) >>= fun _ =>
          probeOrSkip settings stream >>= fun outcome =>
            change (EngineCell.count outcome) >>= fun _ => pure (stream.id, outcome) := by
  unfold probeStream probeOrSkip
  cases address? stream <;> rfl

/-! ### Where a stream stands -/

variable {settings verdict} {streams : List Stream} {place : Fin streams.length} {known : Option StreamStats}
  {site : Site}

/-- What there is around one stream of a run, the other streams of it included. -/
def besides (verdict : Verdict) (streams : List Stream) (place : Fin streams.length) :
    Surroundings Site Ask Ask.Reply :=
  ⟨answersAbout verdict place, Spares streams place⟩

/-- **Where a stream stands**: whether the media tools were asked of it, and what is kept of it, should
no other stream have its id. -/
structure Stands (streams : List Stream) (place : Fin streams.length) (isProbed : Prop)
    (known : Option StreamStats) (site : Site) : Prop where
  probed : place.val ∈ site.probed ↔ isProbed
  record : (streams.map (·.id)).Nodup →
    (site.store.get? (streams.get place).id).map StreamStats.untimed = known

theorem stable_stands {isProbed : Prop} :
    Stable (besides verdict streams place) (Stands streams place isProbed known) := by
  intro site later spares stands
  refine ⟨spares.probed.trans stands.probed, fun distinct => ?_⟩
  rw [spares.record distinct]
  exact stands.record distinct

theorem Stands.putCell {isProbed : Prop} (stands : Stands streams place isProbed known site)
    (cell : EngineCell) : Stands streams place isProbed known (site.putCell cell) :=
  ⟨stands.probed, stands.record⟩

theorem Stands.probe (stands : Stands streams place False known site) :
    Stands streams place True known (site.probe place) :=
  ⟨iff_true_intro List.mem_cons_self, stands.record⟩

theorem Stands.keep {isProbed : Prop} (stands : Stands streams place isProbed known site) (now : Instant)
    (call : StoreCall) :
    Stands streams place isProbed (call.advance default (streams.get place).id known) (site.keep now call) := by
  refine ⟨stands.probed, fun distinct => ?_⟩
  show ((site.store.answer now call).2.get? _).map StreamStats.untimed = _
  rw [Memory.get?_answer, ← StoreCall.advance_untimed, stands.record distinct]

/-- **What may come of a stream**: it is left alone after a request to stop, or it comes to its
outcome. -/
def Fate (settings : ProbingSettings) (verdict : Verdict) (streams : List Stream) (place : Fin streams.length)
    (known : Option StreamStats) (value : Int × StreamOutcome) (site : Site) : Prop :=
  value.1 = (streams.get place).id ∧
    ((value.2 = .notStarted ∧ site.cell.isCancelled = true ∧ Stands streams place False known site) ∨
      (value.2 = outcomeOf settings verdict (streams.get place) ∧
        Stands streams place ((address? (streams.get place)).isSome = true)
          (recordOf settings verdict (streams.get place) known) site))

theorem stable_fate {value : Int × StreamOutcome} :
    Stable (besides verdict streams place) (Fate settings verdict streams place known value) := by
  rintro site later spares ⟨own, ⟨unstarted, stopped, stands⟩ | ⟨same, stands⟩⟩
  · exact ⟨own, .inl ⟨unstarted, spares.stopped stopped, stable_stands _ _ spares stands⟩⟩
  · exact ⟨own, .inr ⟨same, stable_stands _ _ spares stands⟩⟩

/-! ### What a stream comes to -/

theorem ensures_change {around : Surroundings Site Ask Ask.Reply} {α : Type} {goal : α → Site → Prop}
    {f : EngineCell → EngineCell} {next : Unit → Work EngineCell α} {holds : Site → Prop}
    (stable : Stable around holds) (before : holds site)
    (rest : ∀ seen, holds seen → (onSite (next ⟨⟩)).Ensures around goal (seen.putCell (f seen.cell))) :
    (onSite (change f >>= next)).Ensures around goal site :=
  ensures_act stable before rest

theorem ensures_probe (stands : Stands streams place False known site) (url : String) :
    (onSite (Work.probe url)).Ensures (besides verdict streams place)
      (fun reply later => reply = verdict.probe ∧ Stands streams place True known later) site := by
  refine ensures_ask stable_stands stands fun seen stands reply after answered => ?_
  obtain ⟨rfl, rfl⟩ := answered
  exact ⟨_, rfl, ensures_done ((stable_const _).and stable_stands) ⟨rfl, stands.probe⟩⟩

theorem ensures_blackVerdict {isProbed : Prop} (stands : Stands streams place isProbed known site)
    (settings : ProbingSettings) (url : String) :
    (onSite (blackVerdict settings url)).Ensures (besides verdict streams place)
      (fun isBlack later => isBlack = verdict.black settings ∧ Stands streams place isProbed known later)
      site := by
  unfold blackVerdict Verdict.black
  split
  · refine ensures_ask stable_stands stands fun seen stands reply after answered => ?_
    obtain ⟨rfl, rfl⟩ := answered
    exact ⟨_, rfl, ensures_done ((stable_const _).and stable_stands) ⟨rfl, stands⟩⟩
  · exact ensures_done ((stable_const _).and stable_stands) ⟨rfl, stands⟩

theorem exists_answer (store : Memory) (now : Instant) (call : StoreCall) :
    ∃ value, (store.answer now call).1 = .ok value := by
  cases call <;> exact ⟨_, rfl⟩

/-- The store keeps what it is told to, or says why not and stays as it is. -/
theorem ensures_store (stands : Stands streams place True known site) (call : StoreCall) :
    (onSite (Work.store call)).Ensures (besides verdict streams place)
      (fun reply later => verdict.Lets reply ∧
        Stands streams place True
          (if verdict.fault.isNone then call.advance default (streams.get place).id known else known) later)
      site := by
  refine ensures_ask stable_stands stands fun seen stands reply after answered => ?_
  unfold Verdict.Lets
  have answered : answersAbout verdict place (.store call) seen reply after := answered
  obtain ⟨error, fault, rfl, rfl⟩ | ⟨fault, now, rfl, rfl⟩ := store_answered answered
  · rw [fault]
    exact ⟨_, rfl, ensures_done ((stable_const _).and stable_stands) ⟨rfl, stands⟩⟩
  · rw [fault]
    exact ⟨_, rfl, ensures_done ((stable_const _).and stable_stands)
      ⟨exists_answer _ _ _, stands.keep now call⟩⟩

/-- **A probe** comes to what the outside says about the stream, and the store keeps that or does not. -/
theorem ensures_probeAndKeep (stands : Stands streams place False known site) (settings : ProbingSettings)
    (url : String) :
    (onSite (probeAndKeep settings (streams.get place).id url)).Ensures (besides verdict streams place)
      (fun outcome later => outcome = verdict.outcome settings ∧
        Stands streams place True (verdict.record settings (streams.get place).id known) later) site := by
  have stable {outcome : StreamOutcome} {known : Option StreamStats} :
      Stable (besides verdict streams place) fun later =>
        outcome = verdict.outcome settings ∧ Stands streams place True known later :=
    (stable_const _).and stable_stands
  unfold probeAndKeep
  rw [onSite_bind]
  refine ensures_bind ((ensures_probe stands url).mono ?_)
  rintro reply later ⟨rfl, stands⟩
  cases probed : verdict.probe with
  | ok metrics =>
    simp only [onSite_bind]
    refine ensures_bind ((ensures_blackVerdict stands settings url).mono ?_)
    rintro isBlack later ⟨rfl, stands⟩
    refine ensures_bind ((ensures_store stands _).mono ?_)
    rintro reply later ⟨lets, stands⟩
    have kept : Stands streams place True (verdict.record settings (streams.get place).id known) later := by
      simpa only [Verdict.record, Verdict.call, probed] using stands
    cases fault : verdict.fault with
    | none =>
      obtain ⟨value, rfl⟩ : ∃ value, reply = .ok value := by simpa only [Verdict.Lets, fault] using lets
      exact ensures_done stable ⟨by simp only [Verdict.outcome, probed, fault], kept⟩
    | some error =>
      obtain rfl : reply = .error error := by simpa only [Verdict.Lets, fault] using lets
      exact ensures_done stable ⟨by simp only [Verdict.outcome, probed, fault], kept⟩
  | error error =>
    simp only [onSite_bind]
    refine ensures_bind ((ensures_store stands _).mono ?_)
    rintro reply later ⟨-, stands⟩
    have kept : Stands streams place True (verdict.record settings (streams.get place).id known) later := by
      simpa only [Verdict.record, Verdict.call, probed] using stands
    exact ensures_done stable ⟨by simp only [Verdict.outcome, probed], kept⟩

theorem ensures_probeOrSkip (stands : Stands streams place False known site) (settings : ProbingSettings) :
    (onSite (probeOrSkip settings (streams.get place))).Ensures (besides verdict streams place)
      (fun outcome later => outcome = outcomeOf settings verdict (streams.get place) ∧
        Stands streams place ((address? (streams.get place)).isSome = true)
          (recordOf settings verdict (streams.get place) known) later) site := by
  unfold probeOrSkip outcomeOf recordOf
  cases address? (streams.get place) with
  | none => exact ensures_done ((stable_const _).and stable_stands) ⟨rfl, by simpa using stands⟩
  | some url => simpa using ensures_probeAndKeep stands settings url

/-- **A stream comes to its fate**, whatever the others of its run do. -/
theorem ensures_probeStream (stands : Stands streams place False known site) (settings : ProbingSettings) :
    (onSite (probeStream settings (streams.get place))).Ensures (besides verdict streams place)
      (Fate settings verdict streams place known) site := by
  rw [probeStream_eq]
  refine ensures_act stable_stands stands fun seen stands => ?_
  show (onSite (if seen.cell.isCancelled = true then _ else _)).Ensures _ _ _
  split
  · next stopped => exact ensures_done stable_fate ⟨rfl, .inl ⟨rfl, stopped, stands⟩⟩
  · refine ensures_change stable_stands stands fun seen stands => ?_
    rw [onSite_bind]
    refine ensures_bind ((ensures_probeOrSkip (stands.putCell _) settings).mono ?_)
    rintro outcome later ⟨rfl, stands⟩
    refine ensures_change stable_stands stands fun seen stands => ?_
    exact ensures_done stable_fate ⟨rfl, .inr ⟨rfl, stands.putCell _⟩⟩

/-! ### What a stream does -/

/-- What the questions of a stream do: they leave the cell alone and all that is of other streams. -/
structure Asks (streams : List Stream) (place : Fin streams.length) (site later : Site) : Prop where
  cell : later.cell = site.cell
  probed : ∀ other, other ≠ place.val → (other ∈ later.probed ↔ other ∈ site.probed)
  record : ∀ id, id ≠ (streams.get place).id → later.store.get? id = site.store.get? id

theorem Asks.minds {later : Site} (asks : Asks streams place site later) : Minds streams place site later where
  stopped := by rw [asks.cell]
  total := by rw [asks.cell]
  current counted := by rwa [asks.cell]
  probed := asks.probed
  record := asks.record

theorem within_probe (url : String) :
    (onSite (Work.probe url)).Within (answersAbout verdict place) (Asks streams place) fun _ => True := by
  rintro site reply after ⟨rfl, rfl⟩
  refine ⟨_, rfl, ⟨rfl, fun other differ => ?_, fun _ _ => rfl⟩, trivial⟩
  show other ∈ place.val :: site.probed ↔ _
  rw [List.mem_cons, or_iff_right differ]

theorem within_blackVerdict (settings : ProbingSettings) (url : String) :
    (onSite (blackVerdict settings url)).Within (answersAbout verdict place) (Asks streams place)
      fun _ => True := by
  unfold blackVerdict
  split
  · rintro site reply after ⟨rfl, rfl⟩
    exact ⟨_, rfl, ⟨rfl, fun _ _ => Iff.rfl, fun _ _ => rfl⟩, trivial⟩
  · exact trivial

theorem within_store {call : StoreCall}
    (alone : ∀ other, other ≠ (streams.get place).id → call.names other = false) :
    (onSite (Work.store call)).Within (answersAbout verdict place) (Asks streams place) fun _ => True := by
  intro site reply after answered
  obtain ⟨error, -, rfl, rfl⟩ | ⟨-, now, rfl, rfl⟩ := store_answered answered
  · exact ⟨_, rfl, ⟨rfl, fun _ _ => Iff.rfl, fun _ _ => rfl⟩, trivial⟩
  · refine ⟨_, rfl, ⟨rfl, fun _ _ => Iff.rfl, fun id differ => ?_⟩, trivial⟩
    show (site.store.answer now call).2.get? id = _
    rw [Memory.get?_answer, StoreCall.advance_of_not_names (alone id differ)]

theorem names_record {id other : Int} (differ : other ≠ id) :
    (∀ metrics isBlack, (StoreCall.recordSuccess id metrics isBlack).names other = false) ∧
      ∀ status error, (StoreCall.recordFailure id status error).names other = false := by
  have apart : (id == other) = false := beq_eq_false_iff_ne.mpr (Ne.symm differ)
  constructor
  · intro metrics isBlack
    simp only [StoreCall.names, StoreCall.probes, StoreCall.endsRun, apart, Bool.or_self]
  · intro status error
    simp only [StoreCall.names, StoreCall.probes, StoreCall.endsRun, apart, Bool.or_self]

/-- Between its turn and the count a stream asks, and never comes back as if it had not been started. -/
theorem within_probeOrSkip (settings : ProbingSettings) :
    (onSite (probeOrSkip settings (streams.get place))).Within (answersAbout verdict place) (Asks streams place)
      (· ≠ .notStarted) := by
  unfold probeOrSkip
  cases address? (streams.get place) with
  | none => exact nofun
  | some url =>
    show (onSite (probeAndKeep settings _ url)).Within _ _ _
    unfold probeAndKeep
    rw [onSite_bind]
    refine within_bind (within_probe url) fun reply _ => ?_
    cases reply with
    | ok metrics =>
      simp only [onSite_bind]
      refine within_bind (within_blackVerdict settings url) fun isBlack _ => ?_
      refine within_bind (within_store fun _ differ => (names_record differ).1 _ _) fun reply _ => ?_
      cases reply <;> exact nofun
    | error error =>
      simp only [onSite_bind]
      refine within_bind (within_store fun _ differ => (names_record differ).2 _ _) fun reply _ => ?_
      show (if _ then _ else _) ≠ _
      split <;> exact nofun

theorem minds_putCell {cell : EngineCell} (stopped : cell.isCancelled = site.cell.isCancelled)
    (total : cell.progress.total = site.cell.progress.total)
    (current : site.cell.progress.current = site.cell.progress.processed →
      cell.progress.current = cell.progress.processed) :
    Minds streams place site (site.putCell cell) :=
  ⟨stopped, total, current, fun _ _ => Iff.rfl, fun _ _ => rfl⟩

theorem minds_count {outcome : StreamOutcome} (started : outcome ≠ .notStarted) :
    Minds streams place site (site.putCell (site.cell.count outcome)) := by
  refine minds_putCell rfl ?_ fun counted => ?_
  · cases outcome <;> rfl
  · cases outcome with
    | notStarted => exact absurd rfl started
    | succeeded | failed | timedOut | skipped =>
      simp only [EngineCell.count, Progress.processed] at counted ⊢
      omega

/-- **A stream minds its own.** -/
theorem within_probeStream (settings : ProbingSettings) :
    (onSite (probeStream settings (streams.get place))).Within (answersAbout verdict place) (Minds streams place)
      fun _ => True := by
  rw [probeStream_eq]
  refine ⟨fun site => minds_putCell rfl rfl id, fun before => ?_⟩
  show (onSite (if before.cell.isCancelled = true then _ else _)).Within _ _ _
  split
  · trivial
  · refine ⟨fun site => minds_putCell rfl rfl id, fun _ => ?_⟩
    show (onSite (probeOrSkip settings _ >>= _)).Within _ _ _
    rw [onSite_bind]
    refine within_bind ((within_probeOrSkip settings).mono fun _ _ asks => asks.minds) fun outcome started => ?_
    exact ⟨fun site => minds_count started, fun _ => trivial⟩

/-- The successes, failures and skips of the progress. -/
def counts (site : Site) : Tally :=
  ⟨site.cell.progress.succeeded, site.cell.progress.failed, site.cell.progress.skipped⟩

/-- **A stream counts its outcome**, and nothing else. -/
theorem pays_probeStream (settings : ProbingSettings) :
    (onSite (probeStream settings (streams.get place))).Pays (answersAbout verdict place) counts (·.2.share) 0 := by
  rw [probeStream_eq]
  intro site
  refine ⟨0, rfl, ?_⟩
  show (onSite (if site.cell.isCancelled = true then _ else _)).Pays _ _ _ _
  split
  · rfl
  · intro site
    refine ⟨0, rfl, ?_⟩
    show (onSite (probeOrSkip settings _ >>= _)).Pays _ _ _ _
    rw [onSite_bind]
    have silent : ∀ site later, Asks streams place site later → counts later = counts site :=
      fun site later asks => by rw [counts, counts, asks.cell]
    refine pays_bind ((within_probeOrSkip settings).mono silent) fun outcome started => fun site => ?_
    have added : outcome.share = 0 + 0 + 0 + outcome.share := by simp only [zero_add]
    refine ⟨outcome.share, ?_, added⟩
    cases outcome with
    | notStarted => exact absurd rfl started
    | succeeded | failed | timedOut | skipped => rfl

end StreamWatch.Engine
