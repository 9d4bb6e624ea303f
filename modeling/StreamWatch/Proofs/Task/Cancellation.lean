/-
**Requests to stop a task that probes streams.**

Whenever a task whose run has the engine is asked to stop, it starts no more streams: the engine may have
taken the request back when the run began, but it gets it again before the run has its streams, provided
that a listing had to be waited for. What was started before is finished. Streams that were not started
are left as they are, and the result tells of them.

* `Probed`, `Ran`: what a run comes to that has the engine;
* `passage`, `taking`, `driving`, `minding`: how it passes, on behalf of a task;
* `Heeds`: what it means for a run to heed requests to stop;
* `errand_heeds`: both tasks that probe streams do.
-/

import StreamWatch.Proofs.Task.Underway

namespace StreamWatch.ProbeTask

open Engine Program Desk

variable {around : Circumstances} {settings : ProbingSettings} {streams : List Stream} {store : Memory}
  {beside : Beside Desk} {desk later : Desk}

/-! ### What a run comes to -/

/-- What becomes of the stream at a place: it is left alone, or it was started before any request to stop
and nothing is noted of it once it has been counted. -/
def Fate (place : Nat) (log : List Event) : Prop :=
  (started log place = false ∧ ∀ ask, .asked place ask ∉ log) ∨
    (started log place = true ∧ Closed place log ∧ (listingWaited log = true → InTime place log))

/-- Whether the streams of a run have come to their ends, and what it came to tells of those that were
left alone. -/
structure Probed (limit : Nat) (streams : List Stream) (store : Memory) (summary : RunSummary) (desk : Desk) :
    Prop extends Ledger limit streams store desk where
  fate : ∀ place < streams.length, Fate place desk.log
  total : summary.total = streams.length
  told : (∃ place < streams.length, started desk.log place = false) → summary.isCancelled = true

theorem Fate.aside {place : Nat} (fate : Fate place desk.log) (aside : Aside desk later) : Fate place later.log := by
  have listing := aside.listingWaited
  obtain ⟨more, log, nobody⟩ := aside.log
  have foreign : Foreign place more := Nobody.foreign (fun event among => (nobody event among).1) place
  unfold Fate
  rw [listing, log, started_append_of_foreign foreign]
  refine fate.imp (And.imp_right fun unasked question among => ?_) ?_
  · exact (List.mem_append.mp among).elim (unasked question) (foreign.not_asked question)
  · rintro ⟨begun, closed, inTime⟩
    exact ⟨begun, closed.append foreign, fun listed => (inTime listed).append begun more⟩

theorem Probed.aside {limit : Nat} {summary : RunSummary} (probed : Probed limit streams store summary desk)
    (aside : Aside desk later) : Probed limit streams store summary later := by
  refine ⟨probed.toLedger.aside aside, fun place inside => (probed.fate place inside).aside aside, probed.total, ?_⟩
  obtain ⟨more, log, nobody⟩ := aside.log
  rintro ⟨place, inside, unstarted⟩
  rw [log, started_append_of_foreign (Nobody.foreign (fun event among => (nobody event among).1) place)] at unstarted
  exact probed.told ⟨place, inside, unstarted⟩

/-- What a summary tells of streams that were not started. -/
theorem told_ofOutcomes {outcomes : List (Int × StreamOutcome)} {total : Nat} (all : outcomes.length = total)
    {entry : Int × StreamOutcome} (known : entry ∈ outcomes) (unstarted : entry.2 = .notStarted)
    (startedAt completedAt : Instant) :
    (RunSummary.ofOutcomes total true startedAt completedAt outcomes).isCancelled = true := by
  have counts := (RunSummary.countP_add outcomes).1
  have some : 0 < outcomes.countP (·.2.isNotStarted) :=
    List.countP_pos_iff.mpr ⟨entry, known, StreamOutcome.isNotStarted_iff.mpr unstarted⟩
  rw [RunSummary.ofOutcomes_eq, Bool.true_and, decide_eq_true_eq]
  omega

/-- Whether a run has had nothing done with any stream. -/
structure Untouched (store : Memory) (desk : Desk) : Prop where
  store : desk.store = store
  nobody : Nobody desk.log

/-- What comes of a run that has the engine. -/
def Ran (settings : ProbingSettings) (listed : Except RemoteError (List Stream)) (store : Memory)
    (reply : Except EngineError RunSummary) (desk : Desk) : Prop :=
  match listed with
  | .error error => reply = .error (.fetch error) ∧ Untouched store desk
  | .ok streams => ∃ summary, reply = .ok summary ∧ Probed settings.concurrency streams store summary desk

theorem Untouched.aside (untouched : Untouched store desk) (aside : Aside desk later) : Untouched store later := by
  obtain ⟨⟨more, log, nobody⟩, same⟩ := aside
  refine ⟨same.trans untouched.store, ?_⟩
  rw [log]
  exact untouched.nobody.append fun event among => (nobody event among).1

theorem Ran.aside {listed : Except RemoteError (List Stream)} {reply : Except EngineError RunSummary}
    (ran : Ran settings listed store reply desk) (aside : Aside desk later) :
    Ran settings listed store reply later := by
  cases listed with
  | error error => exact ⟨ran.1, ran.2.aside aside⟩
  | ok streams =>
    obtain ⟨summary, told, probed⟩ := ran
    exact ⟨summary, told, probed.aside aside⟩

/-- What does not matter unless a listing had to be waited for. -/
def Waited (claim : Desk → Prop) (desk : Desk) : Prop := listingWaited desk.log = true → claim desk

theorem Waited.aside {claim : Desk → Prop} (waited : Waited claim desk) (aside : Aside desk later)
    (kept : claim desk → claim later) : Waited claim later :=
  fun listed => kept (waited (aside.listingWaited.symm.trans listed))

theorem waited_of_before {claim : Desk → Prop} (before : Before store desk) : Waited claim desk := by
  intro listed
  rw [before.unlisted] at listed
  cases listed

theorem firm_waited {listed : Except RemoteError (List Stream)} {reply : Except EngineError RunSummary} :
    Firm manner fun desk => Waited (Ran settings listed store reply) desk :=
  fun _ _ changed waited => waited.aside (aside_of_others changed) fun ran => ran.aside (aside_of_others changed)

/-! ### How a run passes -/

/-- Whether the streams of a run have come to some outcomes. -/
def Reached (limit : Nat) (streams : List Stream) (store : Memory) (outcomes : List (Int × StreamOutcome))
    (beside : Beside Desk) (desk : Desk) : Prop :=
  ∃ alert results, outcomes = results.map (·.2) ∧ Reported alert limit streams store results beside desk

/-- Whether they have, and a run that left streams alone has seen that it was asked to stop. -/
structure Looked (limit : Nat) (streams : List Stream) (store : Memory) (outcomes : List (Int × StreamOutcome))
    (stopped : Bool) (beside : Beside Desk) (desk : Desk) : Prop where
  reached : Reached limit streams store outcomes beside desk
  seen : (∃ entry ∈ outcomes, entry.2 = .notStarted) → stopped = true

section
variable {limit : Nat} {outcomes : List (Int × StreamOutcome)} {stopped : Bool}

theorem firm_reached : Firm manner (Reached limit streams store outcomes beside) := by
  rintro desk later changed ⟨alert, results, same, reported⟩
  exact ⟨alert, results, same, steady_reported.others _ _ _ changed reported⟩

theorem Reached.amid (reached : Reached limit streams store outcomes beside desk) (amid : Amid desk later) :
    Reached limit streams store outcomes beside later := by
  obtain ⟨alert, results, same, reported⟩ := reached
  exact ⟨alert, results, same, reported.amid amid⟩

theorem carries_looked :
    (Desk.stage around).Carries manner (Looked limit streams store outcomes stopped) (· = .wallClock) where
  steady := by
    refine ⟨fun _ _ _ changed looked => ⟨firm_reached _ _ changed looked.reached, looked.seen⟩, fun _ => trivial, ?_⟩
    rintro beside desk action ⟨⟨alert, results, same, reported⟩, seen⟩ watches
    exact ⟨trivial, ⟨alert, results, same, (steady_reported.watched reported watches).2⟩, seen⟩
  lets gentle _ _ looked := ⟨trivial, looked.reached.amid (amid_putEngine gentle _), looked.seen⟩
  waits := by
    rintro ask rfl isAsleep beside desk looked isFree
    exact ⟨trivial, looked.reached.amid (amid_noted isAsleep rfl _), looked.seen⟩

/-- **A run that looked whether it was asked to stop when its streams had come to their ends** tells of those
that were left alone. -/
theorem Looked.probed (looked : Looked limit streams store outcomes stopped beside desk)
    (startedAt completedAt : Instant) :
    Probed limit streams store (RunSummary.ofOutcomes streams.length stopped startedAt completedAt outcomes) desk := by
  obtain ⟨⟨alert, results, rfl, reported⟩, seen⟩ := looked
  have exists_result {place : Nat} (inside : place < streams.length) : ∃ result ∈ results, result.1.val = place := by
    obtain ⟨result, known, same⟩ := List.mem_map.mp
      (reported.everyone.mem_iff.mpr (List.mem_finRange (⟨place, inside⟩ : Fin streams.length)))
    exact ⟨result, known, congrArg Fin.val same⟩
  refine ⟨reported.probing.toLedger, fun place inside => ?_, by rw [RunSummary.ofOutcomes_eq], ?_⟩
  · obtain ⟨result, known, rfl⟩ := exists_result inside
    refine (reported.settled result known).imp (fun ⟨_, alone⟩ => ⟨alone.unstarted, alone.unasked⟩) ?_
    exact fun ⟨_, through⟩ =>
      ⟨through.started, through.closed, fun waited => through.inTime (reported.probing.listed waited)⟩
  · rintro ⟨place, inside, unstarted⟩
    obtain ⟨result, known, rfl⟩ := exists_result inside
    obtain ⟨same, -⟩ | ⟨-, through⟩ := reported.settled result known
    · have listed : result.2 ∈ results.map (·.2) := List.mem_map_of_mem known
      have all := reported.everyone.length_eq
      rw [List.length_map, List.length_finRange] at all
      rw [seen ⟨_, listed, same⟩]
      exact told_ofOutcomes ((List.length_map _).trans all) listed same _ _
    · rw [through.started] at unstarted
      cases unstarted

end

/-- **How a run passes** that has the engine. -/
theorem passage (around : Circumstances) (settings : ProbingSettings) (store : Memory) :
    Passage (Desk.stage around) manner settings around (Underway store)
      (fun streams => Reached settings.concurrency streams store)
      (fun streams => Looked settings.concurrency streams store) where
  same _ := rfl
  carries := carries_underway
  probes streams underway := (fares_probeStreams underway).mono fun _ _ _ ⟨results, same, reported⟩ =>
    ⟨_, results, same, reported⟩
  firm _ _ _ := firm_reached
  looks {streams outcomes beside desk} reached := by
    refine ⟨trivial, reached.amid (amid_putEngine isGentle_id desk), ?_⟩
    obtain ⟨alert, results, rfl, reported⟩ := reached
    rintro ⟨entry, listed, unstarted⟩
    obtain ⟨result, known, rfl⟩ := List.mem_map.mp listed
    obtain ⟨-, alone⟩ | ⟨started, -⟩ := reported.settled result known
    · exact alone.stopped
    · exact absurd unstarted started
  concludes _ _ _ := carries_looked

/-! ### Runs on behalf of a task -/

/-- Whether the run is to be the task's own, which has not got the engine yet. -/
structure Owned (store : Memory) (desk : Desk) : Prop extends Before store desk where
  owns : desk.task.ownsRun = true

theorem firm_owned : Firm manner (Owned store) := by
  refine fun desk later changed owned => ⟨owned.toBefore.others changed, ?_⟩
  cases changed with
  | asks =>
    rw [askToStop_eq]
    exact owned.owns
  | stops | occupies => exact owned.owns

/-- What a run has come to is what it comes to, with the engine given back. -/
theorem ran_of_come {listed : Except RemoteError (List Stream)} {reply : Except EngineError RunSummary}
    (come : Come (Underway store) (fun streams => Looked settings.concurrency streams store) listed reply beside
      desk) :
    beside.held = [freed, disowned] ∧ Ran settings listed store reply desk.freed := by
  have aside : Aside desk desk.freed := aside_of_log_eq rfl rfl
  cases listed with
  | error error =>
    obtain ⟨told, underway⟩ := come
    exact ⟨underway.held, told, Untouched.aside ⟨underway.store, underway.nobody⟩ aside⟩
  | ok streams =>
    obtain ⟨outcomes, stopped, startedAt, completedAt, told, looked⟩ := come
    obtain ⟨alert, results, -, reported⟩ := looked.reached
    exact ⟨reported.probing.held, _, told, (looked.probed startedAt completedAt).aside aside⟩

/-- **A run takes the engine on behalf of a task, and gives it back.** It begins by taking back a request to
stop the engine. What is watched has not been carried out then, so a request to stop the task is still passed
on. -/
theorem taking (around : Circumstances) (settings : ProbingSettings) (store : Memory)
    (listed : Except RemoteError (List Stream)) :
    Taking (Desk.stage around) manner (Underway store)
      (Come (Underway store) (fun streams => Looked settings.concurrency streams store) listed) seat.besideRun
      (Owned store) (Underway store (seat.besideRun.holding freed))
      (fun reply => Waited (Ran settings listed store reply)) where
  firmOwned := firm_owned
  firmTaken := steady_underway.others _
  firmGiven _ := firm_waited
  rejects desk owned probing := by
    have before : Before store (desk.putEngine desk.task.engine.take) :=
      ⟨owned.toQuiet.putTask rfl, (if_pos probing.symm).trans owned.isNotOurs, owned.unlisted⟩
    exact ⟨trivial, waited_of_before before⟩
  takes desk owned probing := by
    have taken : (desk.putEngine desk.task.engine.take).isOurs = true := by
      refine if_neg ?_
      rw [show desk.task.engine.isProbing = false from probing]
      exact Bool.noConfusion
    exact ⟨trivial, owned.toQuiet.putTask rfl, rfl, owned.owns, taken, .inl ⟨rfl, owned.unlisted⟩⟩
  rearms desk underway := by
    have isOurs : (desk.putEngine desk.task.engine.rearm).isOurs = desk.isOurs := if_pos rfl
    refine ⟨trivial, underway.toQuiet.putTask rfl, rfl, underway.owns, isOurs.trans underway.isOurs, .inl ⟨rfl, ?_⟩⟩
    obtain ⟨-, unlisted⟩ | ⟨again, -⟩ := underway.watch
    · exact unlisted
    · cases again
  frees reply last desk come := by
    obtain ⟨held, ran⟩ := ran_of_come come
    exact ⟨held, trivial, fun _ => ran⟩

/-- What a task reports of a run that has the engine. -/
def Concluded (settings : ProbingSettings) (listed : Except RemoteError (List Stream)) (store : Memory)
    (report : TaskReport) (desk : Desk) : Prop :=
  ∃ reply, report = conclusion reply ∧ Ran settings listed store reply desk

theorem Concluded.aside {listed : Except RemoteError (List Stream)} {report : TaskReport}
    (concluded : Concluded settings listed store report desk) (aside : Aside desk later) :
    Concluded settings listed store report later := by
  obtain ⟨reply, told, ran⟩ := concluded
  exact ⟨reply, told, ran.aside aside⟩

theorem driving (settings : ProbingSettings) (store : Memory) (listed : Except RemoteError (List Stream)) :
    Driving seat manner (Before store) (Owned store) (fun reply => Waited (Ran settings listed store reply))
      (fun report => Waited (Concluded settings listed store report)) where
  firmBefore _ _ changed before := before.others changed
  firmTold _ _ _ changed waited :=
    waited.aside (aside_of_others changed) fun told => told.aside (aside_of_others changed)
  owns _ before := ⟨trivial, ⟨before.toQuiet.putTask rfl, (if_pos rfl).trans before.isNotOurs, before.unlisted⟩, rfl⟩
  looks _ desk waited :=
    have aside : Aside desk (seat.changed takeProgress desk) := aside_of_log_eq rfl rfl
    ⟨trivial, waited.aside aside fun ran => ran.aside aside⟩
  disowns reply desk waited :=
    have aside : Aside desk (seat.changed disown desk) := aside_of_log_eq rfl rfl
    ⟨trivial, fun listed => ⟨reply, rfl, Ran.aside (waited (aside.listingWaited.symm.trans listed)) aside⟩⟩

theorem suits (around : Circumstances) : seat.Suits (Desk.stage around) := fun work => zoom_zoom _ _ _ _ work

/-! ### Whole tasks -/

/-- The records of those streams whose last probe failed or ran out of time. -/
def stale (store : Memory) : List StreamStats := store.select fun stats => [.failed, .timeout].contains stats.status

/-- The ids of the streams a task is about, unless it is about all of them. -/
def Errand.scope (store : Memory) : Errand → Option (List Int)
  | all _ => none
  | failed => some ((stale store).map (·.streamId))

theorem Errand.scope_of_covers {errand : Errand} {only : Option (List Int)}
    (covers : errand.Covers (· = stale store) only) : only = errand.scope store := by
  cases errand with
  | all settings => exact covers
  | failed =>
    obtain ⟨found, rfl, same⟩ := covers
    exact same

theorem minding (around : Circumstances) (store : Memory) {told : TaskReport → Desk → Prop}
    (tells : ∀ report desk, Before store desk → told report desk) :
    Minding seat (Desk.stage around) manner (· = stale store) (Before store) told where
  steady := Firm.steady (fun _ _ changed before => before.others changed) fun _ _ => trivial
  waits := fun ⟨same, before⟩ _ => ⟨trivial, same, before.noted rfl⟩
  writes change kept desk before := ⟨trivial, before.putCell _ (kept _)⟩
  finds := by
    rintro desk reply after before ⟨value, ⟨error, rfl, rfl⟩ | ⟨now, rfl, rfl⟩, rfl⟩
    · exact ⟨rfl, _, rfl, nofun⟩
    · refine ⟨rfl, _, rfl, fun found same => ?_⟩
      rw [← before.store]
      exact (Except.ok.inj same).symm
  tells report desk before _ := tells report desk before

/-! ### What heeding is -/

/-- **Whether a run over some streams heeded requests to stop**, as the log and the store show, and
reports it. -/
structure Heeds (settings : ProbingSettings) (streams : List Stream) (store : Memory) (report : TaskReport)
    (desk : Desk) : Prop where
  /-- no stream is started once the task was asked to stop, or the engine is seen to know of it -/
  startsNone : ∀ before event after, desk.log = before ++ event :: after → event.stops = true →
    ∀ place < streams.length, started desk.log place = true → started before place = true
  /-- from then on the outside is asked about streams only that were in flight -/
  finishes : ∀ before event after, desk.log = before ++ event :: after → event.stops = true →
    ∀ place ask, .asked place ask ∈ after → place ∈ inFlight streams.length before
  /-- which are never more than there is room for, at most sixteen -/
  bounded : Bounded settings.concurrency streams.length desk.log ∧ settings.concurrency ≤ 16
  /-- asked to stop before the first stream was started, it asks about none and has nothing kept -/
  nothing : ∀ before after, desk.log = before ++ .cancelled :: after →
    (∀ place < streams.length, started before place = false) →
      (∀ place ask, .asked place ask ∉ desk.log) ∧ desk.store = store
  /-- what is kept of a stream stays as it is unless one of its id was started -/
  untouched : ∀ id, (∀ place : Fin streams.length, (streams.get place).id = id → started desk.log place = false) →
    desk.store.get? id = store.get? id
  /-- and the report tells when a stream was not started -/
  reported : (∃ place < streams.length, started desk.log place = false) →
    report.isCancelled = true ∧ report.total = streams.length

namespace Probed

variable {limit : Nat} {summary : RunSummary} (probed : Probed limit streams store summary desk)
include probed

/-- Only streams that were started are asked about. -/
theorem begun_of_asked {place : Nat} {question : Ask} (asked : .asked place question ∈ desk.log) :
    place < streams.length ∧ started desk.log place = true ∧ Closed place desk.log := by
  have inside := probed.inside _ asked place rfl
  obtain ⟨-, unasked⟩ | ⟨begun, closed, -⟩ := probed.fate place inside
  · exact absurd asked (unasked question)
  · exact ⟨inside, begun, closed⟩

theorem started_before (listed : listingWaited desk.log = true) {before after : List Event} {event : Event}
    (split : desk.log = before ++ event :: after) (stops : event.stops = true) {place : Nat}
    (inside : place < streams.length) (begun : started desk.log place = true) : started before place = true := by
  obtain ⟨unstarted, -⟩ | ⟨-, -, inTime⟩ := probed.fate place inside
  · rw [begun] at unstarted
    cases unstarted
  · have upTo : desk.log = (before ++ [event]) ++ after := by rw [split, List.append_cons]
    have begun := inTime listed _ _ upTo (by rw [List.any_append, List.any_cons, stops, Bool.true_or, Bool.or_true])
    rwa [started_append, started.eq_1 [event], List.any_cons, Event.starts_of_stops stops, List.any_nil,
      Bool.or_false, Bool.or_false] at begun

theorem inFlight_of_asked (listed : listingWaited desk.log = true) {before after : List Event} {event : Event}
    (split : desk.log = before ++ event :: after) (stops : event.stops = true) {place : Nat} {question : Ask}
    (asked : .asked place question ∈ after) : place ∈ inFlight streams.length before := by
  have later : .asked place question ∈ event :: after := List.mem_cons_of_mem _ asked
  have known : .asked place question ∈ desk.log := by
    rw [split]
    exact List.mem_append_right _ later
  obtain ⟨inside, begun, closed⟩ := probed.begun_of_asked known
  refine mem_inFlight.mpr ⟨inside, probed.started_before listed split stops inside begun, ?_⟩
  refine Bool.eq_false_iff.mpr fun counted => ?_
  exact (closed before _ split counted).not_asked question later

theorem kept_of_unstarted {id : Int}
    (unstarted : ∀ place : Fin streams.length, (streams.get place).id = id → started desk.log place = false) :
    desk.store.get? id = store.get? id := by
  refine (probed.kept id).resolve_right ?_
  rintro ⟨place, same, question, asked⟩
  have begun := (probed.begun_of_asked asked).2.1
  rw [unstarted place same] at begun
  cases begun

/-- **A run that was probed while its task could hear** heeded requests to stop. -/
theorem heeds (listed : listingWaited desk.log = true) (limited : limit = settings.concurrency) :
    Heeds settings streams store (ProbeTask.report summary) desk where
  startsNone _ _ _ split stops _ inside begun := probed.started_before listed split stops inside begun
  finishes _ _ _ split stops _ _ asked := probed.inFlight_of_asked listed split stops asked
  bounded := ⟨limited ▸ probed.bounded, concurrency_le settings⟩
  nothing before after split none := by
    have unstarted (place : Nat) (inside : place < streams.length) : started desk.log place = false := by
      refine Bool.eq_false_iff.mpr fun begun => ?_
      have early := probed.started_before listed split rfl inside begun
      rw [none place inside] at early
      cases early
    refine ⟨fun place question asked => ?_, SortedMap.ext_get? fun id => ?_⟩
    · obtain ⟨inside, begun, -⟩ := probed.begun_of_asked asked
      rw [unstarted place inside] at begun
      cases begun
    · exact probed.kept_of_unstarted fun place _ => unstarted place place.isLt
  untouched _ unstarted := probed.kept_of_unstarted unstarted
  reported unstarted := by
    obtain ⟨stopped, total⟩ := report_tells summary
    exact ⟨stopped.trans (probed.told unstarted), total.trans probed.total⟩

end Probed

/-- **What comes of a task** in whose course a listing had to be waited for: it has no streams, or heeds
requests to stop. -/
def Errand.Heeded (errand : Errand) (around : Circumstances) (settings : ProbingSettings) (store : Memory)
    (report : TaskReport) : Desk → Prop :=
  Waited fun desk =>
    match around.listed (errand.scope store) with
    | .error error =>
      report = .fatal .fetchFailed ("Failed to fetch streams: " ++ error.message) ∧ Untouched store desk
    | .ok streams => Heeds settings streams store report desk

/-- **A task that probes streams heeds requests to stop**, whatever the remote lists, whenever it falls
asleep, and however others act in between. -/
theorem errand_heeds (errand : Errand) (around : Circumstances) (settings : ProbingSettings) (size : UInt32)
    (task : ProbeTask) (store : Memory) :
    FaresWell (Desk.stage around).outside Others (errand.Heeded around settings store)
      (seat.work (errand.work settings size)) { task, store } := by
  have before : Before store { task, store } :=
    ⟨⟨rfl, fun _ among => absurd among List.not_mem_nil, fun among => absurd among List.not_mem_nil⟩, rfl, rfl⟩
  have fares := fares_errand settings errand (minding around store fun _ _ => waited_of_before)
    (driving settings store (around.listed (errand.scope store))).firmTold
    (fun only covers skipRefresh desk before => by
      rw [Errand.scope_of_covers covers]
      exact fares_drive (suits around) (driving settings store _) (passage around settings store)
        (taking around settings store _) size skipRefresh before) before
  refine fares_well (fares.mono fun report beside later ended => ⟨ended.1, fun listed => ?_⟩)
  obtain ⟨reply, rfl, ran⟩ := ended.2 listed
  unfold Ran at ran
  cases answered : around.listed (errand.scope store) with
  | error error =>
    rw [answered] at ran
    obtain ⟨rfl, untouched⟩ := ran
    exact ⟨rfl, untouched⟩
  | ok streams =>
    rw [answered] at ran
    obtain ⟨summary, rfl, probed⟩ := ran
    exact probed.heeds listed rfl

/-- A task that is asked to stop while it waits for the listing of its streams is reported as stopped. -/
theorem exists_heeding : ∃ report beside later, Thread.Reaches (Desk.stage oneStream).outside Others
      (.awake (seat.work (Errand.work {} 50 (.all ⟨false⟩))) {}, { task := {}, store := .empty })
      (.awake (.done report) beside, later) ∧
    listingWaited later.log = true ∧ .cancelled ∈ later.log ∧ report.isCancelled = true := by
  refine ⟨?_, ?_, ?_, ?_, ?_, ?_, ?_⟩
  rotate_left 3
  · refine .head (.own .act) (.head (.own .act) (.head (.own .hold) (.head (.own .watch) ?_)))
    refine .head (.own .act) (.head (.own .hold) (.head (.own .act) ?_))
    refine .head (.own .asks) (.head (.own (.answered nofun (Stage.answers_now _ _))) ?_)
    refine .head (.own .act) (.head (.own .act) ?_)
    refine .head (.own .asks) (.head (.own .fallsAsleep) (.head (.own (.watched rfl)) ?_))
    refine .head (.others (.asks _)) (.head (.own (.answered (fun _ => rfl) (.plain ⟨rfl, rfl⟩))) ?_)
    refine .head (.own .act) (.head (.own .asks) ?_)
    refine .head (.own (.goesOn nofun (.crew (.begins (by decide))))) ?_
    refine .head (.own (.goesOn nofun (.crew (.goesOn [] .act)))) ?_
    refine .head (.own (.goesOn nofun (.crew (.ends [])))) ?_
    refine .head (.own (.answered nofun (.crew ⟨rfl, rfl⟩))) ?_
    refine .head (.own .act) (.head (.own .asks) (.head (.own (.answered nofun (Stage.answers_now _ _))) ?_))
    refine .head (.own .act) (.head (.own .act) (.head (.own .letGo) (.head (.own .unwatch) ?_)))
    refine .head (.own .act) (.head (.own .letGo) ?_)
    exact .refl
  · rfl
  · exact List.Mem.head _
  · refine (report_tells _).1.trans ?_
    rw [RunSummary.ofOutcomes_eq]
    rfl

end StreamWatch.ProbeTask
