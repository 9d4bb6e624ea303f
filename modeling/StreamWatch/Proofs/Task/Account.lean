/-
**Every execution accounts for its work.**

Whatever the remote, the store and the media tools answer, whenever the task is asked to stop, and with an engine or
without one, the result of an execution tells how many items there were, what came of each of them, and in a line
each of those that failed or were skipped.

* `stage`, `Heard`: a run of the engine on behalf of a task, under the eyes of the onlooker;
* `passage`, `taking`, `driving`, `minding`: how such a run passes;
* `fares_probing`: executions of the tasks that probe streams;
* `execution_accounts`: executions of all standard tasks.
-/

import StreamWatch.Proofs.Task.Errand
import StreamWatch.Proofs.Task.Post

namespace StreamWatch.Post

open Engine ProbeTask Program TaskReport

/-! ### Runs of the engine -/

/-- How a task that probes streams is reached. -/
def seat (id : String) : Seat Post where
  task post := post.service.probeTaskOf id
  put task post := post.put id (post.service.putProbeTask id task)

/-- The post after the task has written the cell of the engine. -/
def putEngine (id : String) (engine : EngineCell) (post : Post) : Post :=
  (seat id).put { post.service.probeTaskOf id with engine } post

/-- What the runs of a task stand on. The store may answer whatever it likes. -/
def stage (id : String) (around : Circumstances) : Stage Post where
  around _ := around
  engine post := post.service.engine
  put := putEngine id
  putAbout _ := putEngine id
  store _ post _ after := after = post
  exists_stored _ post := ⟨.error .database, post, rfl⟩

theorem suits (id : String) (around : Circumstances) : (seat id).Suits (stage id around) :=
  fun work => zoom_zoom _ _ _ _ work

theorem noted_eq {id : String} {around : Circumstances} (isAsleep : Bool) (ask : Ask) (post : Post) :
    (stage id around).noted isAsleep ask post = post := by
  cases isAsleep <;> rfl

/-- Whether a run goes on that has the engine on behalf of the task. -/
structure Heard (id : String) (around : Circumstances) (beside : Beside Post) (post : Post) : Prop where
  held : beside.held = [(stage id around).freed, (seat id).changed disown]
  watch : beside.watch.action? = some ((seat id).changed follow)
  isOurs : post.isOurs = true

/-- Whether it does, with its streams at their ends. -/
structure Probed (id : String) (around : Circumstances) (streams : List Stream)
    (outcomes : List (Int × StreamOutcome)) (beside : Beside Post) (post : Post) : Prop
    extends Heard id around beside post where
  everyone : outcomes.length = streams.length
  stopped : (∃ entry ∈ outcomes, entry.2 = .notStarted) → post.service.engine.isCancelled = true

/-- Whether it does, and has seen whether it was asked to stop. -/
structure Looked (id : String) (around : Circumstances) (streams : List Stream)
    (outcomes : List (Int × StreamOutcome)) (found : Bool) (beside : Beside Post) (post : Post) : Prop
    extends Heard id around beside post where
  everyone : outcomes.length = streams.length
  stopped : (∃ entry ∈ outcomes, entry.2 = .notStarted) → found = true

section
variable {id : String} {around : Circumstances} {beside : Beside Post} {post later : Post}

/-- What is written to the engine while it is neither taken nor given back leaves it where it is. -/
theorem isOurs_put {task : ProbeTask} (same : task.engine.isProbing = post.service.engine.isProbing) :
    ((seat id).put task post).isOurs = post.isOurs := if_pos same

theorem Others.isOurs (changed : Others id post later) : later.isOurs = post.isOurs := by
  cases changed with
  | spares spares => exact spares.isOurs
  | stops => rfl

/-- Others do not take back a request to stop the engine while it runs on behalf of the task. -/
theorem Others.stopped (changed : Others id post later) (isOurs : post.isOurs = true)
    (stopped : post.service.engine.isCancelled = true) : later.service.engine.isCancelled = true := by
  cases changed with
  | spares spares => exact spares.stopped isOurs stopped
  | stops => exact stopped

theorem Heard.others (heard : Heard id around beside post) (changed : Others id post later) :
    Heard id around beside later :=
  { heard with isOurs := changed.isOurs.trans heard.isOurs }

theorem Heard.put (heard : Heard id around beside post) {change : EngineCell → EngineCell} (gentle : IsGentle change) :
    Heard id around beside (putEngine id (change post.service.engine) post) :=
  { heard with isOurs := (isOurs_put (gentle _).2).trans heard.isOurs }

/-- What is watched leaves the engine with the task. -/
theorem Heard.watched (heard : Heard id around beside post) {action : Post → Post}
    (watches : beside.watch.action? = some action) :
    Heard id around beside.carriedOut (action post) ∧
      (post.service.engine.isCancelled = true → (action post).service.engine.isCancelled = true) := by
  cases heard.watch.symm.trans watches
  refine ⟨⟨heard.held, (Watch.action?_carriedOut _).trans heard.watch, ?_⟩, fun stopped => ?_⟩
  · exact (isOurs_put (isProbing_engine_follow _)).trans heard.isOurs
  · show ((post.service.probeTaskOf id).follow.engine.isCancelled) = true
    rw [isCancelled_engine_follow, Bool.or_eq_true]
    exact .inr stopped

theorem steady_heard : Steady (manner id) (Heard id around) where
  others _ _ _ changed heard := heard.others changed
  rest _ := trivial
  watched heard watches := ⟨trivial, (heard.watched watches).1⟩

theorem carries_heard : (stage id around).Carries (manner id) (Heard id around) Ask.IsPlain where
  steady := steady_heard
  lets gentle _ _ heard := ⟨trivial, heard.put gentle⟩
  waits _ _ _ _ heard _ := ⟨trivial, by rw [noted_eq]; exact heard⟩

variable {streams : List Stream} {outcomes : List (Int × StreamOutcome)} {found : Bool}

theorem carries_looked :
    (stage id around).Carries (manner id) (Looked id around streams outcomes found) (· = .wallClock) where
  steady := by
    refine ⟨fun _ _ _ changed looked => ?_, fun _ => trivial, fun looked watches => ⟨trivial, ?_⟩⟩
    · exact { looked with toHeard := looked.toHeard.others changed }
    · exact { looked with toHeard := (looked.toHeard.watched watches).1 }
  lets gentle _ _ looked := ⟨trivial, { looked with toHeard := looked.toHeard.put gentle }⟩
  waits _ _ _ _ looked _ := ⟨trivial, by rw [noted_eq]; exact looked⟩

/-! ### Its streams -/

/-- What the stream of a run does: it neither asks the engine to stop nor takes that back. -/
structure Minds (post later : Post) : Prop where
  isOurs : later.isOurs = post.isOurs
  stopped : later.service.engine.isCancelled = post.service.engine.isCancelled

/-- What a stream of a run relies on: requests to stop the engine stay. -/
def Relies (post later : Post) : Prop :=
  post.service.engine.isCancelled = true → later.service.engine.isCancelled = true

/-- What comes of a stream of a run: it is left alone only once the engine was asked to stop. -/
def Settles (value : Int × StreamOutcome) (post : Post) : Prop :=
  value.2 = .notStarted → post.service.engine.isCancelled = true

theorem minds_putEngine {change : EngineCell → EngineCell} (gentle : IsGentle change) (post : Post) :
    Minds post (putEngine id (change post.service.engine) post) :=
  ⟨isOurs_put (gentle _).2, (gentle _).1⟩

theorem mayAsk (id : String) (around : Circumstances) (place : Nat) (stream : Int) :
    MayAsk (stage id around) place Minds stream where
  asked _ _ := ⟨rfl, rfl⟩
  stored := by
    rintro call post value after - rfl
    exact ⟨rfl, rfl⟩

/-- A stream is left alone only once the engine was asked to stop. -/
theorem ensures_probeStream (place : Nat) (settings : ProbingSettings) (stream : Stream) (post : Post) :
    ((stage id around).workAbout place (probeStream settings stream)).Ensures
      ⟨(stage id around).answersAbout place, Relies⟩ Settles post := by
  have stable {value : Int × StreamOutcome} :
      Program.Stable ⟨(stage id around).answersAbout place, Relies⟩ (Settles value) :=
    fun _ _ relied settles alone => relied (settles alone)
  have any : Program.Stable ⟨(stage id around).answersAbout place, Relies⟩ fun _ => True := stable_const True
  rw [probeStream_eq]
  refine ensures_act any trivial fun seen _ => ?_
  show ((stage id around).workAbout place (if seen.service.engine.isCancelled = true then _ else _)).Ensures _ _ _
  cases found : seen.service.engine.isCancelled with
  | true => exact ensures_done stable fun _ => found
  | false =>
    refine ensures_act any trivial fun seen _ => ?_
    show ((stage id around).workAbout place (probeOrSkip settings stream >>= _)).Ensures _ _ _
    rw [(stage id around).workAbout_bind]
    have begun := (mayAsk id around place stream.id).within_probeOrSkip settings
    refine ensures_bind ((begun.ensures _).mono fun outcome later begun => ?_)
    refine ensures_act any trivial fun seen _ => ?_
    exact ensures_done stable fun alone => absurd alone begun

theorem harmony (settings : ProbingSettings) (streams : List Stream) :
    Harmony (stage id around) (manner id) settings (fun (_ : Fin streams.length) => Relies) (fun _ => Minds)
      (fun _ => Settles) (fun _ _ => True) (Heard id around) where
  apart _ _ _ _ _ minds := minds.stopped.trans
  stays _ _ _ _ _ := trivial
  rest _ := trivial
  others heard changed := ⟨fun _ => changed.stopped heard.isOurs, heard.others changed⟩
  watched heard watches := ⟨trivial, fun _ => (heard.watched watches).2, (heard.watched watches).1⟩
  idle _ := trivial
  acts heard minds _ := ⟨trivial, { heard with isOurs := minds.isOurs.trans heard.isOurs }⟩

/-- **The streams of a run come to their ends**, and those were left alone only if the engine was asked to stop. -/
theorem fares_probeStreams (settings : ProbingSettings) (streams : List Stream)
    (heard : Heard id around beside post) :
    ((stage id around).work (Work.probeStreams settings streams)).Fares (stage id around).outside (manner id)
      (Probed id around streams) beside post := by
  have within (place : Fin streams.length) :=
    (mayAsk id around place (streams.get place).id).within_probeStream
      (fun change gentle post => minds_putEngine gentle post) settings
  have firm (results : List (Fin streams.length × Int × StreamOutcome)) (beside : Beside Post) :
      Firm (manner id) (Probed id around streams (results.map (·.2)) beside) := fun _ _ changed probed =>
    ⟨probed.toHeard.others changed, probed.everyone, fun alone =>
      changed.stopped probed.isOurs (probed.stopped alone)⟩
  refine Fares.mono ((harmony settings streams).fares_probeStreams
    (fun later relied => ⟨(steady_heard.others beside).meanwhile relied heard, ?_⟩) firm ?_)
    fun _ _ _ ended => ended.elim fun _ told => told.1 ▸ told.2
  · exact turns_crew (fun place => ensures_probeStream place settings _ _) within fun _ => trivial
  · intro results beside post isAsleep heard _ everyone settled
    rw [noted_eq]
    refine ⟨trivial, heard, ?_, ?_⟩
    · rw [List.length_map, ← List.length_map (·.1), everyone.length_eq, List.length_finRange]
    · rintro ⟨entry, among, alone⟩
      obtain ⟨result, ended, rfl⟩ := List.mem_map.mp among
      exact settled result ended alone

/-- **How a run passes** that has the engine. -/
theorem passage (id : String) (around : Circumstances) (settings : ProbingSettings) :
    Passage (stage id around) (manner id) settings around (Heard id around) (Probed id around)
      (Looked id around) where
  same _ := rfl
  carries := carries_heard
  probes streams heard := fares_probeStreams settings streams heard
  firm _ _ _ _ _ changed probed :=
    ⟨probed.toHeard.others changed, probed.everyone, fun alone => changed.stopped probed.isOurs (probed.stopped alone)⟩
  looks probed := ⟨trivial, probed.toHeard.put isGentle_id, probed.everyone, probed.stopped⟩
  concludes _ _ _ := carries_looked

/-! ### Whole tasks -/

/-- Whether what is reported of a probe run accounts for it. -/
def Accounted (report : TaskReport) : Prop := Accounts (report.failed + report.skipped) report

theorem accounted_fatal {fault : TaskFault} (hinders : fault ∈ hindrances) (message : String) :
    Accounted (.fatal fault message) := accounts_fatal hinders message

/-- **A run takes the engine when it is free, and gives it back.** -/
theorem taking (id : String) (around : Circumstances) (listed : Except RemoteError (List Stream)) :
    Taking (stage id around) (manner id) (Heard id around) (Come (Heard id around) (Looked id around) listed)
      (seat id).besideRun (fun _ => True) (·.isOurs = true) (fun reply _ => Accounted (conclusion reply)) where
  firmOwned _ _ _ _ := trivial
  firmTaken _ _ changed isOurs := changed.isOurs.trans isOurs
  firmGiven _ _ _ _ given := given
  rejects _ _ _ := ⟨trivial, accounted_fatal (by decide) _⟩
  takes post _ probing := by
    have probing : post.service.engine.isProbing = false := probing
    refine ⟨trivial, if_neg ?_⟩
    rw [probing]
    exact Bool.noConfusion
  rearms post isOurs := ⟨trivial, rfl, rfl, (isOurs_put rfl).trans isOurs⟩
  frees reply last post come := by
    cases listed with
    | error error =>
      obtain ⟨rfl, heard⟩ := come
      exact ⟨heard.held, trivial, accounted_fatal (by decide) _⟩
    | ok streams =>
      obtain ⟨outcomes, found, startedAt, completedAt, rfl, looked⟩ := come
      exact ⟨looked.held, trivial, accounts_report looked.everyone looked.stopped startedAt completedAt⟩

theorem driving (id : String) :
    Driving (seat id) (manner id) (fun _ => True) (fun _ => True) (fun reply _ => Accounted (conclusion reply))
      (fun report _ => Accounted report) where
  firmBefore _ _ _ _ := trivial
  firmTold _ _ _ _ accounted := accounted
  owns _ _ := ⟨trivial, trivial⟩
  looks _ _ accounted := ⟨trivial, accounted⟩
  disowns _ _ accounted := ⟨trivial, accounted⟩

theorem minding (id : String) (around : Circumstances) :
    Minding (seat id) (stage id around) (manner id) (fun _ => True) (fun _ => True) (fun _ _ => True) where
  steady := Firm.steady (fun _ _ _ _ => trivial) fun _ _ => trivial
  waits held _ := ⟨trivial, held⟩
  writes _ _ _ _ := ⟨trivial, trivial⟩
  finds := by
    rintro post reply after - ⟨value, stored, rfl⟩
    exact ⟨stored, value, rfl, fun _ _ => trivial⟩
  tells _ _ _ _ := trivial

theorem accounted_runless {report : TaskReport} (runless : Runless report) : Accounted report := by
  cases runless with
  | nothing =>
    have unstopped : false = true ↔ Progress.processed {} < 0 := iff_of_false Bool.false_ne_true (Nat.lt_irrefl 0)
    exact (tells_ofProgress {} _).accounts (Nat.le_refl 0) unstopped
  | unknown error => exact accounted_fatal (by decide) _

/-- A program of a task that probes streams. -/
theorem work_onProbeTask {α : Type} (id : String) (program : Work ProbeTask α) :
    work id (Service.onProbeTask id program) = (seat id).work program :=
  zoom_zoom ..

/-- **A task that probes streams accounts for them**, with an engine or without one. -/
theorem fares_probing (setup : Setup) {duty : Duty} (probes : duty.trade? = some .probing) (post : Post) :
    (work id (Service.fulfil setup id duty)).Fares (stage id around).outside (manner id)
      (fun report last _ => last = {} ∧ Accounted report) {} post := by
  have driven (errand : Errand) :
      ((seat id).work (errand.work setup.settings.probing setup.settings.remote.pageSize)).Fares
        (stage id around).outside (manner id) (fun report last _ => last = {} ∧ Accounted report) {} post :=
    fares_errandEnding (· = {}) rfl _ errand (minding id around) (driving id).firmTold
      (fun _ _ _ runless => accounted_runless runless)
      (fun only _ skipRefresh _ begun => fares_driveAlone (suits id around) (driving id) (passage id around _)
        (taking id around (around.listed only)) _ skipRefresh begun) trivial
  have engineless (cell : TaskCell → TaskCell) : ((seat id).work (ProbeTask.onCell (change cell) >>= fun _ =>
      pure withoutEngine)).Fares (stage id around).outside (manner id)
        (fun report last _ => last = {} ∧ Accounted report) {} post :=
    fares_act (fun _ _ _ _ => trivial) trivial fun _ _ =>
      ⟨trivial, fares_done (fun _ _ _ ended => ended) ⟨rfl, accounted_fatal (by decide) _⟩⟩
  cases duty with
  | probeAll settings =>
    show (work id (Service.onProbeTask id (probeAll setup.hasEngine _ _ settings))).Fares _ _ _ _ _
    rw [work_onProbeTask]
    cases setup.hasEngine with
    | true => exact driven (.all settings)
    | false => exact engineless _
  | reprobeFailed =>
    show (work id (Service.onProbeTask id (reprobeFailed setup.hasEngine _ _))).Fares _ _ _ _ _
    rw [work_onProbeTask]
    cases setup.hasEngine with
    | true => exact driven .failed
    | false => exact engineless _
  | cleanup | guideRefresh | batch => cases probes

theorem tellsTime_stage : TellsTime (stage id around).outside where
  inOneMoment _ _ _ _ := (stage id around).not_goesOn_of_isPlain Ask.isPlain_wallClock _ _ _ _
  answered _ isAsleep post := by
    have told : (stage id around).Answers .wallClock .plain isAsleep post (some default)
        ((stage id around).noted isAsleep .wallClock post) := .plain ⟨rfl, rfl⟩
    exact ⟨_, _, told⟩
  idle first isAsleep post reply after answered := by
    obtain ⟨last, ⟨some, rfl⟩, rfl⟩ := (stage id around).answers_of_isPlain answered
    exact ⟨some, noted_eq _ _ _⟩

end

/-! ### All standard tasks -/

/-- What there is outside of the execution of a task. -/
def outside (id : String) (around : Circumstances) : Trade → Outside Post Ask Ask.Reply
  | .probing => (stage id around).outside
  | .cleanup | .guideRefresh => anyone

/-- The post at the begin of an execution, before which the task may have been asked to stop. -/
def opening (id : String) (service : Service) : Post where
  service
  notes := { stopped := if (service.cellOf id).isCancelled then some 0 else none }

/-- How many lines there are to tell: one for every item that failed, and for every stream that was skipped, and one
when runs of failures could not be forgotten. -/
def lines (notes : Notes) (report : TaskReport) : Trade → Nat
  | .probing => report.failed + report.skipped
  | .cleanup => report.failed + notes.resetFailed.toNat
  | .guideRefresh => report.failed

variable {id : String}

theorem unbegun_opening (id : String) (service : Service) : Unbegun ((opening id service).sheet id) := by
  have heedful : Heedful ((opening id service).sheet id) := by
    constructor
    · show (service.cellOf id).isCancelled =
        (if (service.cellOf id).isCancelled then some 0 else none : Option Nat).isSome
      cases (service.cellOf id).isCancelled <;> rfl
    · intro begun noted
      have noted : (if (service.cellOf id).isCancelled then some 0 else none) = some begun := noted
      split at noted
      · exact (Option.some.inj noted).symm
      · cases noted
  exact { heedful with listed := rfl, opened := rfl, started := rfl, amid := rfl, shares := rfl, resetFailed := rfl }

/-- **Every execution of a standard task accounts for its work**, with an engine or without one, whatever the outside
answers, and whenever the task is asked to stop. -/
theorem execution_accounts (setup : Setup) (around : Circumstances) {service : Service} {trade : Trade}
    (known : service.tradeOf id = some trade) :
    FaresWell (outside id around trade) (Others id)
      (fun result later => Accounts (lines later.notes result.toTaskReport trade) result.toTaskReport)
      (work id (Service.execute setup id)) (opening id service) := by
  have chores (chore : trade ≠ .probing) : (work id (Service.execute setup id)).Fares anyone (manner id)
      (fun result beside later => beside.held = [] ∧ Accounts (result.failed +
        (trade.mayReset && later.notes.resetFailed).toNat) result.toTaskReport) {} (opening id service) :=
    (fares_chore setup chore known (unbegun_opening id service)).mono fun result beside later ended =>
      ⟨congrArg Beside.held ended.1, ended.2.2.2.accounts⟩
  cases trade with
  | probing =>
    have firm (report : TaskReport) : Firm (manner id) fun _ => Accounted report := fun _ _ _ accounted => accounted
    have fares : (work id (Service.execute setup id)).Fares (stage id around).outside (manner id)
        (fun result beside _ => beside = {} ∧ result.taskId = id ∧ Accounted result.toTaskReport) {}
        (opening id service) := by
      refine fares_execute tellsTime_stage (firm_tradeOf id (some .probing)) firm (fun post known => ?_) known
      obtain ⟨task, found, probes⟩ := Service.exists_task known
      exact ⟨task, found, fares_probing setup probes _⟩
    exact fares_well (fares.mono fun _ _ _ ended => ⟨congrArg Beside.held ended.1, ended.2.2⟩)
  | cleanup => exact fares_well (chores nofun)
  | guideRefresh => exact fares_well (chores nofun)

/-- The cleanup that the service is started with accounts for its work. -/
theorem execution_accounts_cleanup :
    (Service.ofDuties (Duty.standard {})).tradeOf "struck_stream_cleanup" = some .cleanup ∧
      FaresWell (outside "struck_stream_cleanup" oneStream .cleanup) (Others "struck_stream_cleanup")
        (fun result later => Accounts (lines later.notes result.toTaskReport .cleanup) result.toTaskReport)
        (work "struck_stream_cleanup" (Service.execute {} "struck_stream_cleanup"))
        (opening "struck_stream_cleanup" (Service.ofDuties (Duty.standard {}))) :=
  ⟨rfl, execution_accounts {} oneStream rfl⟩

end StreamWatch.Post
