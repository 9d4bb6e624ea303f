/-
**A task that probes streams, under the eyes of an onlooker.**

An onlooker keeps a log. It tells when a request to stop the task was accepted, for which answers the
task had to wait, when the outside was asked about a stream, and whenever a stream acted, what the cell
of the engine was before and after. From the log it can be told which streams have been started, and
which of these are still in flight.

While the run of the engine is the task's own, others do no more to the engine than to ask it to stop.

* `Event`, `Desk`: what is noted, and what it is noted of;
* `Linked`: requests to stop the task have reached the engine;
* `Spares`, `Minds`: what a stream relies on, and what it does;
* `ensures_probeStream`: a stream is left alone after a request to stop, or it was started before any.
-/

import StreamWatch.Proofs.Task.Errand

namespace StreamWatch.ProbeTask

open Engine Program

/-! ### The log -/

/-- What an onlooker notes. -/
inductive Event where
  /-- a request to stop the task was accepted -/
  | cancelled
  /-- an answer had to be waited for -/
  | waited (ask : Ask)
  /-- the outside was asked about the stream at a place -/
  | asked (place : Nat) (ask : Ask)
  /-- the stream at a place acted, with the cell of the engine before and after that -/
  | acted (place : Nat) (before after : EngineCell)

namespace Event

/-- The place of the stream it is about. -/
def place? : Event → Option Nat
  | asked place _ | acted place .. => some place
  | cancelled | waited _ => none

/-- Whether it shows the stream at a place started: it found no request to stop. -/
def starts (place : Nat) : Event → Bool
  | acted other before _ => other == place && !before.isCancelled
  | _ => false

/-- Whether it shows the stream at a place counted. -/
def ends (place : Nat) : Event → Bool
  | acted other before after => other == place && decide (before.progress.current < after.progress.current)
  | _ => false

/-- Whether it is a request to stop, or shows that the engine knows of one. -/
def stops : Event → Bool
  | cancelled => true
  | acted _ before _ => before.isCancelled
  | _ => false

/-- Whether a listing of accounts or streams, or the refresh of an account, had to be waited for. -/
def isListing : Event → Bool
  | waited (.remote _) => true
  | _ => false

theorem starts_acted (place : Nat) (before after : EngineCell) :
    (acted place before after).starts place = !before.isCancelled := by
  rw [starts, beq_self_eq_true, Bool.true_and]

theorem ends_acted (place : Nat) (before after : EngineCell) :
    (acted place before after).ends place = decide (before.progress.current < after.progress.current) := by
  rw [ends, beq_self_eq_true, Bool.true_and]

/-- What shows a request to stop shows no stream started. -/
theorem starts_of_stops {event : Event} (asks : event.stops = true) (place : Nat) : event.starts place = false := by
  cases event with
  | acted other before after =>
    have found : before.isCancelled = true := asks
    rw [starts, found, Bool.not_true, Bool.and_false]
  | cancelled | waited | asked => rfl

theorem place_of_starts {event : Event} {place : Nat} (starts : event.starts place = true) :
    event.place? = some place := by
  cases event with
  | acted other before after =>
    rw [Event.starts, Bool.and_eq_true, beq_iff_eq] at starts
    rw [place?, starts.1]
  | cancelled | waited | asked => exact nomatch starts

theorem place_of_ends {event : Event} {place : Nat} (ends : event.ends place = true) :
    event.place? = some place := by
  cases event with
  | acted other before after =>
    rw [Event.ends, Bool.and_eq_true, beq_iff_eq] at ends
    rw [place?, ends.1]
  | cancelled | waited | asked => exact nomatch ends

end Event

/-- Whether the stream at a place has been started. -/
def started (log : List Event) (place : Nat) : Bool := log.any (·.starts place)

/-- Whether the stream at a place has been counted. -/
def counted (log : List Event) (place : Nat) : Bool := log.any (·.ends place)

/-- Which of so many streams have been started and not yet counted. -/
def inFlight (count : Nat) (log : List Event) : List Nat :=
  (List.range count).filter fun place => started log place && !counted log place

/-- Whether a listing had to be waited for. -/
def listingWaited (log : List Event) : Bool := log.any (·.isListing)

theorem started_append (log more : List Event) (place : Nat) :
    started (log ++ more) place = (started log place || started more place) := List.any_append

theorem counted_append (log more : List Event) (place : Nat) :
    counted (log ++ more) place = (counted log place || counted more place) := List.any_append

theorem listingWaited_append (log more : List Event) :
    listingWaited (log ++ more) = (listingWaited log || listingWaited more) := List.any_append

section
variable {log more : List Event} {place count : Nat}

/-- Whether none of some events is about the stream at a place. -/
def Foreign (place : Nat) (log : List Event) : Prop := ∀ event ∈ log, event.place? ≠ some place

theorem Foreign.append (foreign : Foreign place log) (others : Foreign place more) :
    Foreign place (log ++ more) := fun event among =>
  (List.mem_append.mp among).elim (foreign event) (others event)

theorem Foreign.started (foreign : Foreign place log) : started log place = false :=
  List.any_eq_false.mpr fun event among starts => foreign event among (Event.place_of_starts starts)

theorem Foreign.counted (foreign : Foreign place log) : counted log place = false :=
  List.any_eq_false.mpr fun event among ends => foreign event among (Event.place_of_ends ends)

theorem Foreign.not_asked (foreign : Foreign place log) (ask : Ask) : .asked place ask ∉ log :=
  fun among => foreign _ among rfl

theorem started_append_of_foreign (others : Foreign place more) : started (log ++ more) place = started log place := by
  rw [started_append, others.started, Bool.or_false]

theorem counted_append_of_foreign (others : Foreign place more) : counted (log ++ more) place = counted log place := by
  rw [counted_append, others.counted, Bool.or_false]

theorem mem_inFlight :
    place ∈ inFlight count log ↔ place < count ∧ started log place = true ∧ counted log place = false := by
  rw [inFlight, List.mem_filter, List.mem_range, Bool.and_eq_true, Bool.not_eq_true']

/-- Where a list that was lengthened is cut: in its old part, or in what was added. -/
theorem append_eq_append_cases {α : Type} {first second before after : List α}
    (same : first ++ second = before ++ after) :
    (∃ between, first = before ++ between ∧ after = between ++ second) ∨
      ∃ between, before = first ++ between ∧ second = between ++ after := by
  rcases List.append_eq_append_iff.mp same with ⟨between, one, two⟩ | ⟨between, one, two⟩
  · exact .inr ⟨between, one, two⟩
  · exact .inl ⟨between, one, two⟩

/-- Where a list that has got one more member is cut: in its old part, or behind its end. -/
theorem note_eq_append_cases {α : Type} {first before after : List α} {last : α}
    (same : first ++ [last] = before ++ after) :
    (∃ rest, first = before ++ rest) ∨ (before = first ++ [last] ∧ after = []) := by
  rcases append_eq_append_cases same with ⟨between, same, -⟩ | ⟨between, rfl, single⟩
  · exact .inl ⟨between, same⟩
  · cases between with
    | nil => exact .inl ⟨[], by rw [List.append_nil, List.append_nil]⟩
    | cons first rest =>
      obtain ⟨rfl, none⟩ := List.cons.inj single
      obtain ⟨rfl, rfl⟩ := List.append_eq_nil_iff.mp none.symm
      exact .inr ⟨rfl, rfl⟩

/-- Whether the stream at a place was started before any sign of a request to stop. -/
def InTime (place : Nat) (log : List Event) : Prop :=
  ∀ before after, log = before ++ after → before.any Event.stops = true → started before place = true

/-- Whether nothing is noted of the stream at a place once it has been counted. -/
def Closed (place : Nat) (log : List Event) : Prop :=
  ∀ before after, log = before ++ after → counted before place = true → Foreign place after

theorem InTime.append (inTime : InTime place log) (begun : started log place = true) (more : List Event) :
    InTime place (log ++ more) := by
  intro before after split stops
  rcases append_eq_append_cases split with ⟨between, rfl, -⟩ | ⟨between, rfl, -⟩
  · exact inTime before between rfl stops
  · rw [started_append, begun, Bool.true_or]

theorem Closed.append (closed : Closed place log) (foreign : Foreign place more) : Closed place (log ++ more) := by
  intro before after split isOver
  rcases append_eq_append_cases split with ⟨between, rfl, rfl⟩ | ⟨between, rfl, rfl⟩
  · exact (closed before between rfl isOver).append foreign
  · exact fun event among => foreign event (List.mem_append_right _ among)

/-- Whether no more streams were in flight at any time than there is room for. -/
def Bounded (limit count : Nat) (log : List Event) : Prop :=
  ∀ before after, log = before ++ after → (inFlight count before).length ≤ limit

theorem Bounded.note {limit : Nat} (bounded : Bounded limit count log) {event : Event}
    (room : (inFlight count (log ++ [event])).length ≤ limit) : Bounded limit count (log ++ [event]) := by
  intro before after split
  rcases note_eq_append_cases split with ⟨rest, same⟩ | ⟨rfl, -⟩
  · exact bounded before rest same
  · exact room

/-- Whether none of some events is about a stream. -/
def Nobody (log : List Event) : Prop := ∀ event ∈ log, event.place? = none

theorem Nobody.foreign (nobody : Nobody log) (place : Nat) : Foreign place log := by
  intro event among
  rw [nobody event among]
  exact nofun

theorem Nobody.append (nobody : Nobody log) (nobody' : Nobody more) : Nobody (log ++ more) := fun event among =>
  (List.mem_append.mp among).elim (nobody event) (nobody' event)

theorem inFlight_append (nobody : Nobody more) : inFlight count (log ++ more) = inFlight count log := by
  unfold inFlight
  refine List.filter_congr fun place _ => ?_
  rw [started_append_of_foreign (nobody.foreign place), counted_append_of_foreign (nobody.foreign place)]

theorem Bounded.append {limit : Nat} (bounded : Bounded limit count log) (nobody : Nobody more) :
    Bounded limit count (log ++ more) := by
  intro before after split
  rcases append_eq_append_cases split with ⟨between, same, -⟩ | ⟨between, rfl, rfl⟩
  · exact bounded before between same
  · rw [inFlight_append fun event among => nobody event (List.mem_append_left _ among)]
    exact bounded log [] (List.append_nil log).symm

/-- Where nothing is about a stream, none was ever in flight. -/
theorem Nobody.bounded (nobody : Nobody log) (limit count : Nat) : Bounded limit count log := by
  have none : Bounded limit count [] := by
    intro before after split
    obtain ⟨rfl, -⟩ := List.append_eq_nil_iff.mp split.symm
    simp [inFlight, started]
  exact none.append nobody

end

/-! ### The desk -/

/-- A task beside its engine and the store, with what an onlooker noted. -/
structure Desk where
  task : ProbeTask
  store : Memory
  /-- whether it is the task that has the engine -/
  isOurs : Bool := false
  log : List Event := []

namespace Desk

/-- The desk with an event noted. -/
def note (event : Event) (desk : Desk) : Desk := { desk with log := desk.log ++ [event] }

/-- The desk after the task has written what is its own and the engine: the engine is its own from when it
takes it until it gives it back. -/
def putTask (task : ProbeTask) (desk : Desk) : Desk :=
  { desk with
    task
    isOurs := if task.engine.isProbing = desk.task.engine.isProbing then desk.isOurs else task.engine.isProbing }

/-- How the task is reached on it. -/
def seat : Seat Desk := ⟨Desk.task, putTask⟩

/-- The desk after a write to the engine. -/
def putEngine (engine : EngineCell) (desk : Desk) : Desk := desk.putTask { desk.task with engine }

/-- The desk after a request to stop the task, made in one go. -/
def askToStop (desk : Desk) : Desk :=
  { desk with
    task := ((cancel true : Program ProbeTask Empty Empty.rec Unit).alone Empty.rec desk.task).2 }.note
      .cancelled

theorem askToStop_eq (desk : Desk) :
    desk.askToStop =
      { desk with
        task :=
          { desk.task with
            cell := desk.task.cell.cancel
            engine := if desk.task.ownsRun then desk.task.engine.cancel else desk.task.engine }
        log := desk.log ++ [.cancelled] } := by
  obtain ⟨⟨cell, ownsRun, engine⟩, store, isOurs, log⟩ := desk
  cases ownsRun <;> rfl

/-- What others do: they ask the task to stop, or the engine, and while the engine is not the task's own
they do with it what they like. -/
inductive Others : Desk → Desk → Prop
  | asks (desk : Desk) : Others desk desk.askToStop
  | stops (desk : Desk) : Others desk (desk.putEngine desk.task.engine.cancel)
  | occupies (desk : Desk) (engine : EngineCell) (free : desk.isOurs = false) :
      Others desk { desk with task := { desk.task with engine } }

/-- How the store may answer: it does what it is asked to at some time, or refuses. -/
def stored (call : StoreCall) (desk : Desk) (reply : call.Reply) (after : Desk) : Prop :=
  (∃ error, reply = .error error ∧ after = desk) ∨
    ∃ now, reply = (desk.store.answer now call).1 ∧
      after = { desk with store := (desk.store.answer now call).2 }

/-- What the runs of a task stand on, under the eyes of an onlooker. -/
def stage (around : Circumstances) : Stage Desk where
  around _ := around
  engine desk := desk.task.engine
  put := putEngine
  putAbout place engine desk := (desk.putEngine engine).note (.acted place desk.task.engine engine)
  store := stored
  asked place ask := note (.asked place ask)
  waited ask := note (.waited ask)
  exists_stored _ desk := ⟨.error .database, desk, .inl ⟨_, rfl, rfl⟩⟩

end Desk

/-! ### What a stream relies on, and what it does -/

/-- Whether the run is the task's own, and whatever asks it to stop has reached the engine. -/
structure Linked (desk : Desk) : Prop where
  owns : desk.task.ownsRun = true
  isOurs : desk.isOurs = true
  passed : desk.task.cell.isCancelled = true → desk.task.engine.isCancelled = true
  noted : desk.log.any Event.stops = true → desk.task.engine.isCancelled = true

/-- What the stream at a place relies on: nobody else is said to be it, and requests to stop stay. -/
structure Spares (place : Nat) (desk later : Desk) : Prop where
  log : ∃ more, later.log = desk.log ++ more ∧ Foreign place more
  stopped : desk.task.engine.isCancelled = true → later.task.engine.isCancelled = true
  linked : Linked desk → Linked later

/-- What the stream of an id at a place does: it is seen at whatever it does, neither asks the run to stop
nor takes that back, and has nothing kept but of itself. -/
structure Minds (place : Nat) (id : Int) (desk later : Desk) : Prop where
  log : ∃ event, later.log = desk.log ++ [event] ∧ event.place? = some place ∧
    (event.stops = true → desk.task.engine.isCancelled = true)
  cell : later.task.cell = desk.task.cell
  owns : later.task.ownsRun = desk.task.ownsRun
  isOurs : later.isOurs = desk.isOurs
  stopped : later.task.engine.isCancelled = desk.task.engine.isCancelled
  kept : ∀ other, later.store.get? other = desk.store.get? other ∨
    other = id ∧ ∃ ask, .asked place ask ∈ later.log

section
variable {around : Circumstances} {settings : ProbingSettings} {stream : Stream} {alert : Prop}
  {place other : Nat} {id : Int} {desk later : Desk}

theorem Minds.linked (minds : Minds place id desk later) (before : Linked desk) : Linked later where
  owns := minds.owns.trans before.owns
  isOurs := minds.isOurs.trans before.isOurs
  passed := by
    rw [minds.cell, minds.stopped]
    exact before.passed
  noted := by
    obtain ⟨event, log, -, known⟩ := minds.log
    rw [log, minds.stopped, List.any_append, Bool.or_eq_true]
    rintro (earlier | last)
    · exact before.noted earlier
    · exact known (by simpa using last)

/-- **What one stream does is as any other one relies on.** -/
theorem Minds.spares (minds : Minds place id desk later) (differ : place ≠ other) : Spares other desk later where
  log := by
    obtain ⟨event, log, about, -⟩ := minds.log
    refine ⟨[event], log, fun noted among same => differ ?_⟩
    rw [List.mem_singleton.mp among, about] at same
    exact Option.some.inj same
  stopped := minds.stopped.trans
  linked := minds.linked

/-- Whether the turn of the stream at a place has not come. -/
structure Fresh (alert : Prop) (place : Nat) (desk : Desk) : Prop where
  foreign : Foreign place desk.log
  linked : alert → Linked desk

/-- Whether the stream at a place has been started, before any request to stop, and not been counted. -/
structure Afoot (alert : Prop) (place : Nat) (desk : Desk) : Prop where
  started : started desk.log place = true
  uncounted : counted desk.log place = false
  inTime : alert → InTime place desk.log

/-- Whether the stream at a place was left alone, after a request to stop. -/
structure LeftAlone (place : Nat) (desk : Desk) : Prop where
  stopped : desk.task.engine.isCancelled = true
  unstarted : started desk.log place = false
  unasked : ∀ ask, .asked place ask ∉ desk.log

/-- Whether the stream at a place was started, before any request to stop, and has been counted since. -/
structure Through (alert : Prop) (place : Nat) (desk : Desk) : Prop where
  started : started desk.log place = true
  counted : counted desk.log place = true
  closed : Closed place desk.log
  inTime : alert → InTime place desk.log

/-- **What may come of the stream at a place.** -/
def Settled (alert : Prop) (place : Nat) (value : Int × StreamOutcome) (desk : Desk) : Prop :=
  (value.2 = .notStarted ∧ LeftAlone place desk) ∨ (value.2 ≠ .notStarted ∧ Through alert place desk)

theorem Fresh.spared (fresh : Fresh alert place desk) (spares : Spares place desk later) :
    Fresh alert place later where
  foreign := by
    obtain ⟨more, log, others⟩ := spares.log
    rw [log]
    exact fresh.foreign.append others
  linked known := spares.linked (fresh.linked known)

theorem Afoot.spared (afoot : Afoot alert place desk) (spares : Spares place desk later) :
    Afoot alert place later := by
  obtain ⟨more, log, others⟩ := spares.log
  refine ⟨?_, ?_, fun known => ?_⟩ <;> rw [log]
  · rw [started_append, afoot.started, Bool.true_or]
  · rw [counted_append_of_foreign others, afoot.uncounted]
  · exact (afoot.inTime known).append afoot.started more

theorem Settled.spared {value : Int × StreamOutcome} (settled : Settled alert place value desk)
    (spares : Spares place desk later) : Settled alert place value later := by
  obtain ⟨more, log, others⟩ := spares.log
  refine settled.imp (And.imp_right fun alone => ?_) (And.imp_right fun through => ?_)
  · refine ⟨spares.stopped alone.stopped, ?_, fun ask among => ?_⟩
    · rw [log, started_append_of_foreign others, alone.unstarted]
    · rw [log, List.mem_append] at among
      exact among.elim (alone.unasked ask) (others.not_asked ask)
  · refine ⟨?_, ?_, ?_, fun known => ?_⟩ <;> rw [log]
    · rw [started_append, through.started, Bool.true_or]
    · rw [counted_append, through.counted, Bool.true_or]
    · exact through.closed.append others
    · exact (through.inTime known).append through.started more

/-- A stream that finds no request to stop is started in time. -/
theorem Fresh.begins (fresh : Fresh alert place desk) {event : Event} (log : later.log = desk.log ++ [event])
    (unstopped : desk.task.engine.isCancelled = false) (first : event.starts place = true)
    (uncounted : event.ends place = false) : Afoot alert place later where
  started := by
    rw [log, started_append, Bool.or_eq_true]
    exact .inr (by simpa [started] using first)
  uncounted := by
    rw [log, counted_append, fresh.foreign.counted]
    simpa [counted] using uncounted
  inTime known := by
    rw [log]
    intro before after split stops
    rcases note_eq_append_cases split with ⟨rest, same⟩ | ⟨rfl, -⟩
    · have early : desk.log.any Event.stops = true := by
        rw [same, List.any_append, stops, Bool.true_or]
      rw [(fresh.linked known).noted early] at unstopped
      cases unstopped
    · rw [started_append, Bool.or_eq_true]
      exact .inr (by simpa [started] using first)

/-- A stream under way is so until it is counted. -/
theorem Afoot.goesOn (afoot : Afoot alert place desk) {event : Event} (log : later.log = desk.log ++ [event])
    (uncounted : event.ends place = false) : Afoot alert place later where
  started := by rw [log, started_append, afoot.started, Bool.true_or]
  uncounted := by
    rw [log, counted_append, afoot.uncounted]
    simpa [counted] using uncounted
  inTime known := by
    rw [log]
    exact (afoot.inTime known).append afoot.started _

theorem Afoot.ends (afoot : Afoot alert place desk) {event : Event} (log : later.log = desk.log ++ [event])
    (last : event.ends place = true) : Through alert place later where
  started := by rw [log, started_append, afoot.started, Bool.true_or]
  counted := by
    rw [log, counted_append, Bool.or_eq_true]
    exact .inr (by simpa [counted] using last)
  closed := by
    rw [log]
    intro before after split isOver
    rcases note_eq_append_cases split with ⟨rest, same⟩ | ⟨-, rfl⟩
    · have early : counted desk.log place = true := by
        rw [same, counted_append, isOver, Bool.true_or]
      rw [afoot.uncounted] at early
      cases early
    · exact fun event among => absurd among List.not_mem_nil
  inTime known := by
    rw [log]
    exact (afoot.inTime known).append afoot.started _

/-! ### What a stream comes to -/

/-- A write to the engine that has to do with no request to stop and not with who has the engine. -/
theorem minds_change {change : EngineCell → EngineCell} (gentle : IsGentle change) (desk : Desk) :
    Minds place id desk ((Desk.stage around).putAbout place (change desk.task.engine) desk) where
  log := ⟨_, rfl, rfl, fun stopped => stopped⟩
  cell := rfl
  owns := rfl
  isOurs := if_pos (gentle desk.task.engine).2
  stopped := (gentle desk.task.engine).1
  kept _ := .inl rfl

theorem mayAsk (around : Circumstances) (place : Nat) (id : Int) :
    MayAsk (Desk.stage around) place (Minds place id) id where
  asked ask desk := ⟨⟨_, rfl, rfl, nofun⟩, rfl, rfl, rfl, rfl, fun _ => .inl rfl⟩
  stored := by
    rintro call desk value after alone stored
    have asked (kept : Desk) : .asked place (.store call) ∈ (kept.note (.asked place (.store call))).log :=
      List.mem_append_right _ (List.mem_singleton_self _)
    rcases stored with ⟨error, rfl, rfl⟩ | ⟨now, rfl, rfl⟩
    · exact ⟨⟨_, rfl, rfl, nofun⟩, rfl, rfl, rfl, rfl, fun _ => .inl rfl⟩
    · refine ⟨⟨_, rfl, rfl, nofun⟩, rfl, rfl, rfl, rfl, fun other => ?_⟩
      by_cases same : other = id
      · exact .inr ⟨same, _, asked _⟩
      · refine .inl ?_
        show (desk.store.answer now call).2.get? other = _
        rw [Memory.get?_answer, StoreCall.advance_of_not_names (alone other same)]

/-- Whatever is asked about a stream is noted. -/
theorem mayAsk_noted (around : Circumstances) (place : Nat) (id : Int) :
    MayAsk (Desk.stage around) place (fun desk later => ∃ ask, later.log = desk.log ++ [.asked place ask]) id where
  asked ask _ := ⟨ask, rfl⟩
  stored := by
    rintro call desk value after - (⟨error, -, rfl⟩ | ⟨now, -, rfl⟩)
    · exact ⟨_, rfl⟩
    · exact ⟨_, rfl⟩

/-- What there is around one stream of a run, the other streams of it included. -/
abbrev besides (around : Circumstances) (place : Nat) : Surroundings Desk Ask Ask.Reply :=
  ⟨(Desk.stage around).answersAbout place, Spares place⟩

/-- **A stream is left alone after a request to stop, or it is started before any**, whatever the other
streams of its run and others do. -/
theorem ensures_probeStream (fresh : Fresh alert place desk) (settings : ProbingSettings) (stream : Stream) :
    ((Desk.stage around).workAbout place (probeStream settings stream)).Ensures (besides around place)
      (Settled alert place) desk := by
  have stableFresh : Stable (besides around place) (Fresh alert place) :=
    fun _ _ spares fresh => fresh.spared spares
  have stableAfoot : Stable (besides around place) (Afoot alert place) :=
    fun _ _ spares afoot => afoot.spared spares
  have stable {value : Int × StreamOutcome} : Stable (besides around place) (Settled alert place value) :=
    fun _ _ spares settled => settled.spared spares
  rw [probeStream_eq]
  refine ensures_act stableFresh fresh fun seen fresh => ?_
  show ((Desk.stage around).workAbout place (if seen.task.engine.isCancelled = true then _ else _)).Ensures _ _ _
  cases found : seen.task.engine.isCancelled with
  | true =>
    refine ensures_done stable (.inl ⟨rfl, found, ?_, fun ask among => ?_⟩)
    · show started (seen.log ++ [_]) place = false
      rw [started_append, fresh.foreign.started, started, List.any_cons, Event.starts_acted, found]
      rfl
    · rcases List.mem_append.mp among with earlier | last
      · exact fresh.foreign.not_asked ask earlier
      · cases List.mem_singleton.mp last
  | false =>
    have afoot : Afoot alert place
        ((Desk.stage around).putAbout place seen.task.engine seen) :=
      fresh.begins rfl found ((Event.starts_acted _ _ _).trans (by rw [found]; rfl))
        ((Event.ends_acted _ _ _).trans (decide_eq_false (Nat.lt_irrefl _)))
    refine ensures_act stableAfoot afoot fun seen afoot => ?_
    have said : Afoot alert place
        ((Desk.stage around).putAbout place (seen.task.engine.sayItem stream.name) seen) :=
      afoot.goesOn rfl ((Event.ends_acted _ _ _).trans (decide_eq_false (Nat.lt_irrefl _)))
    show ((Desk.stage around).workAbout place (probeOrSkip settings stream >>= _)).Ensures _ _ _
    rw [(Desk.stage around).workAbout_bind]
    have asked := ((mayAsk_noted around place stream.id).within_probeOrSkip settings).ensures_and stableAfoot
      (fun _ _ noted afoot => noted.elim fun _ log => afoot.goesOn log rfl) said
    refine ensures_bind (asked.mono fun outcome later ⟨started, afoot⟩ => ?_)
    refine ensures_act stableAfoot afoot fun seen afoot => ?_
    refine ensures_done stable (.inr ⟨started, afoot.ends rfl ?_⟩)
    have counts : seen.task.engine.progress.current < (seen.task.engine.count outcome).progress.current := by
      rw [EngineCell.current_count]
      exact Nat.lt_succ_self _
    exact (Event.ends_acted _ _ _).trans (decide_eq_true counts)

/-- **A stream minds its own.** -/
theorem within_probeStream (settings : ProbingSettings) (stream : Stream) :
    ((Desk.stage around).workAbout place (probeStream settings stream)).Within
      ((Desk.stage around).answersAbout place) (Minds place stream.id) fun _ => True :=
  (mayAsk around place stream.id).within_probeStream (fun _ gentle desk => minds_change gentle desk) settings

end
end StreamWatch.ProbeTask
